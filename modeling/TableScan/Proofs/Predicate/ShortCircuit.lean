import TableScan.Proofs.Predicate.Reads

/-!
Which tests of the caller are called. A test stands at a place in the tree, told by the turns on the way
to it from the root. Evaluation takes the places from left to right and comes to one just if every node
above it that is left to the right leaves the outcome open after its left side.
-/

namespace TableScan

/-- The sides of a conjunction or a disjunction. -/
inductive Side where
  | left
  | right
deriving DecidableEq

/-- Of two ways from the root, the first turns left where the second turns right. -/
def LeftOf (a b : List Side) : Prop :=
  ∃ above first second, a = above ++ .left :: first ∧ b = above ++ .right :: second

theorem LeftOf.cons {a b : List Side} (side : Side) (h : LeftOf a b) :
    LeftOf (side :: a) (side :: b) := by
  obtain ⟨above, first, second, rfl, rfl⟩ := h
  exact ⟨side :: above, first, second, rfl, rfl⟩

theorem LeftOf.ne {a b : List Side} (h : LeftOf a b) : a ≠ b := by
  obtain ⟨above, first, second, rfl, rfl⟩ := h
  intro heq
  cases List.append_cancel_left heq

theorem Row.readOrNull_of_outside {row : Row} {index : Int}
    (h : index < 0 ∨ row.cells.length ≤ index) : row.readOrNull index = .null := by
  rw [readOrNull, read?]
  cases index with
  | ofNat position =>
    have hlength : row.cells.length ≤ position := by
      rcases h with h | h
      · exact absurd h (Int.not_lt.mpr (Int.natCast_nonneg position))
      · exact Int.ofNat_le.mp h
    exact congrArg (Option.getD · Value.null) (List.getElem?_eq_none hlength)
  | negSucc n => rfl

/-- A test of the caller where it stands in a predicate. -/
structure Site where
  path : List Side
  column : ColumnRef
  view : CellView
  test : CellTest

namespace Site

/-- The site as it stands in a node that has the predicate on this side. -/
def under (side : Side) (site : Site) : Site := { site with path := side :: site.path }

/-- What the test is shown of a row. -/
def seen (site : Site) (row : Row) : Value :=
  site.view.show site.column.type (row.read? site.column.index)

/-- What a test is shown is read off the cell of its column, missing or not. -/
theorem seen_eq (site : Site) (row : Row) :
    site.seen row = match site.view with
      | .stored => row.readOrNull site.column.index
      | .typed => (Value.readAs site.column.type (row.readOrNull site.column.index)).getD .null := by
  rw [seen, ← CellView.show_getD]
  cases site.view <;> rfl

def call (site : Site) (row : Row) : Call := ⟨site.test.label, site.seen row⟩

/-- The sites of a node whose sides have these. -/
def joined (left right : List Site) : List Site :=
  left.map (under .left) ++ right.map (under .right)

variable {left right sites : List Site} {site : Site} {side other : Side} {row : Row}

theorem under_mem_map : site.under side ∈ sites.map (under other) ↔ side = other ∧ site ∈ sites := by
  obtain ⟨path, column, view, test⟩ := site
  rw [List.mem_map]
  constructor
  · rintro ⟨⟨path', column', view', test'⟩, hmem, heq⟩
    cases heq
    exact ⟨rfl, hmem⟩
  · rintro ⟨rfl, hmem⟩
    exact ⟨_, hmem, rfl⟩

theorem mem_joined_left : site.under .left ∈ joined left right ↔ site ∈ left := by
  simp [joined, under_mem_map]

theorem mem_joined_right : site.under .right ∈ joined left right ↔ site ∈ right := by
  simp [joined, under_mem_map]

theorem path_ne_nil (h : site ∈ joined left right) : site.path ≠ [] := by
  rcases List.mem_append.mp h with h | h <;> obtain ⟨other, -, rfl⟩ := List.mem_map.mp h
  · exact List.cons_ne_nil _ _
  · exact List.cons_ne_nil _ _

theorem map_call_joined (left right : List Site) (row : Row) :
    (joined left right).map (·.call row) = left.map (·.call row) ++ right.map (·.call row) := by
  rw [joined, List.map_append, List.map_map, List.map_map]
  rfl

theorem joined_sublist {first second : List Site} (hleft : first.Sublist left)
    (hright : second.Sublist right) : (joined first second).Sublist (joined left right) :=
  (hleft.map _).append (hright.map _)

theorem pairwise_joined (hleft : left.Pairwise fun a b => LeftOf a.path b.path)
    (hright : right.Pairwise fun a b => LeftOf a.path b.path) :
    (joined left right).Pairwise fun a b => LeftOf a.path b.path := by
  refine List.pairwise_append.mpr ⟨?_, ?_, ?_⟩
  · exact List.pairwise_map.mpr (hleft.imp (LeftOf.cons .left))
  · exact List.pairwise_map.mpr (hright.imp (LeftOf.cons .right))
  · intro a ha b hb
    obtain ⟨first, -, rfl⟩ := List.mem_map.mp ha
    obtain ⟨second, -, rfl⟩ := List.mem_map.mp hb
    exact ⟨[], first.path, second.path, rfl, rfl⟩

end Site

namespace Predicate

def child? : Predicate → Side → Option Predicate
  | and left _, .left | or left _, .left => some left
  | and _ right, .right | or _ right, .right => some right
  | _, _ => none

/-- The node to which a way from the root leads. -/
def node? (p : Predicate) : List Side → Option Predicate
  | [] => some p
  | side :: path => (p.child? side).bind (·.node? path)

/-- The tests of the caller from left to right. -/
def sites : Predicate → List Site
  | comparison _ _ _ => []
  | userDefined column view test => [⟨[], column, view, test⟩]
  | and left right | or left right => Site.joined left.sites right.sites

/-- Whether the right side is needed: that of a conjunction if the left side holds, that of a
disjunction if it does not. -/
def goesRight (row : Row) : Predicate → Bool
  | and left _ => left.holds row
  | or left _ => !left.holds row
  | _ => false

/-- The tests that evaluation comes to, from left to right. -/
def invoked (row : Row) : Predicate → List Site
  | comparison _ _ _ => []
  | userDefined column view test => [⟨[], column, view, test⟩]
  | and left right =>
    Site.joined (left.invoked row) (if left.holds row then right.invoked row else [])
  | or left right =>
    Site.joined (left.invoked row) (if !left.holds row then right.invoked row else [])

/-- Whether evaluation comes to the end of a path: every node that is left to the right needs its right
side. -/
def Reaches (p : Predicate) (row : Row) (path : List Side) : Prop :=
  ∀ above below node, path = above ++ .right :: below → p.node? above = some node →
    node.goesRight row = true

variable {p child : Predicate} {row : Row} {side : Side} {path : List Side} {site : Site}

theorem reaches_nil (p : Predicate) (row : Row) : p.Reaches row [] := by
  intro above below node hpath
  cases above <;> cases hpath

/-- The way to a node below a side is the way below that side, and it is taken to the right only if the
right side is needed. -/
theorem reaches_cons (h : p.child? side = some child) :
    p.Reaches row (side :: path) ↔
      (side = .right → p.goesRight row = true) ∧ child.Reaches row path := by
  have hnode : ∀ above, p.node? (side :: above) = child.node? above := fun above => by
    rw [node?, h]
    rfl
  constructor
  · intro hreach
    refine ⟨?_, ?_⟩
    · rintro rfl
      exact hreach [] path p rfl rfl
    · intro above below node hpath hbelow
      exact hreach (side :: above) below node (congrArg (side :: ·) hpath) ((hnode above).trans hbelow)
  · rintro ⟨hright, hreach⟩ above below node hpath hat
    cases above with
    | nil =>
      obtain ⟨rfl, -⟩ := List.cons.inj hpath
      obtain rfl := Option.some.inj hat
      exact hright rfl
    | cons first above =>
      obtain ⟨rfl, hrest⟩ := List.cons.inj hpath
      exact hreach above below node hrest ((hnode above).symm.trans hat)

/-! ## The tests of a predicate -/

theorem under_mem_sites (p : Predicate) (side : Side) (site : Site) :
    site.under side ∈ p.sites ↔ ∃ child, p.child? side = some child ∧ site ∈ child.sites := by
  cases p with
  | comparison column op literal => simp [sites, child?]
  | userDefined column view test => simp [sites, child?, Site.under]
  | and left right | or left right =>
    cases side with
    | left => simp [sites, child?, Site.mem_joined_left]
    | right => simp [sites, child?, Site.mem_joined_right]

/-- The tests are the leaves that are tests of the caller. The induction goes down the path. -/
theorem mem_sites_iff :
    site ∈ p.sites ↔ p.node? site.path = some (userDefined site.column site.view site.test) := by
  obtain ⟨path, column, view, test⟩ := site
  induction path generalizing p with
  | nil =>
    cases p with
    | comparison column op literal => simp [sites, node?]
    | userDefined column' view' test' => simp [sites, node?, eq_comm]
    | and left right | or left right =>
      refine iff_of_false (fun h => Site.path_ne_nil h rfl) ?_
      simp [node?]
  | cons side path ih =>
    refine (under_mem_sites p side ⟨path, column, view, test⟩).trans ?_
    simp only [node?, Option.bind_eq_some_iff, ih]

/-- From left to right, and so each at one place only. -/
theorem pairwise_sites (p : Predicate) : p.sites.Pairwise fun a b => LeftOf a.path b.path := by
  induction p with
  | comparison column op literal => exact .nil
  | userDefined column view test => exact List.pairwise_singleton _ _
  | and left right ihl ihr | or left right ihl ihr => exact Site.pairwise_joined ihl ihr

/-! ## The tests that are called -/

theorem invoked_sublist (p : Predicate) (row : Row) : (p.invoked row).Sublist p.sites := by
  induction p with
  | comparison column op literal => exact .refl _
  | userDefined column view test => exact .refl _
  | and left right ihl ihr | or left right ihl ihr =>
    refine Site.joined_sublist ihl ?_
    split
    · exact ihr
    · exact List.nil_sublist _

theorem calls_eq (p : Predicate) (row : Row) : p.calls row = (p.invoked row).map (·.call row) := by
  induction p with
  | comparison column op literal => rfl
  | userDefined column view test => rfl
  | and left right ihl ihr =>
    rw [calls_and, invoked, Site.map_call_joined, ihl, ihr]
    cases left.holds row <;> rfl
  | or left right ihl ihr =>
    rw [calls_or, invoked, Site.map_call_joined, ihl, ihr]
    cases left.holds row <;> rfl

theorem under_mem_invoked (p : Predicate) (row : Row) (side : Side) (site : Site) :
    site.under side ∈ p.invoked row ↔
      ∃ child, p.child? side = some child ∧ (side = .right → p.goesRight row = true) ∧
        site ∈ child.invoked row := by
  cases p with
  | comparison column op literal => simp [invoked, child?]
  | userDefined column view test => simp [invoked, child?, Site.under]
  | and left right | or left right =>
    cases side with
    | left => simp [invoked, child?, Site.mem_joined_left]
    | right => cases h : left.holds row <;> simp [invoked, child?, goesRight, Site.mem_joined_right, h]

/-- The tests that are called are those that evaluation reaches. -/
theorem mem_invoked_iff : site ∈ p.invoked row ↔ site ∈ p.sites ∧ p.Reaches row site.path := by
  obtain ⟨path, column, view, test⟩ := site
  induction path generalizing p with
  | nil =>
    rw [and_iff_left (reaches_nil p row)]
    cases p with
    | comparison column op literal => exact Iff.rfl
    | userDefined column' view' test' => exact Iff.rfl
    | and left right | or left right =>
      exact iff_of_false (fun h => Site.path_ne_nil h rfl) (fun h => Site.path_ne_nil h rfl)
  | cons side path ih =>
    refine (under_mem_invoked p row side ⟨path, column, view, test⟩).trans ?_
    constructor
    · rintro ⟨child, hchild, hright, hmem⟩
      obtain ⟨hsite, hreach⟩ := ih.mp hmem
      exact ⟨(under_mem_sites p side _).mpr ⟨child, hchild, hsite⟩,
        (reaches_cons hchild).mpr ⟨hright, hreach⟩⟩
    · rintro ⟨hmem, hreach⟩
      obtain ⟨child, hchild, hsite⟩ :=
        (under_mem_sites p side ⟨path, column, view, test⟩).mp hmem
      obtain ⟨hright, hreach⟩ := (reaches_cons hchild).mp hreach
      exact ⟨child, hchild, hright, ih.mpr ⟨hsite, hreach⟩⟩

/-- One evaluation calls the tests that it reaches, from left to right and each once: those of which
every node that they are to the right of needs its right side. Each is shown the cell of its column, as
it is stored or as it is read, and a missing cell where there is none or it cannot be read. -/
theorem calls_short_circuit (p : Predicate) (row : Row) :
    (∃ invoked : List Site, p.calls row = invoked.map (·.call row) ∧
      invoked.Sublist p.sites ∧ (invoked.map Site.path).Nodup ∧
      ∀ site ∈ p.sites, site ∈ invoked ↔ p.Reaches row site.path) ∧
    (∀ site, site ∈ p.sites ↔
      p.node? site.path = some (userDefined site.column site.view site.test)) ∧
    (p.sites.Pairwise fun a b => LeftOf a.path b.path) ∧
    (∀ site : Site, site.seen row = match site.view with
      | .stored => row.readOrNull site.column.index
      | .typed => (Value.readAs site.column.type (row.readOrNull site.column.index)).getD .null) ∧
    (∀ index : Int, index < 0 ∨ row.cells.length ≤ index → row.readOrNull index = .null) ∧
    ∀ (position : Nat) (cell : Value), row.cells[position]? = some cell →
      row.readOrNull position = cell := by
  have hsublist := p.invoked_sublist row
  have hordered := p.pairwise_sites
  refine ⟨⟨p.invoked row, p.calls_eq row, hsublist, ?_, fun site hsite => ?_⟩, fun site => mem_sites_iff,
    hordered, fun site => site.seen_eq row, fun index => Row.readOrNull_of_outside,
    fun position cell hcell => ?_⟩
  · exact List.pairwise_map.mpr ((hordered.sublist hsublist).imp LeftOf.ne)
  · rw [mem_invoked_iff, and_iff_right hsite]
  · exact Option.getD_eq_iff.mpr (.inl hcell)

/-- One test is left out, since the side before it holds. A text is not read as an integer, and no cell
stands before the first or past the last. -/
example :
    let row : Row := ⟨"a", [.int32 3, .utf8 "x"]⟩
    let test (label : String) (index : Int) (type : ColumnType) (answer : Bool) : Predicate :=
      userDefined ⟨index, type⟩ .typed ⟨label, fun _ => answer⟩
    (and (or (and (test "a" 0 .int64 true) (test "b" 1 .int64 true)) (test "c" 0 .int32 true))
      (or (test "d" (-1) .utf8 false) (test "e" 2 .utf8 true))).calls row =
      [⟨"a", .int64 3⟩, ⟨"b", .null⟩, ⟨"d", .null⟩, ⟨"e", .null⟩] := by
  decide

end Predicate

end TableScan
