import TableScan.Predicate.Evaluate
import TableScan.Predicate.Validate
import TableScan.Proofs.Faults

/-!
Conjunctions and disjunctions of lists. The fold puts every member to the right of all members before
it. So the joined predicate asks its members in the order of the list and stops at the first one whose
outcome decides: a member that fails a conjunction, or one that satisfies a disjunction.
-/

namespace TableScan.Predicate

variable {decisive : Bool} {members : List Predicate} {p joined node : Predicate} {row : Row}
  {catalog : Catalog}

/-- The members up to and including the first one with the decisive outcome, or all of them if no
member has it. -/
def asked (decisive : Bool) (row : Row) : List Predicate → List Predicate
  | [] => []
  | p :: rest => p :: if p.holds row = decisive then [] else asked decisive row rest

theorem asked_concat :
    asked decisive row (members ++ [p]) =
      asked decisive row members ++ if ∃ q ∈ members, q.holds row = decisive then [] else [p] := by
  induction members with
  | nil => simp [asked]
  | cons first members ih =>
    rw [List.cons_append, asked, asked, ih, List.cons_append]
    by_cases hfirst : first.holds row = decisive
    · simp [hfirst]
    · simp [hfirst]

/-- A predicate that stands for a list of others: it has the decisive outcome just if one of them has
it, and does to a row or a catalog what they do one after the other. -/
structure Joins (decisive : Bool) (members : List Predicate) (joined : Predicate) : Prop where
  holds_iff : ∀ row, joined.holds row = decisive ↔ ∃ p ∈ members, p.holds row = decisive
  calls_eq : ∀ row, joined.calls row = (asked decisive row members).flatMap (·.calls row)
  checks : ∀ catalog, Checks (joined.validate catalog)
    (∀ p ∈ members, p.validate catalog = .ok ()) ()
    (FirstFault (fun p => p.validate catalog = .ok ()) (fun p error => p.validate catalog = .error error)
      members)
  referencedColumns_eq : joined.referencedColumns = members.flatMap referencedColumns

/-- Validation checks what it says of itself. -/
theorem checks_self (catalog : Catalog) (p : Predicate) :
    Checks (p.validate catalog) (p.validate catalog = .ok ()) ()
      fun error => p.validate catalog = .error error where
  ok h := h
  error _ h := h
  decides := by
    cases p.validate catalog with
    | ok _ => exact .inl rfl
    | error error => exact .inr ⟨error, rfl⟩

namespace Joins

theorem single (decisive : Bool) (p : Predicate) : Joins decisive [p] p where
  holds_iff row := by simp
  calls_eq row := by simp [asked]
  checks catalog := by
    refine (p.checks_self catalog).of_iff ?_ fun error => ?_
    · exact List.forall_mem_singleton
    · exact FirstFault.singleton_iff
  referencedColumns_eq := (List.flatMap_singleton _ _).symm

/-- One more member on the right. The node asks it only if the members before it leave the outcome
open. -/
theorem concat (h : Joins decisive members joined)
    (hholds : ∀ row, node.holds row = decisive ↔ joined.holds row = decisive ∨ p.holds row = decisive)
    (hcalls : ∀ row, node.calls row =
      joined.calls row ++ if joined.holds row = decisive then [] else p.calls row)
    (hvalidate : ∀ catalog, node.validate catalog =
      joined.validate catalog >>= fun _ => p.validate catalog)
    (hcolumns : node.referencedColumns = joined.referencedColumns ++ p.referencedColumns) :
    Joins decisive (members ++ [p]) node where
  holds_iff row := by
    rw [hholds, h.holds_iff]
    simp [or_and_right, exists_or]
  calls_eq row := by
    rw [hcalls, h.calls_eq, asked_concat, List.flatMap_append]
    -- The node and the list leave the new member out under the same condition.
    by_cases hdecided : joined.holds row = decisive
    · rw [if_pos hdecided, if_pos ((h.holds_iff row).mp hdecided)]
      rfl
    · rw [if_neg hdecided, if_neg (mt (h.holds_iff row).mpr hdecided), List.flatMap_singleton]
  checks catalog := by
    rw [hvalidate]
    refine ((h.checks catalog).bind fun _ => p.checks_self catalog).of_iff ?_ fun error => ?_
    · rw [List.forall_mem_append, List.forall_mem_singleton]
    · rw [FirstFault.append_iff, FirstFault.singleton_iff]
  referencedColumns_eq := by
    rw [hcolumns, h.referencedColumns_eq, List.flatMap_append, List.flatMap_singleton]

theorem and (h : Joins false members joined) (p : Predicate) :
    Joins false (members ++ [p]) (joined.and p) := by
  refine h.concat (fun row => ?_) (fun row => ?_) (fun catalog => rfl) rfl
  · rw [holds_and, Bool.and_eq_false_iff]
  · rw [calls_and]
    cases joined.holds row <;> rfl

theorem or (h : Joins true members joined) (p : Predicate) :
    Joins true (members ++ [p]) (joined.or p) := by
  refine h.concat (fun row => ?_) (fun row => ?_) (fun catalog => rfl) rfl
  · rw [holds_or, Bool.or_eq_true]
  · rw [calls_or]

/-- What holds of one more member holds of the whole fold. -/
theorem foldl {join : Predicate → Predicate → Predicate}
    (hjoin : ∀ {members joined}, Joins decisive members joined →
      ∀ p, Joins decisive (members ++ [p]) (join joined p))
    (h : Joins decisive members joined) (rest : List Predicate) :
    Joins decisive (members ++ rest) (rest.foldl join joined) := by
  induction rest generalizing members joined with
  | nil => rwa [List.append_nil]
  | cons p rest ih =>
    have hrest := ih (hjoin h p)
    rwa [List.append_assoc] at hrest

theorem of_conjunction (h : conjunction members = some joined) : Joins false members joined := by
  cases members with
  | nil => cases h
  | cons first rest =>
    cases h
    exact (single false first).foldl Joins.and rest

theorem of_disjunction (h : disjunction members = some joined) : Joins true members joined := by
  cases members with
  | nil => cases h
  | cons first rest =>
    cases h
    exact (single true first).foldl Joins.or rest

end Joins

/-- Without members there is nothing to join. A conjunction holds if all members do and a disjunction
if some member does; the tests that are called are those of the members in the order of the list, up to
and including the first member that decides the outcome. Validation reports the fault of the first member
that has one, and the columns are those of the members in order. -/
theorem joined_in_order (members : List Predicate) :
    (conjunction members = none ↔ members = []) ∧
    (disjunction members = none ↔ members = []) ∧
    (∀ joined, conjunction members = some joined → ∀ row,
      (joined.holds row = true ↔ ∀ p ∈ members, p.holds row = true) ∧
      joined.calls row = (asked false row members).flatMap (·.calls row)) ∧
    (∀ joined, disjunction members = some joined → ∀ row,
      (joined.holds row = true ↔ ∃ p ∈ members, p.holds row = true) ∧
      joined.calls row = (asked true row members).flatMap (·.calls row)) ∧
    ∀ joined, conjunction members = some joined ∨ disjunction members = some joined →
      (∀ catalog,
        (joined.validate catalog = .ok () ↔ ∀ p ∈ members, p.validate catalog = .ok ()) ∧
        ∀ error, joined.validate catalog = .error error ↔
          FirstFault (fun p => p.validate catalog = .ok ())
            (fun p error => p.validate catalog = .error error) members error) ∧
      joined.referencedColumns = members.flatMap referencedColumns := by
  refine ⟨?_, ?_, fun joined h row => ?_, fun joined h row => ?_, fun joined h => ?_⟩
  · cases members <;> simp [conjunction]
  · cases members <;> simp [disjunction]
  · have hjoins := Joins.of_conjunction h
    refine ⟨?_, hjoins.calls_eq row⟩
    rw [← Bool.not_eq_false, hjoins.holds_iff]
    simp
  · have hjoins := Joins.of_disjunction h
    exact ⟨hjoins.holds_iff row, hjoins.calls_eq row⟩
  · obtain ⟨decisive, hjoins⟩ : ∃ decisive, Joins decisive members joined := by
      rcases h with h | h
      · exact ⟨false, .of_conjunction h⟩
      · exact ⟨true, .of_disjunction h⟩
    refine ⟨fun catalog => ⟨?_, fun error => (hjoins.checks catalog).error_iff⟩,
      hjoins.referencedColumns_eq⟩
    rw [(hjoins.checks catalog).ok_iff, and_iff_left rfl]

/-- The member that decides is in the middle: the one after it is not asked. Two members name no column,
and the fault is that of the one that comes first in the list. -/
theorem joined_in_order_decided :
    let row : Row := ⟨"a", [.int32 3, .utf8 "x"]⟩
    let catalog : Catalog := ⟨2, fun i => [.int32, .utf8][i]?, fun _ => none⟩
    let test (label : String) (index : Int) (answer : Bool) : Predicate :=
      userDefined ⟨index, .utf8⟩ .stored ⟨label, fun _ => answer⟩
    let yes := test "yes" 0 true
    let no := test "no" 2 false
    let last := test "last" (-1) true
    ((yes.and no).and last).calls row = [⟨"yes", .int32 3⟩, ⟨"no", .null⟩] ∧
      ((no.or yes).or last).calls row = [⟨"no", .null⟩, ⟨"yes", .int32 3⟩] ∧
      ((yes.and last).and no).validate catalog = .error (.columnOutOfRange (-1) 2) ∧
      ((yes.or last).or no).referencedColumns = [0, -1, 2] := by
  intro row catalog test yes no last
  refine ⟨?_, ?_, ?_, ?_⟩
  · exact ((joined_in_order [yes, no, last]).2.2.1 _ rfl row).2
  · exact ((joined_in_order [no, yes, last]).2.2.2.1 _ rfl row).2
  · have hfirst : FirstFault (fun p : Predicate => p.validate catalog = .ok ())
        (fun p error => p.validate catalog = .error error) [yes, last, no]
        (.columnOutOfRange (-1) 2) := .later rfl (.here rfl)
    exact (((joined_in_order [yes, last, no]).2.2.2.2 _ (.inl rfl)).1 catalog).2 _ |>.mpr hfirst
  · exact ((joined_in_order [yes, last, no]).2.2.2.2 _ (.inr rfl)).2

end TableScan.Predicate
