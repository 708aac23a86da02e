import TableScan.Predicate.Text
import TableScan.Proofs.Value.Text

/-!
What the text of a predicate tells. The text begins with a character that tells the kind of the root,
and every part of it ends in one place only, so the tree can be read back from the text as far as it is
shown: a caller's test is shown by its column alone, and of a literal only the text.
-/

namespace TableScan

theorem Operator.text_injective {a b : Operator} (h : a.text = b.text) : a = b := by
  revert h
  cases a <;> cases b <;> decide

theorem Operator.space_not_mem_text (op : Operator) : ' ' ∉ op.text.toList := by
  cases op <;> decide

namespace Predicate

/-- No text among the literals has an apostrophe in it. -/
def Unquoted : Predicate → Prop
  | comparison _ _ literal => literal.Unquoted
  | userDefined _ _ _ => True
  | and left right | or left right => left.Unquoted ∧ right.Unquoted

/-- Predicates with the same nodes in the same places, whose leaves agree in the index of their column
and, where they compare, in the operator and in the text of the literal. -/
inductive ShownAlike : Predicate → Predicate → Prop
  | comparison {c d : ColumnRef} {op : Operator} {v w : Value} :
      c.index = d.index → v.text = w.text → (∀ s, v = .utf8 s ↔ w = .utf8 s) →
      ShownAlike (comparison c op v) (comparison d op w)
  | userDefined {c d : ColumnRef} {view view' : CellView} {test test' : CellTest} :
      c.index = d.index → ShownAlike (userDefined c view test) (userDefined d view' test')
  | and {left right left' right' : Predicate} : ShownAlike left left' → ShownAlike right right' →
      ShownAlike (and left right) (and left' right')
  | or {left right left' right' : Predicate} : ShownAlike left left' → ShownAlike right right' →
      ShownAlike (or left right) (or left' right')

theorem ShownAlike.text_eq {p q : Predicate} (h : ShownAlike p q) : p.text = q.text := by
  induction h with
  | comparison hindex hliteral _ => rw [text, text, ColumnRef.text, ColumnRef.text, hindex, hliteral]
  | userDefined hindex => rw [text, text, ColumnRef.text, ColumnRef.text, hindex]
  | and _ _ ihl ihr => rw [text, text, ihl, ihr]
  | or _ _ ihl ihr => rw [text, text, ihl, ihr]

/-! ## The text as characters -/

section Characters

variable (column : ColumnRef) (left right : Predicate) (rest : List Char)

theorem toList_comparison (op : Operator) (literal : Value) :
    (comparison column op literal).text.toList ++ rest =
      ['c', 'o', 'l'] ++ (column.index.repr.toList ++
        ' ' :: (op.text.toList ++ ' ' :: (literal.text.toList ++ rest))) := by
  simp [text, ColumnRef.text]

theorem toList_userDefined (view : CellView) (test : CellTest) :
    (userDefined column view test).text.toList ++ rest =
      ['u', 'd', 'f', '(', 'c', 'o', 'l'] ++ (column.index.repr.toList ++ ')' :: rest) := by
  simp [text, ColumnRef.text]

/-- A node with its sides and the word between them. -/
def nodeText (word : List Char) : List Char :=
  '(' :: (left.text.toList ++ ' ' :: (word ++ ' ' :: (right.text.toList ++ ')' :: rest)))

theorem toList_and :
    (and left right).text.toList ++ rest = nodeText left right rest ['A', 'N', 'D'] := by
  simp [text, nodeText]

theorem toList_or :
    (or left right).text.toList ++ rest = nodeText left right rest ['O', 'R'] := by
  simp [text, nodeText]

/-- The character that the text begins with. -/
def initial : Predicate → Char
  | comparison _ _ _ => 'c'
  | userDefined _ _ _ => 'u'
  | and _ _ | or _ _ => '('

theorem initial_eq_of_text {p q : Predicate} {x y : List Char}
    (h : p.text.toList ++ x = q.text.toList ++ y) : p.initial = q.initial := by
  have hinitial : ∀ (p : Predicate) x, ∃ rest, p.text.toList ++ x = p.initial :: rest := by
    intro p x
    cases p with
    | comparison column op literal => exact ⟨_, toList_comparison ..⟩
    | userDefined column view test => exact ⟨_, toList_userDefined ..⟩
    | and left right => exact ⟨_, toList_and ..⟩
    | or left right => exact ⟨_, toList_or ..⟩
  obtain ⟨rest, hp⟩ := hinitial p x
  obtain ⟨rest', hq⟩ := hinitial q y
  rw [hp, hq] at h
  exact (List.cons.inj h).1

end Characters

/-! ## Reading the text back -/

/-- A number can be read back from its digits. -/
theorem toDigits_inj {m n : Nat} (h : Nat.toDigits 10 m = Nat.toDigits 10 n) : m = n := by
  have hread := congrArg (Nat.ofDigitChars 10 · 0) h
  simpa only [Nat.ofDigitChars_ten_toDigits] using hread

/-- Only a negative index begins with a character that is not a digit. -/
theorem index_repr_inj {m n : Int} (h : m.repr.toList = n.repr.toList) : m = n := by
  have hsign : ∀ {k : Nat} {rest : List Char}, Nat.toDigits 10 k ≠ '-' :: rest := by
    intro k rest hk
    have hdigit := Nat.isDigit_of_mem_toDigits (by decide) (by decide) (hk ▸ List.mem_cons_self)
    exact absurd hdigit (by decide)
  cases m with
  | ofNat m =>
    cases n with
    | ofNat n =>
      rw [Int.repr, Int.repr, Nat.toList_repr, Nat.toList_repr] at h
      exact congrArg Int.ofNat (toDigits_inj h)
    | negSucc n =>
      rw [Int.repr, Int.repr, String.toList_append, Nat.toList_repr, Nat.toList_repr] at h
      exact absurd h hsign
  | negSucc m =>
    cases n with
    | ofNat n =>
      rw [Int.repr, Int.repr, String.toList_append, Nat.toList_repr, Nat.toList_repr] at h
      exact absurd h.symm hsign
    | negSucc n =>
      rw [Int.repr, Int.repr, String.toList_append, String.toList_append, Nat.toList_repr,
        Nat.toList_repr] at h
      exact congrArg Int.negSucc (Nat.succ.inj (toDigits_inj (List.cons.inj h).2))

/-- Whether the text of the predicate ends in one place only and tells all that is shown. -/
def Told (p : Predicate) : Prop :=
  ∀ ⦃q : Predicate⦄ ⦃x y : List Char⦄, q.Unquoted → Delimited x → Delimited y →
    p.text.toList ++ x = q.text.toList ++ y → ShownAlike p q ∧ x = y

theorem index_append_inj {m n : Int} {close : Char} {x y : List Char}
    (hclose : isWordChar close = false)
    (h : m.repr.toList ++ close :: x = n.repr.toList ++ close :: y) : m = n ∧ x = y := by
  obtain ⟨hindex, hrest⟩ :=
    closed_append_inj ((IsWord.repr m).not_mem hclose) ((IsWord.repr n).not_mem hclose) h
  exact ⟨index_repr_inj hindex, hrest⟩

theorem told_comparison {column : ColumnRef} {op : Operator} {literal : Value}
    (hliteral : literal.Unquoted) : (comparison column op literal).Told := by
  intro q x y hq hx hy h
  cases q with
  | comparison column' op' literal' =>
    rw [toList_comparison, toList_comparison] at h
    obtain ⟨hindex, hafter⟩ := index_append_inj rfl (List.append_cancel_left h)
    obtain ⟨hop, hafter⟩ := closed_append_inj op.space_not_mem_text op'.space_not_mem_text hafter
    obtain ⟨htext, hwording, hrest⟩ := Value.text_append_inj hliteral hq hx hy hafter
    obtain rfl := Operator.text_injective (String.toList_inj.mp hop)
    refine ⟨.comparison hindex htext fun s => ⟨?_, ?_⟩, hrest⟩
    · rintro rfl
      exact Value.eq_utf8_of_text htext hwording
    · rintro rfl
      exact Value.eq_utf8_of_text htext.symm hwording.symm
  | userDefined _ _ _ | and _ _ | or _ _ => exact absurd (initial_eq_of_text h) (by simp [initial])

theorem told_userDefined (column : ColumnRef) (view : CellView) (test : CellTest) :
    (userDefined column view test).Told := by
  intro q x y hq hx hy h
  cases q with
  | userDefined column' view' test' =>
    rw [toList_userDefined, toList_userDefined] at h
    obtain ⟨hindex, hrest⟩ := index_append_inj rfl (List.append_cancel_left h)
    exact ⟨.userDefined hindex, hrest⟩
  | comparison _ _ _ | and _ _ | or _ _ => exact absurd (initial_eq_of_text h) (by simp [initial])

/-- What reads like a node is one, with the same word between its sides. The sides end where the word
and the closing parenthesis are. -/
theorem of_nodeText {left right q : Predicate} {word x y : List Char}
    (hleft : left.Told) (hright : right.Told) (hword : ' ' ∉ word) (hq : q.Unquoted)
    (h : nodeText left right x word = q.text.toList ++ y) :
    ∃ left' right', (q = and left' right' ∧ word = ['A', 'N', 'D'] ∨
        q = or left' right' ∧ word = ['O', 'R']) ∧
      ShownAlike left left' ∧ ShownAlike right right' ∧ x = y := by
  have hsides : ∀ {left' right' word'}, left'.Unquoted → right'.Unquoted → ' ' ∉ word' →
      nodeText left right x word = nodeText left' right' y word' →
      word = word' ∧ ShownAlike left left' ∧ ShownAlike right right' ∧ x = y := by
    intro left' right' word' hleft' hright' hword' h
    obtain ⟨hleft, hrest⟩ := hleft hleft' (delimited_space _) (delimited_space _) (List.cons.inj h).2
    obtain ⟨heq, hrest⟩ := closed_append_inj hword hword' (List.cons.inj hrest).2
    obtain ⟨hright, hrest⟩ :=
      hright hright' (delimited_parenthesis _) (delimited_parenthesis _) hrest
    exact ⟨heq, hleft, hright, (List.cons.inj hrest).2⟩
  cases q with
  | and left' right' =>
    rw [toList_and] at h
    obtain ⟨heq, halike⟩ := hsides hq.1 hq.2 (by decide) h
    exact ⟨left', right', .inl ⟨rfl, heq⟩, halike⟩
  | or left' right' =>
    rw [toList_or] at h
    obtain ⟨heq, halike⟩ := hsides hq.1 hq.2 (by decide) h
    exact ⟨left', right', .inr ⟨rfl, heq⟩, halike⟩
  | comparison column op literal =>
    rw [toList_comparison] at h
    exact absurd (List.cons.inj h).1 (by decide)
  | userDefined column view test =>
    rw [toList_userDefined] at h
    exact absurd (List.cons.inj h).1 (by decide)

theorem told_and {left right : Predicate} (hleft : left.Told) (hright : right.Told) :
    (and left right).Told := by
  intro q x y hq _ _ h
  rw [toList_and] at h
  obtain ⟨left', right', ⟨rfl, -⟩ | ⟨-, hword⟩, halike, halike', hrest⟩ :=
    of_nodeText hleft hright (by decide) hq h
  · exact ⟨.and halike halike', hrest⟩
  · cases hword

theorem told_or {left right : Predicate} (hleft : left.Told) (hright : right.Told) :
    (or left right).Told := by
  intro q x y hq _ _ h
  rw [toList_or] at h
  obtain ⟨left', right', ⟨-, hword⟩ | ⟨rfl, -⟩, halike, halike', hrest⟩ :=
    of_nodeText hleft hright (by decide) hq h
  · cases hword
  · exact ⟨.or halike halike', hrest⟩

theorem told {p : Predicate} (h : p.Unquoted) : p.Told := by
  -- `Told` speaks of any text that follows, so a side may be followed by the rest of its node.
  induction p with
  | comparison column op literal => exact told_comparison h
  | userDefined column view test => exact told_userDefined column view test
  | and left right ihl ihr => exact told_and (ihl h.1) (ihr h.2)
  | or left right ihl ihr => exact told_or (ihl h.1) (ihr h.2)

/-- Predicates without an apostrophe in their literals have the same text just if they have the same
nodes in the same places and their leaves are shown alike. -/
theorem text_unambiguous {p q : Predicate} (hp : p.Unquoted) (hq : q.Unquoted) :
    p.text = q.text ↔ ShownAlike p q := by
  constructor
  · intro h
    refine (told hp hq delimited_nil delimited_nil ?_).1
    rw [h]
  · exact ShownAlike.text_eq

/-- A literal that reads like a part of a predicate, and leaves that differ in what is not shown. -/
theorem text_unambiguous_nested :
    let label : Predicate := .comparison ⟨0, .utf8⟩ .neq (.utf8 "a) AND udf(col1")
    let seen (view : CellView) (answer : Bool) : Predicate :=
      .userDefined ⟨2, .utf8⟩ view ⟨"seen", fun _ => answer⟩
    let p := label.and ((comparison ⟨-1, .int32⟩ .leq (.int32 5)).or (seen .stored true))
    let q := label.and ((comparison ⟨-1, .int64⟩ .leq (.int64 5)).or (seen .typed false))
    p.Unquoted ∧ q.Unquoted ∧
      p.text = "(col0 != 'a) AND udf(col1' AND (col-1 <= 5 OR udf(col2)))" ∧ ShownAlike p q := by
  intro label seen p q
  have hlabel : label.Unquoted := (by decide : '\x27' ∉ "a) AND udf(col1".toList)
  have hp : p.Unquoted := ⟨hlabel, trivial, trivial⟩
  have hq : q.Unquoted := ⟨hlabel, trivial, trivial⟩
  exact ⟨hp, hq, rfl, (text_unambiguous hp hq).mp rfl⟩

/-- After an apostrophe the text leaves open where a literal ends. -/
example :
    let compare (index : Int) (s : String) : Predicate := .comparison ⟨index, .utf8⟩ .eq (.utf8 s)
    ((compare 0 "a").and (compare 1 "b' AND col2 = 'c")).text =
      ((compare 0 "a' AND col1 = 'b").and (compare 2 "c")).text := rfl

end Predicate

end TableScan
