import Mathlib.Data.List.Basic
import TableScan.Value.Text

/-!
Where the text of a value ends. In a longer text the value is followed by a space or a closing
parenthesis. Most values are shown by letters, digits, points and minus signs alone, and end where another
character follows; the others begin in a way of their own, which tells what they end with. Text between
apostrophes may have anything in it but an apostrophe.
-/

namespace TableScan

/-! ## Runs of characters -/

/-- A run of characters of one class ends where a character of another class follows. -/
theorem run_append_inj {inside : Char → Bool} {a b x y : List Char}
    (ha : ∀ c ∈ a, inside c = true) (hb : ∀ c ∈ b, inside c = true)
    (hx : ∀ c ∈ x.head?, inside c = false) (hy : ∀ c ∈ y.head?, inside c = false)
    (h : a ++ x = b ++ y) : a = b ∧ x = y := by
  have houtside : ∀ rest : List Char, (∀ c ∈ rest.head?, inside c = false) →
      rest.takeWhile inside = [] := by
    intro rest hrest
    cases rest with
    | nil => rfl
    | cons c rest => exact List.takeWhile_cons_of_neg (Bool.not_eq_true _ ▸ hrest c rfl)
  have hrun := congrArg (List.takeWhile inside) h
  rw [List.takeWhile_append_of_pos ha, List.takeWhile_append_of_pos hb, houtside x hx,
    houtside y hy, List.append_nil, List.append_nil] at hrun
  subst hrun
  exact ⟨rfl, List.append_cancel_left h⟩

/-- A part that ends with a character which it does not have before. -/
theorem closed_append_inj {close : Char} {a b x y : List Char} (ha : close ∉ a) (hb : close ∉ b)
    (h : a ++ close :: x = b ++ close :: y) : a = b ∧ x = y := by
  have hinside : ∀ l : List Char, close ∉ l → ∀ c ∈ l, (c != close) = true := by
    intro l hl c hc
    exact bne_iff_ne.mpr fun heq => hl (heq ▸ hc)
  have houtside : ∀ rest : List Char, ∀ c ∈ (close :: rest).head?, (c != close) = false := by
    simp
  obtain ⟨hrun, hrest⟩ := run_append_inj (hinside a ha) (hinside b hb) (houtside x) (houtside y) h
  exact ⟨hrun, (List.cons.inj hrest).2⟩

/-- What may follow a part of the text of a predicate. -/
def Delimited (rest : List Char) : Prop := ∀ c ∈ rest.head?, c = ' ' ∨ c = ')'

theorem delimited_nil : Delimited [] := nofun

theorem delimited_space (rest : List Char) : Delimited (' ' :: rest) := by simp [Delimited]

theorem delimited_parenthesis (rest : List Char) : Delimited (')' :: rest) := by simp [Delimited]

/-! ## Words -/

/-- Letters, digits, points and minus signs. -/
def isWordChar (c : Char) : Bool := c.isAlphanum || c == '.' || c == '-'

/-- A text without any other characters. -/
def IsWord (text : List Char) : Prop := ∀ c ∈ text, isWordChar c = true

instance (text : List Char) : Decidable (IsWord text) := List.decidableBAll _ text

namespace IsWord

variable {a b : List Char}

theorem append (ha : IsWord a) (hb : IsWord b) : IsWord (a ++ b) :=
  List.forall_mem_append.mpr ⟨ha, hb⟩

theorem cons {c : Char} (hc : isWordChar c = true) (ha : IsWord a) : IsWord (c :: a) :=
  List.forall_mem_cons.mpr ⟨hc, ha⟩

theorem replicate {c : Char} (hc : isWordChar c = true) (n : Nat) : IsWord (List.replicate n c) := by
  intro d hd
  rwa [List.eq_of_mem_replicate hd]

theorem toDigits (n : Nat) : IsWord (Nat.toDigits 10 n) := by
  intro c hc
  have hdigit := Nat.isDigit_of_mem_toDigits (by decide) (by decide) hc
  simp [isWordChar, Char.isAlphanum, hdigit]

theorem repr (n : Int) : IsWord n.repr.toList := by
  cases n with
  | ofNat m =>
    rw [Int.repr, Nat.toList_repr]
    exact toDigits m
  | negSucc m =>
    rw [Int.repr, String.toList_append, Nat.toList_repr]
    exact (cons (by decide) (toDigits _) : IsWord ('-' :: Nat.toDigits 10 (m + 1)))

theorem positional (d : Decimal) : IsWord d.positional.toList := by
  have hzeros : ∀ n, IsWord (List.replicate n '0') := replicate (by decide)
  simp only [Decimal.positional]
  split
  · rw [String.toList_ofList]
    exact (toDigits d.digits).append (hzeros _)
  · rw [String.toList_ofList]
    have hpadded := (hzeros ((-d.exponent).toNat + 1 - (Nat.toDigits 10 d.digits).length)).append
      (toDigits d.digits)
    refine append (fun c hc => hpadded c (List.mem_of_mem_take hc)) (cons (by decide) ?_)
    exact fun c hc => hpadded c (List.mem_of_mem_drop hc)

theorem binary64 (x : Binary64) : IsWord x.text.toList := by
  have hmagnitude : IsWord x.magnitudeText.toList := by
    unfold Binary64.magnitudeText
    split
    · decide
    · split
      · decide
      · exact positional _
  unfold Binary64.text
  split
  · decide
  · split
    · rw [String.toList_append]
      exact cons (by decide) hmagnitude
    · exact hmagnitude

theorem not_mem (h : IsWord a) {c : Char} (hc : isWordChar c = false) : c ∉ a := by
  intro hmem
  rw [h c hmem] at hc
  cases hc

end IsWord

/-! ## The ways in which values are shown -/

inductive Wording where
  | word
  /-- Text between apostrophes. -/
  | quoted
  /-- Binary data, by its length. -/
  | counted
  /-- A timestamp, by its count. -/
  | stamped
deriving DecidableEq

namespace Wording

/-- What a wording puts around the value. A word stands for itself. -/
def brackets? : Wording → Option (List Char × Char)
  | word => none
  | quoted => some (['\x27'], '\x27')
  | counted => some (['<'], '>')
  | stamped => some (['t', 's', '('], ')')

/-- The texts of each wording. What closes a text is not found in it before its end. -/
inductive Covers : Wording → List Char → Prop
  | word {a : List Char} : IsWord a → Covers word a
  | bracketed {k : Wording} {opening a : List Char} {close : Char} :
      k.brackets? = some (opening, close) → close ∉ a → Covers k (opening ++ (a ++ [close]))

/-- The wording of the value that a text begins with, by the first character that is not of a word. -/
def ofText (text : List Char) : Wording :=
  match (text.dropWhile isWordChar).head? with
  | some '\x27' => quoted
  | some '<' => counted
  | some '(' => stamped
  | _ => word

namespace Covers

variable {k l : Wording} {a b x y : List Char}

theorem ofText_eq (h : Covers k a) (hx : Delimited x) : ofText (a ++ x) = k := by
  cases h with
  | word ha =>
    rw [ofText, List.dropWhile_append_of_pos ha]
    cases x with
    | nil => rfl
    | cons c x => rcases hx c rfl with rfl | rfl <;> rfl
  | bracketed hbrackets _ => cases k <;> cases hbrackets <;> rfl

/-- What is shown in some wording ends in one place only. -/
theorem append_inj (ha : Covers k a) (hb : Covers l b) (hx : Delimited x) (hy : Delimited y)
    (h : a ++ x = b ++ y) : k = l ∧ a = b ∧ x = y := by
  -- The whole text tells the wording, so only texts of one wording are left to compare.
  have hwording : k = l := by rw [← ha.ofText_eq hx, h, hb.ofText_eq hy]
  refine ⟨hwording, ?_⟩
  subst hwording
  cases ha with
  | word ha =>
    cases hb with
    | word hb =>
      have houtside : ∀ {rest}, Delimited rest → ∀ c ∈ rest.head?, isWordChar c = false := by
        intro rest hrest c hc
        rcases hrest c hc with rfl | rfl <;> rfl
      exact run_append_inj ha hb (houtside hx) (houtside hy) h
    | bracketed hbrackets _ => cases hbrackets
  | bracketed hbrackets ha =>
    cases hb with
    | word _ => cases hbrackets
    | bracketed hbrackets' hb =>
      obtain ⟨rfl, rfl⟩ := Prod.mk.inj (Option.some.inj (hbrackets.symm.trans hbrackets'))
      simp only [List.append_assoc] at h
      obtain ⟨rfl, rfl⟩ := closed_append_inj ha hb (List.append_cancel_left h)
      exact ⟨rfl, rfl⟩

end Covers

end Wording

namespace Value

/-- A text without an apostrophe, or a value that is no text. -/
def Unquoted : Value → Prop
  | utf8 s => '\x27' ∉ s.toList
  | _ => True

def wording : Value → Wording
  | utf8 _ => .quoted
  | binary _ => .counted
  | timestamp _ => .stamped
  | _ => .word

variable {v w : Value}

theorem covers_text (h : v.Unquoted) : v.wording.Covers v.text.toList := by
  cases v with
  | null => exact .word (by decide)
  | boolean flag => cases flag <;> exact .word (by decide)
  | int32 n => exact .word (.repr _)
  | int64 n => exact .word (.repr _)
  | float64 x => exact .word (.binary64 x)
  | utf8 s =>
    rw [text, String.toList_append, String.toList_append, List.append_assoc]
    exact .bracketed rfl h
  | binary bytes =>
    have htext : (binary bytes).text.toList =
        ['<'] ++ ((Nat.toDigits 10 bytes.length ++ [' ', 'b', 'y', 't', 'e', 's']) ++ ['>']) := by
      simp [text]
    rw [htext]
    refine .bracketed rfl (List.not_mem_append ?_ (by decide))
    exact (IsWord.toDigits _).not_mem rfl
  | timestamp millis =>
    rw [text, String.toList_append, String.toList_append, List.append_assoc]
    exact .bracketed rfl ((IsWord.repr _).not_mem rfl)

/-- The text of a value tells where it ends. -/
theorem text_append_inj {x y : List Char} (hv : v.Unquoted) (hw : w.Unquoted)
    (hx : Delimited x) (hy : Delimited y) (h : v.text.toList ++ x = w.text.toList ++ y) :
    v.text = w.text ∧ v.wording = w.wording ∧ x = y := by
  obtain ⟨hwording, htext, hrest⟩ := (covers_text hv).append_inj (covers_text hw) hx hy h
  exact ⟨String.toList_inj.mp htext, hwording, hrest⟩

/-- Texts that are shown alike are the same. -/
theorem eq_utf8_of_text {s : String} (htext : (utf8 s).text = w.text)
    (hwording : (utf8 s).wording = w.wording) : w = utf8 s := by
  cases w with
  | utf8 t =>
    have hlist := congrArg String.toList htext
    simp only [text, String.toList_append] at hlist
    have hsame : s.toList = t.toList := by simpa using hlist
    rw [String.toList_inj.mp hsame]
  | null | boolean _ | int32 _ | int64 _ | float64 _ | binary _ | timestamp _ => cases hwording

end Value

end TableScan
