import TableScan.Cursor

/-!
Cursors over a source that is asked for one row after the other. The source answers with a row or
with its end. After the first end it is not asked again, whatever it would answer, unless it is
trusted to keep to its end by itself: a trusted source is asked for every row that is requested.
At most one answer is held ahead of its use.
-/

namespace TableScan

/-- The answers that a source has in store. A missing row is an end, and a feed without any more
answers is at its end for good. -/
abbrev Feed := List (Option Row)

def Feed.ofRows (rows : List Row) : Feed := rows.map some

/-- The rows before the first end. -/
def Feed.rows : Feed → List Row
  | some row :: rest => row :: Feed.rows rest
  | _ => []

/-- A source together with the answer that was taken from it ahead of time, if there is one. -/
structure Lookahead where
  feed : Feed
  ended : Bool
  ahead : Option (Option Row)
deriving DecidableEq

namespace Lookahead

def start (feed : Feed) : Lookahead := ⟨feed, false, none⟩

/-- Asks the source, unless it has ended. -/
def draw (s : Lookahead) : Reply Lookahead (Option Row) :=
  if s.ended then ⟨none, s, .empty⟩
  else
    match s.feed with
    | some row :: rest => ⟨some row, { s with feed := rest }, .ofDraws 1⟩
    | none :: rest => ⟨none, { s with feed := rest, ended := true }, .ofDraws 1⟩
    | [] => ⟨none, { s with ended := true }, .ofDraws 1⟩

/-- Asks the source, also if it has ended. -/
def drawTrusting (s : Lookahead) : Reply Lookahead (Option Row) :=
  ⟨s.feed.head?.join, { s with feed := s.feed.tail }, .ofDraws 1⟩

/-- A way to draw. It does not touch the held answer, and a row that is drawn is in store no
longer. -/
structure Draws (draw : Lookahead → Reply Lookahead (Option Row)) : Prop where
  ahead : ∀ s, (draw s).state.ahead = s.ahead
  length_feed : ∀ s,
    (draw s).state.feed.length + (if (draw s).answer.isSome then 1 else 0) ≤ s.feed.length

def orExhausted : Option Row → Except ScanError Row
  | some row => .ok row
  | none => .error .noSuchElement

section Slot
variable (draw : Lookahead → Reply Lookahead (Option Row))

/-- Looks at the next answer and holds on to it. -/
def lookBy (s : Lookahead) : Reply Lookahead Bool :=
  match s.ahead with
  | some held => ⟨held.isSome, s, .empty⟩
  | none =>
    let drawn := draw s
    ⟨drawn.answer.isSome, { drawn.state with ahead := some drawn.answer }, drawn.trace⟩

/-- Hands out the held answer, or else the next one. A held end is let go of as well. -/
def requestBy (s : Lookahead) : Reply Lookahead (Except ScanError Row) :=
  match s.ahead with
  | some held => ⟨orExhausted held, { s with ahead := none }, .empty⟩
  | none => (draw s).map orExhausted

end Slot

def hasNext (s : Lookahead) : Reply Lookahead Bool := lookBy draw s

def nextRow (s : Lookahead) : Reply Lookahead (Except ScanError Row) := requestBy draw s

/-- The rows in store, with the one that is held. -/
def left (s : Lookahead) : Nat :=
  s.feed.length + if (s.ahead.bind id).isSome then 1 else 0

@[simp] theorem rowsIn_orExhausted (answer : Option Row) :
    rowsIn (orExhausted answer) = if answer.isSome then 1 else 0 := by
  cases answer <;> rfl

theorem draws_draw : Draws draw where
  ahead s := by
    unfold draw
    split
    · rfl
    · split <;> rfl
  length_feed s := by
    unfold draw
    split
    · simp
    · split <;> simp_all

theorem draws_drawTrusting : Draws drawTrusting where
  ahead _ := rfl
  length_feed s := by
    obtain ⟨feed, ended, ahead⟩ := s
    cases feed with
    | nil => exact Nat.le_refl 0
    | cons entry rest => cases entry <;> simp [drawTrusting]

section Slot
variable {draw : Lookahead → Reply Lookahead (Option Row)}

theorem left_lookBy (h : Draws draw) (s : Lookahead) : left (lookBy draw s).state ≤ left s := by
  unfold lookBy
  split
  · exact Nat.le_refl _
  · rename_i hnone
    have hd := h.length_feed s
    simp only [left, hnone, Option.bind_none, Option.bind_some, id_eq]
    simpa using hd

theorem left_requestBy (h : Draws draw) (s : Lookahead) :
    left (requestBy draw s).state + rowsIn (requestBy draw s).answer ≤ left s := by
  unfold requestBy
  split
  · rename_i held hheld
    simp [left, hheld]
  · rename_i hnone
    have ha := h.ahead s
    have hd := h.length_feed s
    simpa [Reply.map, left, ha, hnone] using hd

/-- The cursor that draws in this way. -/
def cursorBy (h : Draws draw) : Cursor Lookahead where
  hasNext := lookBy draw
  nextRow := requestBy draw
  left := left
  left_hasNext := left_lookBy h
  left_nextRow := left_requestBy h

end Slot

/-- The cursor over a source that may go on after its end. -/
def cursor : Cursor Lookahead := cursorBy draws_draw

/-- The cursor over a source that is trusted to keep to its end. That it has ended is not
remembered. -/
def trusting : Cursor Lookahead := cursorBy draws_drawTrusting

end Lookahead

end TableScan
