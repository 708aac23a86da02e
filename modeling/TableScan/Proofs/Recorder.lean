import Mathlib.Data.List.Induction
import TableScan.Proofs.Bisimulation

/-!
Cursors that keep a record. A recorded cursor does what the cursor does and takes down every call with
its reply. With a record below each stage it can be told what the stage has pulled, handed out and
logged itself, and after any calls the records are what an invariant of the stages can speak about.
-/

namespace TableScan

variable {σ τ α : Type}

/-- A call: the state that it met, and the reply. -/
structure Exchange (σ : Type) where
  before : σ
  reply : Reply σ Response

/-- Whether looking ahead finds no row, be it for a look or for the look that a request begins with. -/
def Exchange.refused (c : Cursor σ) (exchange : Exchange σ) : Bool :=
  !(c.hasNext exchange.before).answer

/-- A state, and the calls by which it was reached. -/
structure Recorded (σ : Type) where
  state : σ
  past : List (Exchange σ)

namespace Recorded

def start (s : σ) : Recorded σ := ⟨s, []⟩

/-- Takes down a call. -/
def note (s : Recorded σ) (reply : Reply σ Response) : Recorded σ :=
  ⟨reply.state, s.past ++ [⟨s.state, reply⟩]⟩

/-- The rows that were handed out. -/
def rows (s : Recorded σ) : List Row := s.past.filterMap (·.reply.answer.handed?)

/-- What was logged. -/
def events (s : Recorded σ) : List Event := s.past.flatMap (·.reply.trace.events)

theorem rows_note (s : Recorded σ) (reply : Reply σ Response) :
    (s.note reply).rows = s.rows ++ reply.answer.handed?.toList := by
  cases h : reply.answer.handed? <;> simp [note, rows, h]

theorem events_note (s : Recorded σ) (reply : Reply σ Response) :
    (s.note reply).events = s.events ++ reply.trace.events := by
  simp [note, events]

end Recorded

/-- The cursor, with its calls taken down. -/
def Cursor.recorded (c : Cursor σ) : Cursor (Recorded σ) where
  hasNext s :=
    let reply := c.hasNext s.state
    ⟨reply.answer, s.note (reply.map .promise), reply.trace⟩
  nextRow s :=
    let reply := c.nextRow s.state
    ⟨reply.answer, s.note (reply.map .row), reply.trace⟩
  left s := c.left s.state
  left_hasNext s := c.left_hasNext s.state
  left_nextRow s := c.left_nextRow s.state

section Recorded
variable (c : Cursor σ) (s : Recorded σ)

@[simp] theorem Recorded.rows_hasNext : (c.recorded.hasNext s).state.rows = s.rows :=
  (s.rows_note _).trans (List.append_nil _)

@[simp] theorem Recorded.rows_nextRow : (c.recorded.nextRow s).state.rows =
    s.rows ++ (c.recorded.nextRow s).answer.toOption.toList :=
  s.rows_note _

@[simp] theorem Recorded.events_hasNext : (c.recorded.hasNext s).state.events =
    s.events ++ (c.recorded.hasNext s).trace.events :=
  s.events_note _

@[simp] theorem Recorded.events_nextRow : (c.recorded.nextRow s).state.events =
    s.events ++ (c.recorded.nextRow s).trace.events :=
  s.events_note _

theorem Recorded.rows_drawn : (c.recorded.nextRow (c.recorded.hasNext s).state).state.rows =
    s.rows ++ (c.recorded.nextRow (c.recorded.hasNext s).state).answer.toOption.toList := by
  rw [rows_nextRow, rows_hasNext]

theorem Recorded.events_drawn : (c.recorded.nextRow (c.recorded.hasNext s).state).state.events =
    s.events ++ ((c.recorded.hasNext s).trace ++
      (c.recorded.nextRow (c.recorded.hasNext s).state).trace).events := by
  rw [events_nextRow, events_hasNext, Trace.events_append, List.append_assoc]

theorem Recorded.rows_ask (call : Request) : (c.recorded.ask s call).state.rows =
    s.rows ++ (c.recorded.ask s call).answer.handed?.toList := by
  cases call with
  | hasNext => exact (rows_hasNext c s).trans (List.append_nil _).symm
  | nextRow => exact rows_nextRow c s
  | next =>
    cases hlook : (c.recorded.hasNext s).answer with
    | true =>
      rw [Cursor.ask_next_of_promised hlook]
      exact rows_drawn c s
    | false =>
      rw [Cursor.ask_next_of_refused hlook]
      exact (rows_hasNext c s).trans (List.append_nil _).symm

/-- A run hands out the rows that are taken down. -/
theorem Recorded.rows_run (calls : List Request) : (c.recorded.run calls s).state.rows =
    s.rows ++ handedOut (c.recorded.run calls s).answer := by
  induction calls using List.reverseRecOn with
  | nil => exact (List.append_nil _).symm
  | append_singleton calls call ih =>
    simp only [Cursor.run] at ih ⊢
    rw [runWith_concat, handedOut_concat, ← List.append_assoc, ← ih]
    exact rows_ask c _ call

end Recorded

theorem Cursor.Keeps.recorded {c : Cursor σ} {I : σ → Prop} (h : c.Keeps I) :
    c.recorded.Keeps fun s => I s.state where
  hasNext hs := h.hasNext hs
  nextRow hs := h.nextRow hs

/-! ## Stages that come to an end -/

/-- A stage over a record, with the record of its own calls. Its end is logged in the call that first
finds no row, after all that was logged below, and with the counts that this call leaves; no later call
changes its state, and so none calls below. -/
structure Recorded.EndsOnce (d : Cursor τ) (below : τ → Recorded σ) (exhausted : τ → Bool)
    (closing : τ → Event) (s : Recorded τ) : Prop where
  logged : ∀ earlier call, earlier ++ [call] <+: s.past →
    (below call.before).events ++ call.reply.trace.events =
      (below call.reply.state).events ++
        if call.refused d && !earlier.any (·.refused d) then [closing call.reply.state] else []
  idle : s.past.Pairwise fun call later => call.refused d = true → later.reply.state = call.reply.state
  settled : ∀ call ∈ s.past, call.refused d = true → s.state = call.reply.state
  flagged : exhausted s.state = s.past.any (·.refused d)

/-- What one call does to a stage that comes to an end: nothing any more if it is exhausted, and otherwise
it finds a row or else the end, which is then logged. -/
structure Reply.Closes (d : Cursor τ) (below : τ → Recorded σ) (exhausted : τ → Bool)
    (closing : τ → Event) (s : τ) (reply : Reply τ α) : Prop where
  idle : exhausted s = true →
    (d.hasNext s).answer = false ∧ reply.state = s ∧ reply.trace.events = []
  ends : exhausted s = false → exhausted reply.state = !(d.hasNext s).answer
  logged : exhausted s = false → (below s).events ++ reply.trace.events =
    (below reply.state).events ++ if exhausted reply.state then [closing reply.state] else []

theorem Reply.Closes.map {β : Type} {d : Cursor τ} {below : τ → Recorded σ} {exhausted : τ → Bool}
    {closing : τ → Event} {s : τ} {reply : Reply τ α}
    (h : reply.Closes d below exhausted closing s) (f : α → β) :
    (reply.map f).Closes d below exhausted closing s :=
  ⟨h.idle, h.ends, h.logged⟩

namespace Recorded.EndsOnce

variable {d : Cursor τ} {below : τ → Recorded σ} {exhausted : τ → Bool} {closing : τ → Event}

theorem start {s : τ} (h : exhausted s = false) :
    EndsOnce d below exhausted closing (.start s) where
  logged earlier call hprefix := by
    have hlength := hprefix.length_le
    rw [List.length_append] at hlength
    cases hlength
  idle := .nil
  settled call hpast := absurd hpast List.not_mem_nil
  flagged := h

theorem note {s : Recorded τ} {reply : Reply τ Response}
    (h : EndsOnce d below exhausted closing s)
    (hcall : reply.Closes d below exhausted closing s.state) :
    EndsOnce d below exhausted closing (s.note reply) := by
  have hsame : ∀ call ∈ s.past, call.refused d = true → reply.state = call.reply.state := by
    intro call hpast hrefused
    have hx : exhausted s.state = true := by
      rw [h.flagged]
      exact List.any_eq_true.mpr ⟨call, hpast, hrefused⟩
    exact (hcall.idle hx).2.1.trans (h.settled call hpast hrefused)
  constructor
  · intro earlier call hprefix
    rcases List.prefix_concat_iff.mp hprefix with heq | hpast
    · obtain ⟨rfl, hcalls⟩ := List.append_inj' heq rfl
      obtain rfl := (List.cons.inj hcalls).1
      rw [← h.flagged]
      cases hx : exhausted s.state with
      | true =>
        obtain ⟨-, hstate, hevents⟩ := hcall.idle hx
        rw [hevents, hstate, Bool.not_true, Bool.and_false]
        rfl
      | false =>
        rw [Exchange.refused, ← hcall.ends hx, Bool.not_false, Bool.and_true]
        exact hcall.logged hx
    · exact h.logged earlier call hpast
  · refine List.pairwise_append.mpr ⟨h.idle, List.pairwise_singleton _ _, ?_⟩
    intro call hpast later hlater hrefused
    obtain rfl := List.mem_singleton.mp hlater
    exact hsame call hpast hrefused
  · intro call hpast hrefused
    rcases List.mem_append.mp hpast with hpast | hlater
    · exact hsame call hpast hrefused
    · obtain rfl := List.mem_singleton.mp hlater
      rfl
  · have hany : (s.note reply).past.any (·.refused d) =
        (exhausted s.state || !(d.hasNext s.state).answer) := by
      rw [Recorded.note, List.any_append, ← h.flagged]
      exact congrArg _ (Bool.or_false _)
    rw [hany]
    cases hx : exhausted s.state with
    | true =>
      change exhausted reply.state = true
      rw [(hcall.idle hx).2.1, hx]
    | false => exact hcall.ends hx

end Recorded.EndsOnce

end TableScan
