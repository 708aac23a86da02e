import Mathlib.Data.List.Induction
import TableScan.Proofs.Faulty
import TableScan.Proofs.Foresight

/-!
A filter over a base that may fail. The first failure is the end: the rows before it are drawn one by
one, each is evaluated when it is drawn, and those that the predicate accepts are handed out. What a
filter holds at any time can be told by how often the base was drawn from.
-/

namespace TableScan

open Faulty (Entries rows drawsToEnd rows_drop drawsToEnd_drop length_rows_le)

namespace FilterState

/-! ## Any filter -/

section
variable {σ : Type} {c : Cursor σ} {p : Predicate} {s : FilterState σ}

theorem nextRow_of_pending {row : Row} (h : (hasNext c p s).state.pending = some row) :
    (c.filter p).nextRow s =
      ⟨.ok row, { (hasNext c p s).state with pending := none }, (hasNext c p s).trace⟩ := by
  simp [Cursor.filter, nextRow, handOut, h, Reply.after]

theorem nextRow_of_not_pending (h : (hasNext c p s).state.pending = none) :
    (c.filter p).nextRow s =
      ⟨.error .noSuchElement, (hasNext c p s).state, (hasNext c p s).trace⟩ := by
  simp [Cursor.filter, nextRow, handOut, h, Reply.after]

/-- A call that hands out nothing leaves a filter as a look does. -/
theorem state_of_refused {call : Request}
    (h : ((c.filter p).ask s call).answer.handed? = none) :
    ((c.filter p).ask s call).state = (hasNext c p s).state := by
  obtain ⟨hpending, -⟩ := hasNext_outcome c p s
  cases hfound : (hasNext c p s).state.pending with
  | some row =>
    have hlook : ((c.filter p).hasNext s).answer = true := by
      rw [hfound] at hpending
      exact hpending
    have hagain : (hasNext c p (hasNext c p s).state).state.pending = some row := by
      rw [hasNext_again]
      exact hfound
    cases call with
    | hasNext => rfl
    | nextRow =>
      rw [Cursor.ask, nextRow_of_pending hfound] at h
      cases h
    | next =>
      rw [Cursor.ask_next_of_promised hlook] at h
      have hrow : (c.filter p).nextRow ((c.filter p).hasNext s).state = _ :=
        nextRow_of_pending hagain
      rw [hrow] at h
      cases h
  | none =>
    have hlook : ((c.filter p).hasNext s).answer = false := by
      rw [hfound] at hpending
      exact hpending
    cases call with
    | hasNext => rfl
    | nextRow => rw [Cursor.ask, nextRow_of_not_pending hfound]; rfl
    | next => rw [Cursor.ask_next_of_refused hlook]; rfl

/-- A filter that has found its end stays there, whatever it is asked for. -/
theorem run_of_exhausted (hpending : s.pending = none) (hx : s.exhausted = true)
    (calls : List Request) :
    (c.filter p).run calls s = ⟨calls.map (·.expected [] 0), s, .empty⟩ := by
  have hlook : (c.filter p).hasNext s = ⟨false, s, .empty⟩ := hasNext_of_exhausted hpending hx
  have hrow : (c.filter p).nextRow s = ⟨.error .noSuchElement, s, .empty⟩ := by
    simp [Cursor.filter, nextRow, handOut, hasNext_of_exhausted hpending hx, hpending, Reply.after]
  exact Cursor.run_of_idle hlook hrow calls

end

/-! ## A filter over entries -/

variable {p : Predicate} {entries rest : Entries} {row : Row} {handed : List Row}
  {s : FilterState Entries} {spent trace : Trace}

/-- What a filter over a base of these entries holds, once it handed out these rows and did so much:
what was drawn is no longer below, each drawn row was evaluated, and those accepted were handed out, but
for a row that is kept. It is exhausted when the first failure was drawn, or all entries were. -/
structure Reached (p : Predicate) (entries : Entries) (handed : List Row) (s : FilterState Entries)
    (spent : Trace) : Prop where
  inner : s.inner = entries.drop spent.draws
  kept : handed ++ s.pending.toList = ((rows entries).take spent.draws).filter p.holds
  examined : s.examined = ((rows entries).take spent.draws).length
  calls : spent.calls = ((rows entries).take spent.draws).flatMap p.calls
  running : s.exhausted = false → spent.draws ≤ (rows entries).length
  ended : s.exhausted = true → spent.draws = drawsToEnd entries ∧ s.pending = none

namespace Reached

theorem start (p : Predicate) (entries : Entries) :
    Reached p entries [] (.start entries) .empty where
  inner := rfl
  kept := rfl
  examined := rfl
  calls := rfl
  running _ := Nat.zero_le _
  ended := nofun

/-- A row that is found below is the next of those before the first failure. -/
theorem arrive (h : Reached p entries handed s spent) (hx : s.exhausted = false)
    (hinner : s.inner = some row :: rest) :
    entries.drop (spent.draws + 1) = rest ∧
      (rows entries).take (spent.draws + 1) = (rows entries).take spent.draws ++ [row] ∧
      spent.draws + 1 ≤ (rows entries).length := by
  have hdrop : entries.drop spent.draws = some row :: rest := h.inner.symm.trans hinner
  have hrows := rows_drop (h.running hx)
  rw [hdrop, Faulty.rows_some] at hrows
  have hrow : (rows entries)[spent.draws]? = some row := by
    rw [← List.head?_drop, ← hrows]
    rfl
  refine ⟨?_, ?_, (List.getElem?_eq_some_iff.mp hrow).1⟩
  · rw [← List.tail_drop, hdrop]
    rfl
  · rw [List.take_add_one, hrow]
    rfl

theorem accept (h : Reached p entries handed s spent) (hx : s.exhausted = false)
    (hpending : s.pending = none) (hinner : s.inner = some row :: rest) (hrow : p.holds row = true)
    (hdraws : trace.draws = 1) (hcalls : trace.calls = p.calls row) :
    Reached p entries handed (s.accept rest row) (spent ++ trace) := by
  obtain ⟨hdrop, htake, hlength⟩ := h.arrive hx hinner
  have hkept := h.kept
  rw [hpending, Option.toList_none, List.append_nil] at hkept
  rw [← hdraws] at hdrop htake hlength
  exact {
    inner := hdrop.symm
    kept := by
      rw [Trace.draws_append, htake, List.filter_append, ← hkept, List.filter_singleton, hrow]
      rfl
    examined := by
      rw [Trace.draws_append, htake, List.length_append, ← h.examined]
      rfl
    calls := by
      rw [Trace.draws_append, Trace.calls_append, htake, List.flatMap_append, ← h.calls, hcalls,
        List.flatMap_singleton]
    running := fun _ => hlength
    ended := fun hended => absurd (hx.symm.trans hended) nofun }

theorem reject (h : Reached p entries handed s spent) (hx : s.exhausted = false)
    (hinner : s.inner = some row :: rest) (hrow : p.holds row = false)
    (hdraws : trace.draws = 1) (hcalls : trace.calls = p.calls row) :
    Reached p entries handed (s.reject rest) (spent ++ trace) := by
  obtain ⟨hdrop, htake, hlength⟩ := h.arrive hx hinner
  rw [← hdraws] at hdrop htake hlength
  exact {
    inner := hdrop.symm
    kept := by
      rw [Trace.draws_append, htake, List.filter_append, ← h.kept, List.filter_singleton, hrow]
      exact (List.append_nil _).symm
    examined := by
      rw [Trace.draws_append, htake, List.length_append, ← h.examined]
      rfl
    calls := by
      rw [Trace.draws_append, Trace.calls_append, htake, List.flatMap_append, ← h.calls, hcalls,
        List.flatMap_singleton]
    running := fun _ => hlength
    ended := fun hended => absurd (hx.symm.trans hended) nofun }

/-- Without a row below, the filter is at its end. -/
theorem finish (h : Reached p entries handed s spent) (hx : s.exhausted = false)
    (hpending : s.pending = none) (hinner : rows s.inner = [])
    (hdraws : trace.draws = drawsToEnd s.inner) (hcalls : trace.calls = []) :
    Reached p entries handed (s.finish (s.inner.drop trace.draws)).state (spent ++ trace) := by
  have hrunning := h.running hx
  have hrows := rows_drop hrunning
  have hend := drawsToEnd_drop hrunning
  rw [← h.inner] at hrows hend
  have hall : (rows entries).take (spent.draws + trace.draws) =
      (rows entries).take spent.draws := by
    have hlength : (rows entries).length ≤ spent.draws := by
      rw [← List.drop_eq_nil_iff, ← hrows, hinner]
    rw [List.take_of_length_le hlength, List.take_of_length_le (by omega)]
  exact {
    inner := by
      rw [FilterState.finish, h.inner, List.drop_drop, Trace.draws_append]
    kept := by rw [Trace.draws_append, hall]; exact h.kept
    examined := by rw [Trace.draws_append, hall]; exact h.examined
    calls := by
      rw [Trace.draws_append, hall, Trace.calls_append, hcalls, List.append_nil]
      exact h.calls
    running := nofun
    ended := fun _ => ⟨by rw [Trace.draws_append, hdraws, hend], hpending⟩ }

/-- The search draws rows until one is accepted, or up to the failure; the induction is on what lies
below. -/
theorem seek (h : Reached p entries handed s spent) (hpending : s.pending = none)
    (hx : s.exhausted = false) :
    Reached p entries handed (FilterState.seek Faulty.cursor p s).state
      (spent ++ (FilterState.seek Faulty.cursor p s).trace) := by
  obtain ⟨inner, pending, examined, rejected, exhausted⟩ := s
  cases hpending
  cases hx
  induction inner generalizing examined rejected spent with
  | nil =>
    have hend : Trace.draws (.empty ++ .ofEvent (.filterExhausted examined rejected)) = 0 := rfl
    rw [seek_of_end rfl]
    exact h.finish rfl rfl rfl hend rfl
  | cons entry rest ih =>
    cases entry with
    | none =>
      have hdraws : Trace.draws (.empty ++ .ofDraws 1 ++
          .ofEvent (.filterExhausted examined rejected)) = drawsToEnd (none :: rest) := by
        rw [Faulty.drawsToEnd_none]
        rfl
      rw [seek_of_error rfl rfl]
      exact h.finish rfl rfl rfl hdraws rfl
    | some row =>
      have hdraws : Trace.draws (.empty ++ .ofDraws 1 ++ .ofCalls (p.calls row)) = 1 := rfl
      cases hrow : p.holds row with
      | true =>
        rw [seek_of_accepted rfl rfl hrow]
        exact h.accept rfl rfl rfl hrow hdraws rfl
      | false =>
        rw [seek_of_rejected rfl rfl hrow, Reply.after, ← Trace.append_assoc]
        exact ih _ _ (h.reject rfl rfl hrow hdraws rfl)

theorem hasNext (h : Reached p entries handed s spent) :
    Reached p entries handed (FilterState.hasNext Faulty.cursor p s).state
      (spent ++ (FilterState.hasNext Faulty.cursor p s).trace) := by
  unfold FilterState.hasNext
  split
  · rw [Trace.append_empty]
    exact h
  · rename_i hpending
    split
    · rw [Trace.append_empty]
      exact h
    · rename_i hx
      exact h.seek (by simpa using hpending) (by simpa using hx)

theorem handOut (h : Reached p entries handed s spent) :
    Reached p entries (handed ++ s.handOut.answer.toOption.toList) s.handOut.state
      (spent ++ s.handOut.trace) := by
  unfold FilterState.handOut
  split
  · rename_i row hpending
    have hkept := h.kept
    rw [hpending, Option.toList_some] at hkept
    rw [Trace.append_empty]
    exact {
      inner := h.inner
      kept := by rw [← hkept]; exact List.append_nil _
      examined := h.examined
      calls := h.calls
      running := h.running
      ended := fun hx => absurd (hpending.symm.trans (h.ended hx).2) nofun }
  · have hnone : (Except.error .noSuchElement : Except ScanError Row).toOption.toList = [] := rfl
    rw [Trace.append_empty, hnone, List.append_nil]
    exact h

theorem nextRow (h : Reached p entries handed s spent) :
    Reached p entries (handed ++ (FilterState.nextRow Faulty.cursor p s).answer.toOption.toList)
      (FilterState.nextRow Faulty.cursor p s).state
      (spent ++ (FilterState.nextRow Faulty.cursor p s).trace) := by
  rw [FilterState.nextRow, Reply.after, ← Trace.append_assoc]
  exact h.hasNext.handOut

theorem ask (h : Reached p entries handed s spent) (call : Request) :
    Reached p entries (handed ++ ((Faulty.cursor.filter p).ask s call).answer.handed?.toList)
      ((Faulty.cursor.filter p).ask s call).state
      (spent ++ ((Faulty.cursor.filter p).ask s call).trace) := by
  have hlook := h.hasNext
  cases call with
  | hasNext =>
    rw [← List.append_nil handed] at hlook
    exact hlook
  | nextRow => exact h.nextRow
  | next =>
    cases hfound : (FilterState.hasNext Faulty.cursor p s).answer with
    | true =>
      rw [Cursor.ask_next_of_promised hfound, Reply.after, ← Trace.append_assoc]
      exact hlook.nextRow
    | false =>
      rw [Cursor.ask_next_of_refused hfound]
      rw [← List.append_nil handed] at hlook
      exact hlook

/-- Whatever was called, what was drawn tells the state. The induction is on the last call. -/
theorem run (p : Predicate) (entries : Entries) (calls : List Request) :
    let past := (Faulty.cursor.filter p).run calls (.start entries)
    Reached p entries (handedOut past.answer) past.state past.trace := by
  induction calls using List.reverseRecOn with
  | nil => exact start p entries
  | append_singleton calls call ih =>
    simp only [Cursor.run] at ih ⊢
    rw [runWith_concat, handedOut_concat]
    exact ih.ask call

/-- The rows that were handed out, and a row that is kept after them, are the first of all that the
predicate accepts before the failure. -/
theorem kept_isPrefix (h : Reached p entries handed s spent) :
    handed ++ s.pending.toList <+: (rows entries).filter p.holds := by
  rw [h.kept]
  exact (List.take_prefix _ _).filter p.holds

theorem handed_eq_take (h : Reached p entries handed s spent) :
    handed = ((rows entries).filter p.holds).take handed.length :=
  List.prefix_iff_eq_take.mp ((List.prefix_append _ _).trans h.kept_isPrefix)

/-- A kept row is the next of all rows to hand out. -/
theorem getElem?_of_pending (h : Reached p entries handed s spent) (hrow : s.pending = some row) :
    ((rows entries).filter p.holds)[handed.length]? = some row := by
  have hprefix := h.kept_isPrefix
  rw [hrow, Option.toList_some] at hprefix
  obtain ⟨others, hothers⟩ := hprefix
  rw [← hothers, List.append_assoc, List.getElem?_append_right (Nat.le_refl _), Nat.sub_self]
  rfl

/-- At the end all rows were handed out. -/
theorem handed_of_exhausted (h : Reached p entries handed s spent) (hx : s.exhausted = true) :
    handed = (rows entries).filter p.holds := by
  obtain ⟨hdraws, hpending⟩ := h.ended hx
  have hkept := h.kept
  rwa [hpending, Option.toList_none, List.append_nil, hdraws,
    List.take_of_length_le (length_rows_le entries)] at hkept

theorem draws_le (h : Reached p entries handed s spent) : spent.draws ≤ drawsToEnd entries := by
  cases hx : s.exhausted with
  | false => exact Nat.le_trans (h.running hx) (length_rows_le entries)
  | true => exact Nat.le_of_eq (h.ended hx).1

/-- A look promises a row if there is another one to hand out, and keeps the row that it promises. -/
theorem look (h : Reached p entries handed s spent) :
    let look := FilterState.hasNext Faulty.cursor p s
    look.answer = decide (handed.length < ((rows entries).filter p.holds).length) ∧
      look.state.pending = ((rows entries).filter p.holds)[handed.length]? := by
  obtain ⟨hpending, hended⟩ := hasNext_outcome Faulty.cursor p s
  have hlook := h.hasNext
  intro look
  cases hfound : look.state.pending with
  | some row =>
    have hrow := hlook.getElem?_of_pending hfound
    rw [show look.answer = true by rw [hpending, hfound]; rfl]
    exact ⟨(decide_eq_true (List.getElem?_eq_some_iff.mp hrow).1).symm, hrow.symm⟩
  | none =>
    have hrefused : look.answer = false := by rw [hpending, hfound]; rfl
    have hall := hlook.handed_of_exhausted (hended hrefused)
    rw [← hall, hrefused]
    exact ⟨(decide_eq_false (Nat.lt_irrefl _)).symm, (List.getElem?_eq_none (Nat.le_refl _)).symm⟩

theorem nextRow_answer (h : Reached p entries handed s spent) :
    (FilterState.nextRow Faulty.cursor p s).answer =
      ((rows entries).filter p.holds)[handed.length]?.elim (.error .noSuchElement) .ok := by
  obtain ⟨-, hpending⟩ := h.look
  simp only [FilterState.nextRow, FilterState.handOut, Reply.after, hpending]
  cases ((rows entries).filter p.holds)[handed.length]? <;> rfl

end Reached

/-- After a call that found no further row to hand out, the filter is exhausted. -/
theorem Reached.exhausted_of_looked (calls : List Request)
    (hlooked : lookedAhead ((Faulty.cursor.filter p).run calls (.start entries)).answer = true)
    (hall : (handedOut ((Faulty.cursor.filter p).run calls (.start entries)).answer).length =
      ((rows entries).filter p.holds).length) :
    ((Faulty.cursor.filter p).run calls (.start entries)).state.exhausted = true := by
  cases calls using List.reverseRecOn with
  | nil => cases hlooked
  | append_singleton calls call =>
    have hpast := Reached.run p entries calls
    simp only [Cursor.run, runWith_concat, lookedAhead_concat, handedOut_concat] at hlooked hall ⊢
    simp only [Cursor.run] at hpast
    have hnone := Option.isNone_iff_eq_none.mp hlooked
    rw [hnone, Option.toList_none, List.append_nil] at hall
    rw [state_of_refused hnone]
    refine (hasNext_outcome Faulty.cursor p _).2 ?_
    rw [hpast.look.1, hall]
    exact decide_eq_false (Nat.lt_irrefl _)

/-- What a run of a filter over entries that may fail has done, however it was called. The rows to hand out
are those before the first failure that the predicate accepts. -/
structure Delivered (p : Predicate) (entries : Entries)
    (past : Reply (FilterState Entries) (List Response)) : Prop where
  handed : handedOut past.answer =
    ((rows entries).filter p.holds).take (handedOut past.answer).length
  /-- A row is promised if there is another one to hand out. -/
  look : ((Faulty.cursor.filter p).hasNext past.state).answer =
    decide ((handedOut past.answer).length < ((rows entries).filter p.holds).length)
  request : ((Faulty.cursor.filter p).nextRow past.state).answer =
    ((rows entries).filter p.holds)[(handedOut past.answer).length]?.elim
      (.error .noSuchElement) .ok
  /-- A promised row arrives. -/
  arrives : ((Faulty.cursor.filter p).hasNext past.state).answer = true →
    ∃ row, ((Faulty.cursor.filter p).nextRow
      ((Faulty.cursor.filter p).hasNext past.state).state).answer = .ok row
  /-- A kept row is handed out without another draw. -/
  pending : ∀ row ∈ past.state.pending, (Faulty.cursor.filter p).nextRow past.state =
    ⟨.ok row, { past.state with pending := none }, .empty⟩
  inner : past.state.inner = entries.drop past.trace.draws
  examined : past.state.examined = min past.trace.draws (rows entries).length
  /-- Each row that was drawn was evaluated once. -/
  calls : past.trace.calls = ((rows entries).take past.trace.draws).flatMap p.calls
  draws_le : past.trace.draws ≤ drawsToEnd entries
  /-- No failure was drawn yet. -/
  running : past.state.exhausted = false → past.trace.draws ≤ (rows entries).length
  /-- The end is noticed by the first call that finds no row to hand out. -/
  exhausted : lookedAhead past.answer = true →
    (handedOut past.answer).length = ((rows entries).filter p.holds).length →
      past.state.exhausted = true
  /-- The failure, or else every entry, was drawn. -/
  ended : past.state.exhausted = true → past.trace.draws = drawsToEnd entries
  /-- No call does anything any more. -/
  idle : past.state.exhausted = true → ∀ more, (Faulty.cursor.filter p).run more past.state =
    ⟨more.map (·.expected [] 0), past.state, .empty⟩

/-- Whatever was called on a filter over entries that may fail, the rows handed out so far are the first
of those that come before the first failure and that the predicate accepts, and each kind of call is
answered by the row that follows them. The entries were drawn in order, none after the first failure;
once a call found no row to hand out, that failure or else every entry was drawn, and no call does
anything any more. -/
theorem serves_until_failure (p : Predicate) (entries : Entries) (calls : List Request) :
    Delivered p entries ((Faulty.cursor.filter p).run calls (.start entries)) := by
  let past := (Faulty.cursor.filter p).run calls (.start entries)
  have hpast : Reached p entries (handedOut past.answer) past.state past.trace :=
    Reached.run p entries calls
  obtain ⟨hlook, -⟩ := hpast.look
  exact {
    handed := hpast.handed_eq_take
    look := hlook
    request := hpast.nextRow_answer
    arrives := by
      intro hpromised
      have hlt := of_decide_eq_true (hlook.symm.trans hpromised)
      refine ⟨((rows entries).filter p.holds)[(handedOut past.answer).length], ?_⟩
      refine hpast.hasNext.nextRow_answer.trans ?_
      exact congrArg (Option.elim · _ _) (List.getElem?_eq_getElem hlt)
    pending := by
      intro row hrow
      have hheld : FilterState.hasNext Faulty.cursor p past.state = ⟨true, past.state, .empty⟩ :=
        hasNext_of_pending hrow
      have hkept : (FilterState.hasNext Faulty.cursor p past.state).state.pending = some row := by
        rw [hheld]
        exact hrow
      exact (nextRow_of_pending hkept).trans (by rw [hheld])
    inner := hpast.inner
    examined := by
      have hexamined := hpast.examined
      rwa [List.length_take] at hexamined
    calls := hpast.calls
    draws_le := hpast.draws_le
    running := hpast.running
    exhausted := Reached.exhausted_of_looked calls
    ended := fun hx => (hpast.ended hx).1
    idle := fun hx => run_of_exhausted (hpast.ended hx).2 hx }

/-- The third entry fails after one row was accepted and one rejected. -/
theorem serves_until_failure_gap :
    let c := Faulty.cursor.filter (.comparison ⟨0, .int32⟩ .neq (.int32 4))
    let past := c.run [.nextRow, .hasNext] (.start [some ⟨"a", [.int32 5]⟩, some ⟨"b", [.int32 4]⟩,
      none, some ⟨"c", [.int32 6]⟩])
    past.state.exhausted = true ∧ past.trace.draws = 3 ∧
      (c.run [.next, .nextRow] past.state).trace = .empty := by
  intro c past
  have hpast := serves_until_failure (.comparison ⟨0, .int32⟩ .neq (.int32 4))
    [some ⟨"a", [.int32 5]⟩, some ⟨"b", [.int32 4]⟩, none, some ⟨"c", [.int32 6]⟩]
    [.nextRow, .hasNext]
  have hx : past.state.exhausted = true := hpast.exhausted (by decide +kernel) (by decide +kernel)
  exact ⟨hx, hpast.ended hx, congrArg Reply.trace (hpast.idle hx [.next, .nextRow])⟩

end FilterState

end TableScan
