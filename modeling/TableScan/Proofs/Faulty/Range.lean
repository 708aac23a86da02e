import Mathlib.Data.List.Induction
import TableScan.Proofs.Faulty
import TableScan.Proofs.Run

/-!
A range over a base that may fail. While rows are skipped, a failure is the end. Inside the window a
failure is passed on and nothing else: it takes up no position, so the window still has all of its rows,
and the entries are dealt out one by one for as long as the window lasts.
-/

namespace TableScan

namespace Faulty

/-! ## Windows over entries -/

/-- The entries up to a number of rows. Failures do not count. -/
def upTo : Nat → Entries → Entries
  | 0, _ => []
  | _ + 1, [] => []
  | count + 1, some row :: rest => some row :: upTo count rest
  | count + 1, none :: rest => none :: upTo (count + 1) rest

/-- The entries that a window deals out from a position on: all of them, or those up to the last row
that lies in the window. -/
def within (last : Option Nat) (position : Nat) (entries : Entries) : Entries :=
  match last with
  | none => entries
  | some bound => upTo (bound + 1 - position) entries

variable {entries rest : Entries} {last : Option Nat} {position : Nat}

theorem upTo_isPrefix (count : Nat) (entries : Entries) : upTo count entries <+: entries := by
  fun_induction upTo count entries with
  | case1 entries => exact List.nil_prefix
  | case2 count => exact List.nil_prefix
  | case3 count row rest ih => exact (List.prefix_cons_inj (some row)).mpr ih
  | case4 count rest ih => exact (List.prefix_cons_inj none).mpr ih

theorem rows_upTo (count : Nat) (entries : Entries) :
    (upTo count entries).reduceOption = entries.reduceOption.take count := by
  fun_induction upTo count entries with
  | case1 entries => rfl
  | case2 count => rfl
  | case3 count row rest ih => simp [ih]
  | case4 count rest ih => simp [ih]

/-- With fewer rows than asked for, all entries are dealt out. -/
theorem upTo_eq_self {count : Nat} (h : entries.reduceOption.length < count) :
    upTo count entries = entries := by
  fun_induction upTo count entries with
  | case1 entries => cases h
  | case2 count => rfl
  | case3 count row rest ih =>
    rw [List.reduceOption_cons_of_some, List.length_cons] at h
    rw [ih (by omega)]
  | case4 count rest ih => rw [ih h]

/-- All of these entries are dealt out once as many rows are. -/
theorem length_upTo_le {count requested : Nat}
    (h : ((upTo count entries).take requested).reduceOption.length = count) :
    (upTo count entries).length ≤ requested := by
  fun_induction upTo count entries generalizing requested with
  | case1 entries => exact Nat.zero_le _
  | case2 count => exact Nat.zero_le _
  | case3 count row rest ih =>
    cases requested with
    | zero => cases h
    | succ requested =>
      rw [List.take_succ_cons, List.reduceOption_cons_of_some, List.length_cons] at h
      exact Nat.succ_le_succ (ih (Nat.succ.inj h))
  | case4 count rest ih =>
    cases requested with
    | zero => cases h
    | succ requested =>
      rw [List.take_succ_cons, List.reduceOption_cons_of_none] at h
      exact Nat.succ_le_succ (ih h)

theorem within_nil (last : Option Nat) (position : Nat) : within last position [] = [] := by
  cases last with
  | none => rfl
  | some bound =>
    rw [within]
    cases bound + 1 - position <;> rfl

theorem within_of_passed (h : last.any (· < position) = true) : within last position entries = [] := by
  cases last with
  | none => cases h
  | some bound =>
    have hlt : bound < position := by simpa using h
    rw [within, Nat.sub_eq_zero_of_le hlt, upTo]

theorem within_isPrefix (last : Option Nat) (position : Nat) (entries : Entries) :
    within last position entries <+: entries := by
  cases last with
  | none => exact List.prefix_rfl
  | some bound => exact upTo_isPrefix _ _

/-- Inside the window the next entry is dealt out, whatever it is; only a row takes up a position. -/
theorem within_cons (h : last.any (· < position) = false) (entry : Option Row) :
    within last position (entry :: rest) =
      entry :: within last (position + entry.toList.length) rest := by
  cases last with
  | none => rfl
  | some bound =>
    have hle : position ≤ bound := by simpa using h
    obtain ⟨count, hcount⟩ : ∃ count, bound + 1 - position = count + 1 :=
      ⟨bound - position, by omega⟩
    cases entry with
    | none =>
      have hsame : position + (none : Option Row).toList.length = position := rfl
      rw [hsame, within, within, hcount, upTo]
    | some row =>
      have hrest : bound + 1 - (position + 1) = count := by omega
      rw [within, hcount, upTo, within, Option.toList_some, List.length_singleton, hrest]

end Faulty

open Faulty (Entries rows within within_nil within_of_passed within_cons)

/-- What a call is answered if these entries are dealt out and so many were requested before. -/
def Request.dealt (entries : Entries) (count : Nat) : Request → Response
  | hasNext => .promise (decide (count < entries.length))
  | nextRow => .row (entries[count]?.join.elim (.error .noSuchElement) .ok)
  | next => .item entries[count]?.join

/-- The number of entries that a call requests. -/
def Request.requested : Request → Nat
  | hasNext => 0
  | nextRow => 1
  | next => 1

namespace RangeState

variable {first : Nat} {last : Option Nat} {s start : RangeState Entries}

/-- The entries that a range still deals out. -/
def coming (last : Option Nat) (s : RangeState Entries) : Entries :=
  if s.exhausted then [] else within last s.position s.inner

/-- Whether no more rows are to be skipped. -/
def Settled (first : Nat) (s : RangeState Entries) : Prop :=
  s.exhausted = true ∨ first ≤ s.position

/-- A look does nothing but notice the end of the window. -/
theorem look_of_settled (hs : s.Settled first) (last : Option Nat) :
    ∃ trace : Trace, trace.draws = 0 ∧
      (Faulty.cursor.range first last).hasNext s =
        ⟨!(s.coming last).isEmpty, { s with exhausted := (s.coming last).isEmpty }, trace⟩ := by
  obtain ⟨inner, position, exhausted⟩ := s
  cases exhausted with
  | true => exact ⟨.empty, rfl, rfl⟩
  | false =>
    have hfirst : first ≤ position := hs.resolve_left nofun
    cases hlast : last.any (· < position) with
    | true =>
      refine ⟨.ofEvent (.rangeExhausted position), rfl, ?_⟩
      rw [coming, if_neg nofun, within_of_passed hlast]
      exact hasNext_of_passed hfirst hlast
    | false =>
      have hlook := @hasNext_of_window _ Faulty.cursor first last inner position hfirst hlast
      rw [coming, if_neg nofun]
      cases inner with
      | nil =>
        refine ⟨.empty ++ .ofEvent (.rangeExhausted position), rfl, ?_⟩
        rw [within_nil]
        exact hlook
      | cons entry rest =>
        refine ⟨.empty, rfl, ?_⟩
        rw [within_cons hlast]
        exact hlook

/-- What is dealt out next lies below. -/
theorem of_coming_cons {entry : Option Row} {others : Entries} (h : s.coming last = entry :: others) :
    s.exhausted = false ∧ last.any (· < s.position) = false ∧ ∃ rest, s.inner = entry :: rest ∧
      others = within last (s.position + entry.toList.length) rest := by
  obtain ⟨inner, position, exhausted⟩ := s
  cases exhausted with
  | true => cases h
  | false =>
    rw [coming, if_neg nofun] at h
    cases hlast : last.any (· < position) with
    | true =>
      rw [within_of_passed hlast] at h
      cases h
    | false =>
      cases inner with
      | nil =>
        rw [within_nil] at h
        cases h
      | cons found rest =>
        rw [within_cons hlast] at h
        obtain ⟨rfl, rfl⟩ := List.cons.inj h
        exact ⟨rfl, rfl, rest, rfl, rfl⟩

theorem nextRow_of_over (hs : s.Settled first) (h : s.coming last = []) :
    ∃ trace : Trace, trace.draws = 0 ∧ (Faulty.cursor.range first last).nextRow s =
      ⟨.error .noSuchElement, { s with exhausted := true }, trace⟩ := by
  obtain ⟨trace, hdraws, hlook⟩ := look_of_settled hs last
  rw [h] at hlook
  have hlook' : hasNext Faulty.cursor first last s = _ := hlook
  exact ⟨trace, hdraws, by simp [Cursor.range, nextRow, hlook']⟩

/-- The next entry is drawn, and passed on even if it is a failure. -/
theorem nextRow_of_coming (hs : s.Settled first) {entry : Option Row} {others : Entries}
    (h : s.coming last = entry :: others) :
    ∃ trace : Trace, trace.draws = 1 ∧ (Faulty.cursor.range first last).nextRow s =
      ⟨entry.elim (.error .noSuchElement) .ok,
        ⟨s.inner.tail, s.position + entry.toList.length, false⟩, trace⟩ := by
  obtain ⟨trace, hdraws, hlook⟩ := look_of_settled hs last
  obtain ⟨hx, -, rest, hinner, -⟩ := of_coming_cons h
  rw [h] at hlook
  have hlook' : hasNext Faulty.cursor first last s = _ := hlook
  refine ⟨trace ++ .ofDraws 1, by rw [Trace.draws_append, hdraws]; rfl, ?_⟩
  simp only [Cursor.range, nextRow, hlook', hinner]
  cases entry with
  | none => rfl
  | some row => rfl

/-- Where a look is the same but for what was done before it, so is a request. -/
theorem nextRow_of_later {σ : Type} {c : Cursor σ} {s t : RangeState σ} {trace : Trace}
    (h : hasNext c first last s = (hasNext c first last t).after trace) :
    nextRow c first last s = (nextRow c first last t).after trace := by
  simp only [nextRow, h, Reply.after]
  split
  · rw [Trace.append_assoc]
  · rfl

/-- What one call does once no more rows are to be skipped and these entries are still dealt out: it
takes the next of them if it requests one, and notices if there are none. -/
structure Deals (coming : Entries) (s : RangeState Entries) (call : Request)
    (reply : Reply (RangeState Entries) Response) : Prop where
  answer : reply.answer = call.dealt coming 0
  draws : reply.trace.draws = (coming.take call.requested).length
  inner : reply.state.inner = s.inner.drop (coming.take call.requested).length
  position : reply.state.position =
    s.position + (coming.take call.requested).reduceOption.length
  exhausted : reply.state.exhausted = coming.isEmpty

theorem deals_of_settled (hs : s.Settled first) (last : Option Nat) (call : Request) :
    Deals (s.coming last) s call ((Faulty.cursor.range first last).ask s call) := by
  obtain ⟨looked, hlooked, hlook⟩ := look_of_settled hs last
  cases hcoming : s.coming last with
  | nil =>
    obtain ⟨trace, hdraws, hrow⟩ := nextRow_of_over hs hcoming
    rw [hcoming] at hlook
    cases call with
    | hasNext =>
      rw [Cursor.ask, hlook]
      exact ⟨rfl, hlooked, rfl, rfl, rfl⟩
    | nextRow =>
      rw [Cursor.ask, hrow]
      exact ⟨rfl, hdraws, rfl, rfl, rfl⟩
    | next =>
      rw [Cursor.ask_next_of_refused (congrArg Reply.answer hlook), hlook]
      exact ⟨rfl, hlooked, rfl, rfl, rfl⟩
  | cons entry others =>
    obtain ⟨trace, hdraws, hrow⟩ := nextRow_of_coming hs hcoming
    obtain ⟨hx, -⟩ := of_coming_cons hcoming
    have hsame : { s with exhausted := false } = s := by rw [← hx]
    have hposition : s.position + entry.toList.length =
        s.position + [entry].reduceOption.length := by cases entry <;> rfl
    rw [hcoming, List.isEmpty_cons, hsame] at hlook
    cases call with
    | hasNext =>
      rw [Cursor.ask, hlook]
      exact ⟨rfl, hlooked, rfl, rfl, hx⟩
    | nextRow =>
      rw [Cursor.ask, hrow]
      exact ⟨rfl, hdraws, List.drop_one.symm, hposition, rfl⟩
    | next =>
      rw [Cursor.ask_next_of_promised (congrArg Reply.answer hlook), hlook, hrow]
      refine ⟨?_, ?_, List.drop_one.symm, hposition, rfl⟩
      · cases entry <;> rfl
      · rw [Reply.after, Trace.draws_append, hlooked]
        exact (Nat.zero_add _).trans hdraws

/-- After a call the other entries are dealt out. -/
theorem Deals.coming_eq {call : Request} {reply : Reply (RangeState Entries) Response}
    (h : Deals (s.coming last) s call reply) :
    reply.state.coming last = (s.coming last).drop call.requested := by
  have hx := h.exhausted
  have hinner := h.inner
  have hposition := h.position
  cases hcoming : s.coming last with
  | nil =>
    rw [hcoming, List.isEmpty_nil] at hx
    rw [coming, if_pos hx, List.drop_nil]
  | cons entry others =>
    rw [hcoming] at hx hinner hposition
    obtain ⟨hrunning, -, rest, hrest, hothers⟩ := of_coming_cons hcoming
    rw [List.isEmpty_cons] at hx
    rw [coming, if_neg (by rw [hx]; nofun), hinner, hposition]
    cases call with
    | hasNext =>
      rw [coming, if_neg (by rw [hrunning]; nofun)] at hcoming
      exact hcoming
    | nextRow | next =>
      have hlength : [entry].reduceOption.length = entry.toList.length := by cases entry <;> rfl
      rw [hrest, Request.requested, List.take_one, List.head?_cons, Option.toList_some, hlength]
      exact hothers.symm

theorem Deals.settled (hs : s.Settled first) {call : Request}
    {reply : Reply (RangeState Entries) Response} (h : Deals (s.coming last) s call reply) :
    reply.state.Settled first := by
  rcases hs with hx | hfirst
  · have hcoming : s.coming last = [] := if_pos hx
    exact .inl (by rw [h.exhausted, hcoming, List.isEmpty_nil])
  · exact .inr (by rw [h.position]; exact Nat.le_add_right_of_le hfirst)

/-- How far a range has come after so many requests: the first of the entries that were to come are used
up, and the rows among them were handed out. -/
structure Dealt (last : Option Nat) (start : RangeState Entries) (requested : Nat)
    (handed : List Row) (s : RangeState Entries) (draws : Nat) : Prop where
  handed : handed = ((start.coming last).take requested).reduceOption
  coming : s.coming last = (start.coming last).drop requested
  draws : draws = ((start.coming last).take requested).length
  inner : s.inner = start.inner.drop ((start.coming last).take requested).length
  position : s.position = start.position + ((start.coming last).take requested).reduceOption.length

theorem dealt_drop (call : Request) (entries : Entries) (count : Nat) :
    call.dealt (entries.drop count) 0 = call.dealt entries count := by
  cases call with
  | hasNext => simp only [Request.dealt, List.length_drop, Nat.sub_pos_iff_lt]
  | nextRow => simp [Request.dealt]
  | next => simp [Request.dealt]

theorem handed?_dealt (call : Request) (entries : Entries) :
    (call.dealt entries 0).handed?.toList = (entries.take call.requested).reduceOption := by
  cases call with
  | hasNext => rfl
  | nextRow | next =>
    cases entries with
    | nil => rfl
    | cons entry rest => cases entry <;> rfl

/-- One more call takes the range one step further. -/
theorem Dealt.ask {requested draws : Nat} {handed : List Row}
    (h : Dealt last start requested handed s draws) {call : Request}
    {reply : Reply (RangeState Entries) Response} (hcall : Deals (s.coming last) s call reply) :
    Dealt last start (requested + call.requested) (handed ++ reply.answer.handed?.toList)
      reply.state (draws + reply.trace.draws) := by
  have hcoming := hcall.coming_eq
  have htake : (start.coming last).take (requested + call.requested) =
      (start.coming last).take requested ++ (s.coming last).take call.requested := by
    rw [List.take_add, h.coming]
  exact {
    handed := by rw [htake, hcall.answer, handed?_dealt, List.reduceOption_append, h.handed]
    coming := by rw [hcoming, h.coming, List.drop_drop]
    draws := by rw [htake, List.length_append, hcall.draws, h.draws]
    inner := by rw [htake, List.length_append, hcall.inner, h.inner, List.drop_drop]
    position := by
      rw [htake, List.reduceOption_append, List.length_append, ← Nat.add_assoc, hcall.position,
        h.position] }

/-- The number of entries that a run requests. -/
def requestedIn (calls : List Request) : Nat := calls.countP (!·.looks)

theorem requestedIn_concat (calls : List Request) (call : Request) :
    requestedIn (calls ++ [call]) = requestedIn calls + call.requested := by
  cases call <;> simp [requestedIn, Request.looks, Request.requested]

/-- Once no more rows are to be skipped, the number of requests tells what a run has dealt out. The
induction is on the last call. -/
theorem dealt_run (hs : start.Settled first) (last : Option Nat) (calls : List Request) :
    let past := (Faulty.cursor.range first last).run calls start
    Dealt last start (requestedIn calls) (handedOut past.answer) past.state past.trace.draws ∧
      past.state.Settled first := by
  induction calls using List.reverseRecOn with
  | nil => exact ⟨⟨rfl, rfl, rfl, rfl, rfl⟩, hs⟩
  | append_singleton calls call ih =>
    simp only [Cursor.run] at ih ⊢
    obtain ⟨hdealt, hsettled⟩ := ih
    have hcall := deals_of_settled hsettled last call
    rw [runWith_concat, handedOut_concat, requestedIn_concat, Trace.draws_append]
    exact ⟨hdealt.ask hcall, hcall.settled hsettled⟩

/-- The last call has noticed the end of the window if there was nothing to deal out before it. -/
theorem exhausted_run (hs : start.Settled first) (last : Option Nat) (calls : List Request)
    (call : Request) :
    ((Faulty.cursor.range first last).run (calls ++ [call]) start).state.exhausted =
      decide ((start.coming last).length ≤ requestedIn calls) := by
  obtain ⟨hdealt, hsettled⟩ := dealt_run hs last calls
  have hcall := (deals_of_settled hsettled last call).exhausted
  rw [hdealt.coming] at hcall
  rw [Cursor.run, runWith_concat]
  refine hcall.trans ?_
  rw [Bool.eq_iff_iff, List.isEmpty_iff, List.drop_eq_nil_iff, decide_eq_true_iff]

/-! ## Skipping -/

section Skipping

variable {entries rest : Entries} {row : Row} {position count : Nat}

/-- Where the first look at a range arrives, with so many rows to skip: past the first failure if it is
among the entries to skip, and then for good, or else past all of them. -/
def arrival (position count : Nat) (entries : Entries) : RangeState Entries :=
  if (entries.take count).any Option.isNone then
    ⟨entries.drop ((rows entries).length + 1), position + (rows entries).length, true⟩
  else ⟨entries.drop count, position + min count entries.length, decide (entries.length < count)⟩

/-- The draws that this takes. -/
def arrivalDraws (count : Nat) (entries : Entries) : Nat :=
  if (entries.take count).any Option.isNone then (rows entries).length + 1
  else min count entries.length

theorem arrival_zero : arrival position 0 entries = ⟨entries, position, false⟩ := by
  simp [arrival]

theorem arrivalDraws_zero : arrivalDraws 0 entries = 0 := by
  simp [arrivalDraws]

theorem arrival_some : arrival position (count + 1) (some row :: rest) =
    arrival (position + 1) count rest := by
  simp only [arrival, List.take_succ_cons, List.any_cons, Option.isNone_some, Bool.false_or,
    Faulty.rows_some, List.length_cons, List.drop_succ_cons, Nat.add_min_add_right,
    Nat.add_lt_add_iff_right, Nat.add_assoc, Nat.add_comm 1]

theorem arrivalDraws_some :
    arrivalDraws (count + 1) (some row :: rest) = 1 + arrivalDraws count rest := by
  simp only [arrivalDraws, List.take_succ_cons, List.any_cons, Option.isNone_some, Bool.false_or,
    Faulty.rows_some, List.length_cons, Nat.add_min_add_right]
  split <;> exact Nat.add_comm _ 1

theorem settled_arrival (count : Nat) (entries : Entries) :
    (arrival 0 count entries).Settled count := by
  rw [arrival]
  split
  · exact .inl rfl
  · rcases Nat.lt_or_ge entries.length count with hlt | hle
    · exact .inl (decide_eq_true hlt)
    · exact .inr (by simp [hle])

/-- The first look skips rows, and then looks. The induction is on the entries; each row skipped is one
fewer to skip. -/
theorem hasNext_arrival (position count : Nat) (last : Option Nat) (entries : Entries) :
    ∃ trace : Trace, trace.draws = arrivalDraws count entries ∧
      hasNext Faulty.cursor (position + count) last ⟨entries, position, false⟩ =
        (hasNext Faulty.cursor (position + count) last (arrival position count entries)).after
          trace := by
  induction count generalizing position entries with
  | zero =>
    refine ⟨.empty, arrivalDraws_zero.symm, ?_⟩
    rw [arrival_zero, Reply.after, Trace.empty_append]
  | succ count ih =>
    rcases entries with _ | ⟨_ | row, rest⟩
    · have harrival : arrival position (count + 1) [] = ⟨[], position, true⟩ := by simp [arrival]
      refine ⟨.ofEvent (.rangeExhausted position), by simp [arrivalDraws, Trace.ofEvent], ?_⟩
      rw [harrival, hasNext_of_skip_end (by omega) rfl]
      rfl
    · have harrival : arrival position (count + 1) (none :: rest) = ⟨rest, position, true⟩ := by
        simp [arrival]
      refine ⟨.ofDraws 1 ++ .ofEvent (.rangeExhausted position),
        by simp [arrivalDraws, Trace.ofEvent, Trace.ofDraws], ?_⟩
      rw [harrival, hasNext_of_skip_error (by omega) rfl rfl]
      rfl
    · obtain ⟨trace, hdraws, hlook⟩ := ih (position + 1) rest
      rw [Nat.add_right_comm] at hlook
      refine ⟨.ofDraws 1 ++ trace, by rw [Trace.draws_append, hdraws, arrivalDraws_some]; rfl, ?_⟩
      rw [arrival_some, ← Nat.add_assoc, hasNext_of_skipped (by omega) rfl rfl]
      change (hasNext Faulty.cursor _ last ⟨rest, position + 1, false⟩).after (.ofDraws 1) = _
      rw [hlook, Reply.after, Reply.after, Reply.after, Trace.append_assoc]

/-- The first call skips rows, whatever is called, and then does what it does where no more rows are to
be skipped. -/
theorem ask_arrival (first : Nat) (last : Option Nat) (entries : Entries) :
    let c := Faulty.cursor.range first last
    ∃ trace : Trace, trace.draws = arrivalDraws first entries ∧
      ∀ call, c.ask (.start entries) call = (c.ask (arrival 0 first entries) call).after trace := by
  obtain ⟨trace, hdraws, hlook⟩ := hasNext_arrival 0 first last entries
  rw [Nat.zero_add] at hlook
  exact ⟨trace, hdraws, Cursor.ask_of_later hlook (nextRow_of_later hlook)⟩

/-- A run does the same from there, but for the skipping. -/
theorem run_arrival (first : Nat) (last : Option Nat) (entries : Entries) (calls : List Request) :
    let c := Faulty.cursor.range first last
    let past := c.run calls (.start entries)
    let later := c.run calls (arrival 0 first entries)
    past.answer = later.answer ∧
      (∀ call, (c.ask past.state call).answer = (c.ask later.state call).answer) ∧
      (calls ≠ [] → past.state = later.state ∧
        past.trace.draws = arrivalDraws first entries + later.trace.draws) := by
  obtain ⟨trace, hdraws, hask⟩ := ask_arrival first last entries
  cases calls with
  | nil => exact ⟨rfl, fun call => (congrArg Reply.answer (hask call) :), fun h => absurd rfl h⟩
  | cons call calls =>
    simp only [Cursor.run, runWith, hask]
    refine ⟨rfl, fun _ => rfl, fun _ => ⟨rfl, ?_⟩⟩
    simp only [Reply.after, Reply.map, Trace.draws_append, hdraws, Nat.add_assoc]

/-- Where no failure is among the rows to skip, they are all skipped, as far as there are any. -/
theorem arrival_inner (h : (entries.take count).any Option.isNone = false) :
    (arrival 0 count entries).inner = entries.drop (min count entries.length) := by
  rw [arrival, if_neg (by rw [h]; nofun)]
  rcases Nat.le_total count entries.length with hle | hle
  · rw [Nat.min_eq_left hle]
  · rw [Nat.min_eq_right hle, List.drop_of_length_le hle, List.drop_length]

theorem arrival_position (h : (entries.take count).any Option.isNone = false) :
    (arrival 0 count entries).position = min count entries.length := by
  rw [arrival, if_neg (by rw [h]; nofun), Nat.zero_add]

/-- The window is then dealt out from there. -/
theorem coming_arrival (h : (entries.take count).any Option.isNone = false) (last : Option Nat) :
    (arrival 0 count entries).coming last = within last count (entries.drop count) := by
  rw [arrival, if_neg (by rw [h]; nofun), coming, Nat.zero_add]
  rcases Nat.lt_or_ge entries.length count with hlt | hle
  · rw [if_pos (decide_eq_true hlt), List.drop_eq_nil_of_le (Nat.le_of_lt hlt), within_nil]
  · rw [if_neg (by simpa using hle), Nat.min_eq_left hle]

end Skipping

/-- A range that has found its end stays there, whatever it is asked for. -/
theorem run_of_exhausted {σ : Type} {c : Cursor σ} {s : RangeState σ} (hx : s.exhausted = true)
    (first : Nat) (last : Option Nat) (calls : List Request) :
    (c.range first last).run calls s = ⟨calls.map (·.expected [] 0), s, .empty⟩ := by
  have hlook : hasNext c first last s = ⟨false, s, .empty⟩ := hasNext_of_exhausted hx
  have hrow : nextRow c first last s = ⟨.error .noSuchElement, s, .empty⟩ := by
    simp [nextRow, hlook]
  exact Cursor.run_of_idle hlook hrow calls

section Window

variable {entries : Entries}

/-- A failure among the rows to skip is the end of a range. -/
theorem run_of_failure (h : none ∈ entries.take first) (last : Option Nat) (calls : List Request) :
    let past := (Faulty.cursor.range first last).run calls (.start entries)
    let before := (rows entries).length
    past.answer = calls.map (·.expected [] 0) ∧
      (calls ≠ [] → past.trace.draws = before + 1 ∧
        past.state = ⟨entries.drop (before + 1), before, true⟩) := by
  intro past before
  have hany : (entries.take first).any Option.isNone = true :=
    List.any_eq_true.mpr ⟨none, h, rfl⟩
  have harrival : arrival 0 first entries = ⟨entries.drop (before + 1), before, true⟩ := by
    rw [arrival, if_pos hany, Nat.zero_add]
  have hover : (arrival 0 first entries).exhausted = true := by rw [harrival]
  obtain ⟨hanswer, -, hlater⟩ := run_arrival first last entries calls
  rw [run_of_exhausted hover] at hanswer hlater
  refine ⟨hanswer, fun hcalls => ?_⟩
  obtain ⟨hstate, hdraws⟩ := hlater hcalls
  exact ⟨hdraws.trans (if_pos hany), hstate.trans harrival⟩

/-- Without one, the window is dealt out. -/
theorem run_of_window (h : none ∉ entries.take first) (last : Option Nat) (calls : List Request) :
    let c := Faulty.cursor.range first last
    let past := c.run calls (.start entries)
    let skipped := min first entries.length
    let window := within last first (entries.drop first)
    let used := window.take (requestedIn calls)
    handedOut past.answer = used.reduceOption ∧
      (∀ call, (c.ask past.state call).answer = call.dealt window (requestedIn calls)) ∧
      (calls ≠ [] → past.trace.draws = skipped + used.length ∧
        past.state = ⟨entries.drop (skipped + used.length), skipped + used.reduceOption.length,
          decide (window.length ≤ requestedIn calls.dropLast)⟩) := by
  intro c past skipped window used
  have hany : (entries.take first).any Option.isNone = false := by
    rw [List.any_eq_false]
    intro entry hentry hnone
    exact h (Option.isNone_iff_eq_none.mp hnone ▸ hentry)
  have hcoming : (arrival 0 first entries).coming last = window := coming_arrival hany last
  have hstart := settled_arrival first entries
  obtain ⟨hanswer, hask, hlater⟩ := run_arrival first last entries calls
  obtain ⟨hdealt, hsettled⟩ := dealt_run hstart last calls
  refine ⟨?_, fun call => ?_, fun hcalls => ?_⟩
  · have hhanded := hdealt.handed
    rw [hcoming] at hhanded
    exact (congrArg handedOut hanswer).trans hhanded
  · have hcall := (deals_of_settled hsettled last call).answer
    rw [hdealt.coming, hcoming, dealt_drop] at hcall
    exact (hask call).trans hcall
  · obtain ⟨hstate, hdraws⟩ := hlater hcalls
    have hx := exhausted_run hstart last calls.dropLast (calls.getLast hcalls)
    have hskipped : arrivalDraws first entries = skipped := if_neg (by rw [hany]; nofun)
    have hinner := hdealt.inner
    have hposition := hdealt.position
    have htrace := hdealt.draws
    rw [List.dropLast_append_getLast] at hx
    rw [hcoming] at hx hinner hposition htrace
    rw [arrival_inner hany, List.drop_drop] at hinner
    rw [arrival_position hany] at hposition
    refine ⟨by rw [hdraws, hskipped, htrace], hstate.trans ?_⟩
    rw [← hinner, ← hposition, ← hx]

end Window

/-- Whatever was called on a range over entries that may fail: if a failure is among the rows to skip,
nothing is handed out, the range is at its end behind that failure from the first call on, and the base
is never drawn from again. If not, the window is dealt out behind them: every request uses up the next
of its entries and is answered by it, a failure by an error, and only rows take up positions, until the
window is over; from then on requests use up nothing. Failures take no row from the window: its rows are
those that would lie in it without them, and while there are fewer, its entries do not end before the
base's do. -/
theorem deals_window (first : Nat) (last : Option Nat) (entries : Entries) (calls : List Request) :
    let c := Faulty.cursor.range first last
    let past := c.run calls (.start entries)
    let before := (rows entries).length
    let skipped := min first entries.length
    let window := within last first (entries.drop first)
    let used := window.take (requestedIn calls)
    (none ∈ entries.take first →
      past.answer = calls.map (·.expected [] 0) ∧
      (calls ≠ [] → past.trace.draws = before + 1 ∧
        past.state = ⟨entries.drop (before + 1), before, true⟩)) ∧
    (none ∉ entries.take first →
      handedOut past.answer = used.reduceOption ∧
      (∀ call, (c.ask past.state call).answer = call.dealt window (requestedIn calls)) ∧
      (calls ≠ [] → past.trace.draws = skipped + used.length ∧
        past.state = ⟨entries.drop (skipped + used.length), skipped + used.reduceOption.length,
          decide (window.length ≤ requestedIn calls.dropLast)⟩) ∧
      window <+: entries.drop first ∧
      (last = none → window = entries.drop first) ∧
      ∀ bound ∈ last,
        window.reduceOption = (entries.drop first).reduceOption.take (bound + 1 - first) ∧
        (window.reduceOption.length < bound + 1 - first → window = entries.drop first) ∧
        ((handedOut past.answer).length = bound + 1 - first →
          window.length ≤ requestedIn calls)) := by
  intro c past before skipped window used
  refine ⟨fun hfailure => run_of_failure hfailure last calls, fun hfine => ?_⟩
  obtain ⟨hhanded, hask, hstate⟩ := run_of_window hfine last calls
  refine ⟨hhanded, hask, hstate, Faulty.within_isPrefix _ _ _, ?_, ?_⟩
  · rintro rfl
    rfl
  · rintro bound ⟨⟩
    have hrows : window.reduceOption =
        (entries.drop first).reduceOption.take (bound + 1 - first) := Faulty.rows_upTo _ _
    refine ⟨hrows, fun hfew => Faulty.upTo_eq_self ?_, fun hall => ?_⟩
    · rw [hrows, List.length_take] at hfew
      omega
    · rw [hhanded] at hall
      exact Faulty.length_upTo_le hall

/-- The second entry fails in the window, or already while two rows are to be skipped. -/
theorem deals_window_gap :
    let entries : Entries := [some ⟨"a", []⟩, none, some ⟨"b", []⟩, some ⟨"c", []⟩, some ⟨"d", []⟩]
    let calls : List Request := [.nextRow, .hasNext, .nextRow, .next, .nextRow]
    let past := (Faulty.cursor.range 1 (some 2)).run calls (.start entries)
    let failed := (Faulty.cursor.range 2 none).run calls (.start entries)
    handedOut past.answer = [⟨"b", []⟩, ⟨"c", []⟩] ∧ past.trace.draws = 4 ∧
      past.state = ⟨[some ⟨"d", []⟩], 3, true⟩ ∧ failed.trace.draws = 2 := by
  intro entries calls past failed
  obtain ⟨hhanded, -, hlater, -⟩ := (deals_window 1 (some 2) entries calls).2 (by simp [entries])
  obtain ⟨-, hfailed⟩ := (deals_window 2 none entries calls).1 (by simp [entries])
  obtain ⟨hdraws, hstate⟩ := hlater nofun
  exact ⟨hhanded, hdraws, hstate, (hfailed nofun).1⟩

end RangeState

end TableScan
