import TableScan.Proofs.Script.Stack

/-!
Draws ahead of their use. However it is called, a lookahead has drawn the rows that it handed out and at
most one answer more: the one that a look or a failed request was after. Once it has drawn an end it never
draws again, even if it has let go of that end, so it does not matter whether the source would have gone
on.
-/

namespace TableScan

/-- What the source answers once it has been asked so many times before. -/
def Feed.answer (feed : Feed) (asked : Nat) : Option Row := feed[asked]?.join

theorem Feed.answer_drop (feed : Feed) (asked : Nat) :
    Feed.answer (feed.drop asked) 0 = feed.answer asked := by
  rw [answer, answer, List.getElem?_drop, Nat.add_zero]

namespace Lookahead

theorem draw_of_running (feed : Feed) (ahead : Option (Option Row)) :
    draw ⟨feed, false, ahead⟩ =
      ⟨feed.answer 0, ⟨feed.tail, (feed.answer 0).isNone, ahead⟩, .ofDraws 1⟩ := by
  rcases feed with _ | ⟨_ | row, rest⟩ <;> rfl

/-- How a lookahead over a feed can stand once so many rows have been handed out, and by how many draws it
has come there. -/
inductive Stands (feed : Feed) (count : Nat) : Lookahead → Nat → Prop where
  /-- Nothing was drawn after the last row. -/
  | level : Stands feed count ⟨feed.drop count, false, none⟩ count
  /-- The next answer is held. -/
  | ahead : Stands feed count
      ⟨feed.drop (count + 1), (feed.answer count).isNone, some (feed.answer count)⟩ (count + 1)
  /-- The end was let go of. -/
  | released (h : feed.answer count = none) :
      Stands feed count ⟨feed.drop (count + 1), true, none⟩ (count + 1)

namespace Stands

variable {feed : Feed} {count draws : Nat} {s : Lookahead}

theorem draws_le (h : Stands feed count s draws) : draws ≤ count + 1 := by
  cases h with
  | level => exact Nat.le_succ count
  | ahead => exact Nat.le_refl _
  | released hend => exact Nat.le_refl _

theorem feed_eq (h : Stands feed count s draws) : s.feed = feed.drop draws := by
  cases h <;> rfl

/-- A look draws the next answer if it has not been drawn, and holds it. -/
theorem hasNext_eq (h : Stands feed count s draws) :
    s.hasNext = ⟨(feed.answer count).isSome,
      ⟨feed.drop (count + 1), (feed.answer count).isNone, some (feed.answer count)⟩,
      .ofDraws (count + 1 - draws)⟩ := by
  cases h with
  | level =>
    rw [hasNext, lookBy, draw_of_running, Feed.answer_drop, List.tail_drop, Nat.add_sub_cancel_left]
  | ahead =>
    rw [Nat.sub_self]
    rfl
  | released hend =>
    rw [Nat.sub_self, hend]
    rfl

/-- A request draws no more than a look does, and holds nothing, not even an end. -/
theorem nextRow_eq (h : Stands feed count s draws) :
    s.nextRow = ⟨orExhausted (feed.answer count),
      ⟨feed.drop (count + 1), (feed.answer count).isNone, none⟩, .ofDraws (count + 1 - draws)⟩ := by
  cases h with
  | level =>
    rw [nextRow, requestBy, draw_of_running, Feed.answer_drop, List.tail_drop, Nat.add_sub_cancel_left]
    rfl
  | ahead =>
    rw [Nat.sub_self]
    rfl
  | released hend =>
    rw [Nat.sub_self, hend]
    rfl

/-- A call of any kind sees to it that the next answer is drawn, and hands that answer out or nothing. -/
theorem ask (h : Stands feed count s draws) (call : Request) :
    let reply := cursor.ask s call
    draws + reply.trace.draws = count + 1 ∧
      (reply.answer.handed? = none ∨ reply.answer.handed? = feed.answer count) ∧
      Stands feed (count + reply.answer.handed?.toList.length) reply.state (count + 1) := by
  have hdraws : draws + (count + 1 - draws) = count + 1 := Nat.add_sub_of_le h.draws_le
  have hlook : cursor.hasNext s = _ := h.hasNext_eq
  have hrow : cursor.nextRow s = _ := h.nextRow_eq
  cases call with
  | hasNext =>
    rw [Cursor.ask, hlook]
    exact ⟨hdraws, .inl rfl, .ahead⟩
  | nextRow =>
    rw [Cursor.ask, hrow]
    cases hnext : feed.answer count with
    | none => exact ⟨hdraws, .inl rfl, .released hnext⟩
    | some row => exact ⟨hdraws, .inr rfl, .level⟩
  | next =>
    cases hnext : feed.answer count with
    | none =>
      rw [Cursor.ask_next_of_refused (by rw [hlook, hnext]; rfl), hlook]
      exact ⟨hdraws, .inl rfl, .ahead⟩
    | some row =>
      -- the look before it takes nothing from the request
      have hsteady : cursor.Steady := steady draws_draw
      have hrequest : cursor.ask s .next = (cursor.nextRow s).map (Response.item ·.toOption) := by
        rw [Cursor.ask_next_of_promised (by rw [hlook, hnext]; rfl), ← hsteady.nextRow s]
        rfl
      rw [hrequest, hrow, hnext]
      exact ⟨hdraws, .inr rfl, .level⟩

/-- After any run the rows that were handed out are the first answers, and one more was drawn if the last
call handed out nothing. The induction is on the last call. -/
theorem run (feed : Feed) (calls : List Request) :
    let past := cursor.run calls (start feed)
    let count := (handedOut past.answer).length
    Stands feed count past.state past.trace.draws ∧
      (handedOut past.answer).map some = (List.range count).map feed.answer ∧
      past.trace.draws = count + (lookedAhead past.answer).toNat := by
  induction calls using List.reverseRecOn with
  | nil => exact ⟨.level, rfl, rfl⟩
  | append_singleton calls call ih =>
    simp only [Cursor.run] at ih ⊢
    rw [runWith_concat]
    generalize runWith cursor.ask calls (start feed) = past at ih ⊢
    obtain ⟨hstands, hrows, -⟩ := ih
    obtain ⟨hdraws, hanswer, hnext⟩ := hstands.ask call
    simp only [handedOut_concat, lookedAhead_concat, List.length_append, Trace.draws_append, hdraws]
    generalize cursor.ask past.state call = reply at hanswer hnext ⊢
    refine ⟨hnext, ?_, ?_⟩
    · cases hhanded : reply.answer.handed? with
      | none => simpa using hrows
      | some row =>
        have hfound : feed.answer (handedOut past.answer).length = some row := by
          simpa [hhanded, eq_comm] using hanswer
        simp [List.range_succ, hrows, hfound]
    · cases reply.answer.handed? <;> rfl

/-- An end among the answers that were drawn is the last of them. -/
theorem ended_of_drawn {rows : List Row} (h : Stands feed rows.length s draws)
    (hrows : rows.map some = (List.range rows.length).map feed.answer) {drawn : Nat}
    (hdrawn : drawn < draws) (hend : feed.answer drawn = none) :
    s.ended = true ∧ s.ahead.join = none := by
  have hpast : rows.length ≤ drawn := by
    refine Nat.le_of_not_lt fun hlt => ?_
    have hmem : feed.answer drawn ∈ (List.range rows.length).map feed.answer :=
      List.mem_map_of_mem (List.mem_range.mpr hlt)
    rw [← hrows, hend] at hmem
    simp at hmem
  cases h with
  | level => exact absurd hdrawn (Nat.not_lt.mpr hpast)
  | ahead =>
    obtain rfl : drawn = rows.length := Nat.le_antisymm (Nat.le_of_lt_succ hdrawn) hpast
    rw [hend]
    exact ⟨rfl, rfl⟩
  | released hreleased => exact ⟨rfl, rfl⟩

end Stands

/-- Once the source has ended, with no row held, every call finds the end and nothing is drawn. -/
theorem run_of_ended {s : Lookahead} (hended : s.ended = true) (hahead : s.ahead.join = none)
    (calls : List Request) :
    (cursor.run calls s).answer = calls.map (·.expected [] 0) ∧
      (cursor.run calls s).trace = .empty := by
  have hscript : s.script = .stop .empty := by
    rcases hheld : s.ahead with _ | _ | row
    · simp [script, hheld, hended]
    · simp [script, hheld]
    · simp [hheld] at hahead
  have hrun := follows_script.run ⟨fun _ => hended, hscript⟩ calls
  have hidle := Cursor.run_of_idle (c := Script.cursor) (s := .stop .empty) rfl rfl calls
  rw [hidle] at hrun
  exact ⟨hrun.answer, hrun.trace⟩

/-- What a run of a lookahead over a source has done, however it was called. The source answers with rows
and ends in any order; the feed has its first answers. -/
structure OneAhead (source : Nat → Option Row) (feed : Feed)
    (past : Reply Lookahead (List Response)) : Prop where
  /-- The rows handed out are the first answers of the source, with no end among them. -/
  handed : (handedOut past.answer).map some =
    (List.range (handedOut past.answer).length).map source
  /-- The source was asked for these rows, and once more if the last call handed out nothing, so that a
  look or a failed request was made since the last hand-out. -/
  draws : past.trace.draws =
    (handedOut past.answer).length + (lookedAhead past.answer).toNat
  draws_le : past.trace.draws ≤ (handedOut past.answer).length + 1
  remaining : past.state.feed = feed.drop past.trace.draws
  /-- The next look tells whether the next answer is a row. -/
  look : (cursor.hasNext past.state).answer = (source (handedOut past.answer).length).isSome
  /-- The next request hands the next answer out or fails. -/
  request : (cursor.nextRow past.state).answer =
    orExhausted (source (handedOut past.answer).length)
  /-- A look holds on to the end. -/
  held : source (handedOut past.answer).length = none →
    (cursor.hasNext past.state).state =
      ⟨feed.drop ((handedOut past.answer).length + 1), true, some none⟩
  /-- A request lets go of the end. -/
  released : source (handedOut past.answer).length = none →
    (cursor.nextRow past.state).state =
      ⟨feed.drop ((handedOut past.answer).length + 1), true, none⟩
  /-- Once an end was drawn all later calls find the end, and the source is not asked again. -/
  fused : ∀ drawn < past.trace.draws, source drawn = none → ∀ later : List Request,
    (cursor.run later past.state).answer = later.map (·.expected [] 0) ∧
      (cursor.run later past.state).trace.draws = 0

/-- Whatever calls were made on a lookahead, it has drawn the rows that it handed out and at most one
answer more, and after the first end it draws nothing, although a failed request lets go of that end.

A call asks once at most, so a source that never runs out is seen through any feed that has more of its
answers than there are calls. -/
theorem fused_one_ahead {source : Nat → Option Row} {feed : Feed} (calls : List Request)
    (hfeed : ∀ asked ≤ calls.length, feed.answer asked = source asked) :
    OneAhead source feed (cursor.run calls (start feed)) := by
  let past := cursor.run calls (start feed)
  let count := (handedOut past.answer).length
  obtain ⟨hstands, hrows, hdraws⟩ := Stands.run feed calls
  have hcount : count ≤ calls.length :=
    Nat.le_trans (List.length_filterMap_le _ _) (Nat.le_of_eq (length_runWith _ _ _))
  have hshown : ∀ asked ≤ count, feed.answer asked = source asked := fun asked hasked =>
    hfeed asked (Nat.le_trans hasked hcount)
  have hlook : cursor.hasNext past.state = _ := hstands.hasNext_eq
  have hrow : cursor.nextRow past.state = _ := hstands.nextRow_eq
  rw [hshown count (Nat.le_refl _)] at hlook hrow
  exact {
    handed := hrows.trans (List.map_congr_left fun asked hasked =>
      hshown asked (Nat.le_of_lt (List.mem_range.mp hasked)))
    draws := hdraws
    draws_le := hstands.draws_le
    remaining := hstands.feed_eq
    look := congrArg Reply.answer hlook
    request := congrArg Reply.answer hrow
    held := by
      intro hend
      rw [show source count = none from hend] at hlook
      exact congrArg Reply.state hlook
    released := by
      intro hend
      rw [show source count = none from hend] at hrow
      exact congrArg Reply.state hrow
    fused := by
      intro drawn hdrawn hend later
      have hle : drawn ≤ count := Nat.le_of_lt_succ (Nat.lt_of_lt_of_le hdrawn hstands.draws_le)
      obtain ⟨hended, hahead⟩ :=
        hstands.ended_of_drawn hrows hdrawn ((hshown drawn hle).trans hend)
      obtain ⟨hanswer, htrace⟩ := run_of_ended hended hahead later
      exact ⟨hanswer, congrArg Trace.draws htrace⟩ }

/-- Every other answer of the source is an end. The failed request lets go of the first one, and the rows
after it are never drawn. -/
theorem fused_one_ahead_resuming :
    let row : Row := ⟨"a", [.null]⟩
    let source : Nat → Option Row := fun asked => if asked % 2 = 0 then some row else none
    let feed : Feed := [some row, none, some row, none, some row, none]
    let past := cursor.run [.hasNext, .nextRow, .nextRow, .hasNext, .nextRow] (start feed)
    (∀ asked ≤ 5, feed.answer asked = source asked) ∧ source 1 = none ∧
      handedOut past.answer = [row] ∧ past.trace.draws = 2 ∧
      past.state = ⟨feed.drop 2, true, none⟩ ∧
      ∀ later : List Request, (cursor.run later past.state).trace.draws = 0 := by
  intro row source feed past
  have hfeed : ∀ asked ≤ 5, feed.answer asked = source asked := by decide
  have hpast := fused_one_ahead [.hasNext, .nextRow, .nextRow, .hasNext, .nextRow] hfeed
  exact ⟨hfeed, rfl, rfl, rfl, rfl, fun later => (hpast.fused 1 (by decide) rfl later).2⟩

end Lookahead

end TableScan
