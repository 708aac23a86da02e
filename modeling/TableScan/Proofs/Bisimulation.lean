import TableScan.Proofs.Simulation

/-!
Cursors that no run can tell apart. Two states are alike if a relation between the states of their
cursors survives every call while answers and traces stay equal. This is a simulation whose bounds are
never left. So every stage keeps alike what it pulls from, and a stack may be rebuilt over any other base
that does the same.
-/

namespace TableScan

variable {σ τ υ : Type}

namespace Cursor

/-- A relation that every call on both sides keeps, with equal answers and traces. -/
structure Bisimulation (c : Cursor σ) (d : Cursor τ) (R : σ → τ → Prop) : Prop where
  hasNext : ∀ {s t}, R s t → (c.hasNext s).Matches R (d.hasNext t)
  nextRow : ∀ {s t}, R s t → (c.nextRow s).Matches R (d.nextRow t)

/-- Two states that no run tells apart. -/
def Alike (c : Cursor σ) (s : σ) (d : Cursor τ) (t : τ) : Prop :=
  ∃ R, c.Bisimulation d R ∧ R s t

namespace Bisimulation

variable {c : Cursor σ} {d : Cursor τ} {R : σ → τ → Prop} {s : σ} {t : τ}

theorem simulation (h : c.Bisimulation d R) : c.Simulation (fun _ => False) d R where
  keeps := ⟨id, id⟩
  hasNext hst := .inr (h.hasNext hst)
  nextRow hst := .inr (h.nextRow hst)

theorem of_simulation (h : c.Simulation (fun _ => False) d R) : c.Bisimulation d R where
  hasNext hst := (h.hasNext hst).resolve_left id
  nextRow hst := (h.nextRow hst).resolve_left id

theorem range (h : c.Bisimulation d R) (first : Nat) (last : Option Nat) :
    (c.range first last).Bisimulation (d.range first last) (RangeState.Related R) :=
  of_simulation (h.simulation.concord.range first last)

theorem filter (h : c.Bisimulation d R) (p : Predicate) :
    (c.filter p).Bisimulation (d.filter p) (FilterState.Related R) :=
  of_simulation (h.simulation.concord.filter p)

theorem project (h : c.Bisimulation d R) (columns : List Nat) :
    (c.project columns).Bisimulation (d.project columns) R :=
  of_simulation (h.simulation.project columns)

theorem of_iff {S : σ → τ → Prop} (h : c.Bisimulation d R) (hRS : ∀ s t, R s t ↔ S s t) :
    c.Bisimulation d S where
  hasNext hst := (h.hasNext ((hRS _ _).mpr hst)).mono fun s t => (hRS s t).mp
  nextRow hst := (h.nextRow ((hRS _ _).mpr hst)).mono fun s t => (hRS s t).mp

theorem comp {e : Cursor υ} {S : τ → υ → Prop} (h : c.Bisimulation d R)
    (h' : d.Bisimulation e S) : c.Bisimulation e fun s u => ∃ t, R s t ∧ S t u where
  hasNext := by
    rintro s u ⟨t, hst, htu⟩
    have hc := h.hasNext hst
    have hd := h'.hasNext htu
    exact ⟨hc.answer.trans hd.answer, hc.trace.trans hd.trace, _, hc.state, hd.state⟩
  nextRow := by
    rintro s u ⟨t, hst, htu⟩
    have hc := h.nextRow hst
    have hd := h'.nextRow htu
    exact ⟨hc.answer.trans hd.answer, hc.trace.trans hd.trace, _, hc.state, hd.state⟩

theorem next (h : c.Bisimulation d R) (hst : R s t) : (c.next s).Matches R (d.next t) :=
  (h.simulation.next hst).resolve_left id

theorem ask (h : c.Bisimulation d R) (hst : R s t) (call : Request) :
    (c.ask s call).Matches R (d.ask t call) :=
  (h.simulation.ask hst call).resolve_left id

theorem run (h : c.Bisimulation d R) (hst : R s t) (calls : List Request) :
    (c.run calls s).Matches R (d.run calls t) :=
  (h.simulation.run hst calls).resolve_left id

theorem take (h : c.Bisimulation d R) (hst : R s t) (n : Nat) :
    (c.take n s).Matches R (d.take n t) := by
  induction n generalizing s t with
  | zero => exact ⟨rfl, rfl, hst⟩
  | succ n ih =>
    have hf := h.next hst
    have hr := ih hf.state
    simp only [Cursor.take, hf.answer]
    split
    · exact (hr.map _).after hf.trace
    · exact ⟨rfl, hf.trace, hf.state⟩

end Bisimulation

namespace Alike

variable {c : Cursor σ} {d : Cursor τ} {s : σ} {t : τ}

theorem trans {e : Cursor υ} {u : υ} : c.Alike s d t → d.Alike t e u → c.Alike s e u := by
  rintro ⟨R, hR, hst⟩ ⟨S, hS, htu⟩
  exact ⟨_, hR.comp hS, t, hst, htu⟩

theorem run (h : c.Alike s d t) (calls : List Request) :
    (c.run calls s).Matches (fun s t => c.Alike s d t) (d.run calls t) := by
  obtain ⟨R, hR, hst⟩ := h
  exact (hR.run hst calls).mono fun _ _ hs => ⟨R, hR, hs⟩

theorem ask (h : c.Alike s d t) (call : Request) :
    (c.ask s call).Matches (fun s t => c.Alike s d t) (d.ask t call) := by
  obtain ⟨R, hR, hst⟩ := h
  exact (hR.ask hst call).mono fun _ _ hs => ⟨R, hR, hs⟩

theorem take (h : c.Alike s d t) (n : Nat) :
    (c.take n s).Matches (fun s t => c.Alike s d t) (d.take n t) := by
  obtain ⟨R, hR, hst⟩ := h
  exact (hR.take hst n).mono fun _ _ hs => ⟨R, hR, hs⟩

/-- Alike states serve the same rows. -/
theorem serves (h : c.Alike s d t) {rows : List Row} (ht : Serves d.ask t rows) :
    Serves c.ask s rows := by
  intro calls call
  have hr := h.run calls
  have ha := hr.state.ask call
  simp only [Cursor.run] at hr ha
  simp only [hr.answer, ha.answer]
  exact ht calls call

theorem within (h : c.Alike s d t) : c.AlikeWithin (fun _ => False) s d t := by
  obtain ⟨R, hR, hst⟩ := h
  exact ⟨R, hR.simulation, hst⟩

theorem of_within (h : c.AlikeWithin (fun _ => False) s d t) : c.Alike s d t := by
  obtain ⟨R, hR, hst⟩ := h
  exact ⟨R, .of_simulation hR, hst⟩

/-- A stage started over alike states is alike. -/
theorem stage (h : c.Alike s d t) (stage : Stage) :
    (stage.cursor c).Alike (stage.start s) (stage.cursor d) (stage.start t) :=
  of_within (h.within.stage stage)

/-- So is a whole stack. -/
theorem stack (h : c.Alike s d t) (stages : List Stage) :
    (Stack.cursor c stages).Alike (Stack.start s stages) (Stack.cursor d stages)
      (Stack.start t stages) :=
  of_within (h.within.stack stages)

end Alike

end Cursor

end TableScan
