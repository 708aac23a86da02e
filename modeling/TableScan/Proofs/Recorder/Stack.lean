import TableScan.Proofs.Recorder.Filter
import TableScan.Proofs.Recorder.Range

/-!
The accounts of a stack. The base and every stage are recorded, so that whatever one stage pulls is what
the stage below it hands out. Taking the records down changes nothing that the stack does, and after any
calls every stage is accounted for.
-/

namespace TableScan

variable {σ τ : Type}

theorem toList_toOption_map (answer : Except ScanError Row) (f : Row → Row) :
    (answer.map f).toOption.toList = answer.toOption.toList.map f := by
  cases answer <;> rfl

namespace Stage

/-- Carries the state of what a stage pulls from over. -/
def map (f : σ → τ) : (stage : Stage) → stage.State σ → stage.State τ
  | range _ _, s => RangeState.mk (f (RangeState.inner s)) (RangeState.position s)
      (RangeState.exhausted s)
  | filter _, s => FilterState.mk (f (FilterState.inner s)) (FilterState.pending s)
      (FilterState.examined s) (FilterState.rejected s) (FilterState.exhausted s)
  | project _, s => f s

/-- What the record of a stage and the record below it say of each other. A projection hands out the
rows that it pulls, rearranged, and logs nothing. -/
def Accounts (c : Cursor σ) : (stage : Stage) → Recorded (stage.State (Recorded σ)) → Prop
  | range first last, s => RangeState.Accounts c first last s
  | filter p, s => FilterState.Accounts c p s
  | project columns, s =>
    let below : Recorded σ := s.state
    s.rows = below.rows.map (·.project columns) ∧ s.events = below.events

theorem start_accounts (c : Cursor σ) (stage : Stage) (s : σ) :
    stage.Accounts c (.start (stage.start (.start s))) := by
  cases stage with
  | range first last => exact RangeState.Accounts.start c first last s
  | filter p => exact FilterState.Accounts.start c p s
  | project columns => exact ⟨rfl, rfl⟩

theorem keeps_accounts (c : Cursor σ) (stage : Stage) :
    (stage.cursor c.recorded).recorded.Keeps (stage.Accounts c) := by
  cases stage with
  | range first last => exact RangeState.Accounts.keeps c first last
  | filter p => exact FilterState.Accounts.keeps c p
  | project columns =>
    constructor
    · rintro s ⟨hrows, hevents⟩
      refine ⟨?_, ?_⟩
      · rw [Recorded.rows_hasNext, hrows]
        exact congrArg _ (Recorded.rows_hasNext c s.state).symm
      · rw [Recorded.events_hasNext, hevents]
        exact (Recorded.events_hasNext c s.state).symm
    · rintro s ⟨hrows, hevents⟩
      refine ⟨?_, ?_⟩
      · have hbelow := congrArg (List.map (·.project columns)) (Recorded.rows_nextRow c s.state)
        rw [Recorded.rows_nextRow, hrows]
        refine Eq.trans ?_ hbelow.symm
        rw [List.map_append]
        exact congrArg _ (toList_toOption_map _ _)
      · rw [Recorded.events_nextRow, hevents]
        exact (Recorded.events_nextRow c s.state).symm

end Stage

namespace Stack

/-- The state of a stack with records of all calls on its base and its stages. -/
def RecordedState (σ : Type) : List Stage → Type
  | [] => Recorded σ
  | stage :: outer => RecordedState (stage.State (Recorded σ)) outer

def recordedStart {σ : Type} (s : σ) : (stages : List Stage) → RecordedState σ stages
  | [] => Recorded.start s
  | stage :: outer => recordedStart (stage.start (Recorded.start s)) outer

def recorded {σ : Type} (c : Cursor σ) : (stages : List Stage) → Cursor (RecordedState σ stages)
  | [] => c.recorded
  | stage :: outer => recorded (stage.cursor c.recorded) outer

/-- The record of the base. -/
def floor {σ : Type} : (stages : List Stage) → RecordedState σ stages → Recorded σ
  | [], s => s
  | stage :: outer, s => stage.inner (floor outer s).state

/-- The rows that the last stage handed out. -/
def handed {σ : Type} : (stages : List Stage) → RecordedState σ stages → List Row
  | [], s => Recorded.rows s
  | _ :: outer, s => handed outer s

/-- The state of the stack without its records. -/
def plain {σ τ : Type} (f : σ → τ) : (stages : List Stage) → RecordedState σ stages → State τ stages
  | [], s => f (Recorded.state s)
  | stage :: outer, s => plain (stage.map fun below : Recorded σ => f below.state) outer s

/-- Every stage is accounted for. -/
def Accounts {σ : Type} (c : Cursor σ) : (stages : List Stage) → RecordedState σ stages → Prop
  | [], _ => True
  | stage :: outer, s =>
    stage.Accounts c (floor outer s) ∧ Accounts (stage.cursor c.recorded) outer s

/-! ## Records change nothing -/

theorem plain_recordedStart {σ τ : Type} (f : σ → τ) (s : σ) (stages : List Stage) :
    plain f stages (recordedStart s stages) = start (f s) stages := by
  induction stages generalizing σ τ with
  | nil => rfl
  | cons stage outer ih =>
    have hstage : stage.map (fun below : Recorded σ => f below.state) (stage.start (.start s)) =
        stage.start (f s) := by cases stage <;> rfl
    exact (ih _ _).trans (congrArg (start · outer) hstage)

end Stack

/-- A stage over a cursor does what it does over another one that the states are carried over to. -/
theorem Cursor.Bisimulation.stage_map {c : Cursor σ} {d : Cursor τ} {f : σ → τ}
    (h : c.Bisimulation d fun s t => f s = t) (stage : Stage) :
    (stage.cursor c).Bisimulation (stage.cursor d) fun s t => stage.map f s = t := by
  cases stage with
  | range first last =>
    refine (h.range first last).of_iff fun s t => ⟨?_, ?_⟩
    · rintro ⟨hinner, hposition, hexhausted⟩
      simp only [Stage.map, hinner, hposition, hexhausted]
      rfl
    · rintro rfl
      exact ⟨rfl, rfl, rfl⟩
  | filter p =>
    refine (h.filter p).of_iff fun s t => ⟨?_, ?_⟩
    · rintro ⟨hinner, hpending, hexamined, hrejected, hexhausted⟩
      simp only [Stage.map, hinner, hpending, hexamined, hrejected, hexhausted]
      rfl
    · rintro rfl
      exact ⟨rfl, rfl, rfl, rfl, rfl⟩
  | project columns => exact (h.project columns).of_iff fun s t => Iff.rfl

theorem Cursor.Bisimulation.recorded {c : Cursor σ} {d : Cursor τ} {f : σ → τ}
    (h : c.Bisimulation d fun s t => f s = t) :
    c.recorded.Bisimulation d fun s t => f s.state = t where
  hasNext hst := ⟨(h.hasNext hst).answer, (h.hasNext hst).trace, (h.hasNext hst).state⟩
  nextRow hst := ⟨(h.nextRow hst).answer, (h.nextRow hst).trace, (h.nextRow hst).state⟩

namespace Stack

theorem plain_bisimulation {σ τ : Type} {c : Cursor σ} {d : Cursor τ} {f : σ → τ}
    (h : c.Bisimulation d fun s t => f s = t) (stages : List Stage) :
    (recorded c stages).Bisimulation (cursor d stages) fun s t => plain f stages s = t := by
  induction stages generalizing σ τ with
  | nil => exact h.recorded
  | cons stage outer ih => exact ih (h.recorded.stage_map stage)

/-! ## Every stage is accounted for -/

theorem floor_recordedStart {σ : Type} (s : σ) (stages : List Stage) :
    floor stages (recordedStart s stages) = .start s := by
  induction stages generalizing σ with
  | nil => rfl
  | cons stage outer ih =>
    rw [floor, recordedStart, ih]
    cases stage <;> rfl

theorem start_accounts {σ : Type} (c : Cursor σ) (s : σ) (stages : List Stage) :
    Accounts c stages (recordedStart s stages) := by
  induction stages generalizing σ with
  | nil => trivial
  | cons stage outer ih =>
    have hfloor := floor_recordedStart (stage.start (Recorded.start s)) outer
    have hstage := stage.start_accounts c s
    rw [← hfloor] at hstage
    exact ⟨hstage, ih _ _⟩

theorem handed_recordedStart {σ : Type} (s : σ) (stages : List Stage) :
    handed stages (recordedStart s stages) = [] := by
  induction stages generalizing σ with
  | nil => rfl
  | cons stage outer ih => exact ih _

/-- The last record has the rows that a run hands out. -/
theorem handed_run {σ : Type} (c : Cursor σ) (stages : List Stage) (s : RecordedState σ stages)
    (calls : List Request) :
    handed stages ((recorded c stages).run calls s).state =
      handed stages s ++ handedOut ((recorded c stages).run calls s).answer := by
  induction stages generalizing σ with
  | nil => exact Recorded.rows_run c s calls
  | cons stage outer ih => exact ih (stage.cursor c.recorded) s

/-- What is kept at the base of a stack is kept by the stack. -/
theorem keeps_floor {σ : Type} {c : Cursor σ} {I : Recorded σ → Prop} (h : c.recorded.Keeps I)
    (stages : List Stage) : (recorded c stages).Keeps fun s => I (floor stages s) := by
  induction stages generalizing σ with
  | nil => exact h
  | cons stage outer ih => exact ih (h.stage stage).recorded

theorem keeps_accounts {σ : Type} (c : Cursor σ) (stages : List Stage) :
    (recorded c stages).Keeps (Accounts c stages) := by
  induction stages generalizing σ with
  | nil => exact ⟨fun _ => trivial, fun _ => trivial⟩
  | cons stage outer ih =>
    exact (keeps_floor (stage.keeps_accounts c) outer).and (ih (stage.cursor c.recorded))

/-- Accounts are kept over whole runs. -/
theorem accounts_run {σ : Type} (base : Cursor σ) (s : σ) (stages : List Stage)
    (calls : List Request) :
    let past := (recorded base stages).run calls (recordedStart s stages)
    (cursor base stages).run calls (start s stages) =
        ⟨past.answer, plain id stages past.state, past.trace⟩ ∧
      handedOut past.answer = handed stages past.state ∧ Accounts base stages past.state := by
  intro past
  have hbase : base.Bisimulation base fun s t => id s = t := by
    constructor
    · rintro s _ rfl
      exact ⟨rfl, rfl, rfl⟩
    · rintro s _ rfl
      exact ⟨rfl, rfl, rfl⟩
  have hrun := (plain_bisimulation hbase stages).run (plain_recordedStart id s stages) calls
  have hhanded := handed_run base stages (recordedStart s stages) calls
  rw [handed_recordedStart, List.nil_append] at hhanded
  exact ⟨Reply.ext hrun.answer.symm hrun.state.symm hrun.trace.symm, hhanded.symm,
    (keeps_accounts base stages).run (start_accounts base s stages) calls⟩

end Stack

end TableScan
