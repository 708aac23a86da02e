import TableScan.Proofs.Scan.Pages
import TableScan.Table.Reader

/-!
Reading a table from both ends. The rows that were taken from the front, those that are still to come
and those that were taken from the back, last first, are at any time the rows that the table had when the
reader was made. Readers do not know of each other: a copy starts where the original stands, and from
then on each goes its own way.
-/

namespace TableScan

/-- The ends at which rows are taken. -/
inductive End where
  | front
  | back
deriving DecidableEq

namespace Reader

def take (reader : Reader) : End → Option Row × Reader
  | .front => reader.next
  | .back => reader.nextBack

/-- What so many calls at one end are answered. -/
def answers (side : End) : Nat → Reader → List (Option Row)
  | 0, _ => []
  | count + 1, reader =>
    let taken := reader.take side
    taken.1 :: answers side count taken.2

/-- The rows that are still to come, as they are met from one end. -/
def facing (reader : Reader) : End → List Row
  | .front => reader.remaining
  | .back => reader.remaining.reverse

theorem take_fst (reader : Reader) (side : End) :
    (reader.take side).1 = (reader.facing side).head? := by
  cases side with
  | front => rfl
  | back => exact List.head?_reverse.symm

theorem facing_take (reader : Reader) (side : End) :
    (reader.take side).2.facing side = (reader.facing side).tail := by
  cases side with
  | front => rfl
  | back => exact List.tail_reverse.symm

theorem length_facing (reader : Reader) (side : End) :
    (reader.facing side).length = reader.remaining.length := by
  cases side with
  | front => rfl
  | back => exact List.length_reverse

/-- Calls at one end are answered with the rows that are met there, and with none after the last. -/
theorem answers_eq (side : End) (count : Nat) (reader : Reader) :
    reader.answers side count = (List.range count).map fun i => (reader.facing side)[i]? := by
  induction count generalizing reader with
  | zero => rfl
  | succ count ih =>
    rw [answers, ih, List.range_succ_eq_map, List.map_cons, List.map_map, take_fst, facing_take]
    simp [Function.comp_def, List.head?_eq_getElem?]

/-- A reader without rows stays as it is. -/
theorem take_of_nil {reader : Reader} (h : reader.remaining = []) (side : End) :
    reader.take side = (none, reader) := by
  obtain ⟨remaining⟩ := reader
  obtain rfl : remaining = [] := h
  cases side <;> rfl

end Reader

/-- A source that answers with the entries of a list until there are no more has these rows. -/
theorem Feed.rows_of_entries {rows : List Row} {count : Nat} (h : rows.length ≤ count) :
    Feed.rows ((List.range count).map fun i => rows[i]?) = rows := by
  induction rows generalizing count with
  | nil =>
    cases count with
    | zero => rfl
    | succ count =>
      rw [List.range_succ_eq_map]
      rfl
  | cons row rows ih =>
    cases count with
    | zero => cases h
    | succ count =>
      rw [List.range_succ_eq_map, List.map_cons, List.map_map]
      exact congrArg (row :: ·) (ih (Nat.le_of_succ_le_succ h))

/-- A scan over a reader sees the rows as they are met from its end. -/
theorem Reader.scan_serves {schema : Schema} {options : ScanOptions} {reader : Reader} {count : Nat}
    (hvalid : options.WellFormed schema) (hcount : reader.remaining.length ≤ count) (side : End) :
    ∃ stream : RowStream,
      (ScanBuilder.build ⟨schema, reader.answers side count, options⟩).result = .ok stream ∧
      Serves RowStream.ask stream (options.rows (reader.facing side)) := by
  refine ⟨_, ScanBuilder.build_of_wellFormed hvalid, ?_⟩
  have hrows : Feed.rows (reader.answers side count) = reader.facing side := by
    rw [answers_eq, Feed.rows_of_entries]
    rwa [length_facing]
  rw [← hrows]
  exact (ScanPlan.carries_planned hvalid).serves _

/-! ## Readings -/

/-- A reader with the rows that its table had when it was made, and the rows that were taken from either
end, in the order of the calls. What was taken from the reader that it is a copy of counts as well. -/
structure Reading where
  reader : Reader
  whole : List Row
  front : List Row
  back : List Row

namespace Reading

def begin (table : Table) : Reading := ⟨table.reader, table.rows, [], []⟩

def take (reading : Reading) (side : End) : Reading :=
  let taken := reading.reader.take side
  match side with
  | .front => { reading with reader := taken.2, front := reading.front ++ taken.1.toList }
  | .back => { reading with reader := taken.2, back := reading.back ++ taken.1.toList }

/-- No row is lost and none is taken twice. -/
def Partitions (reading : Reading) : Prop :=
  reading.front ++ reading.reader.remaining ++ reading.back.reverse = reading.whole

variable {reading : Reading}

theorem Partitions.begin (table : Table) : (Reading.begin table).Partitions :=
  List.append_nil table.rows

theorem Partitions.take (h : reading.Partitions) (side : End) : (reading.take side).Partitions := by
  obtain ⟨⟨remaining⟩, whole, front, back⟩ := reading
  cases side with
  | front =>
    cases remaining with
    | nil => simpa [Reading.take, Reader.take, Reader.next, Partitions] using h
    | cons row rest => simpa [Reading.take, Reader.take, Reader.next, Partitions] using h
  | back =>
    rcases List.eq_nil_or_concat remaining with rfl | ⟨rest, row, rfl⟩
    · simpa [Reading.take, Reader.take, Reader.nextBack, Partitions] using h
    · simpa [Reading.take, Reader.take, Reader.nextBack, Partitions] using h

theorem take_of_nil (h : reading.reader.remaining = []) (side : End) :
    reading.take side = reading := by
  cases side with
  | front => simp [take, Reader.take_of_nil h]
  | back => simp [take, Reader.take_of_nil h]

end Reading

/-! ## Sessions -/

/-- A table and the readers that were made over time. -/
structure ReadSession where
  table : Table
  readings : List Reading

namespace ReadSession

inductive Call where
  /-- Makes a reader of the table. -/
  | make
  /-- Adds a row to the table, if it fits. -/
  | push (row : Row)
  /-- Takes a row from a reader. -/
  | take (index : Nat) (side : End)
  /-- Makes a copy of a reader. -/
  | copy (index : Nat)
deriving DecidableEq

namespace Call

def perform (past : ReadSession) : Call → ReadSession
  | make => { past with readings := past.readings ++ [.begin past.table] }
  | push row => { past with table := (past.table.push row).toOption.getD past.table }
  | take index side => { past with readings := past.readings.modify index (·.take side) }
  | copy index => { past with readings := past.readings ++ past.readings[index]?.toList }

variable {past : ReadSession} {reading : Reading} {index : Nat}

/-- A call leaves a reader alone unless it takes a row from it. -/
theorem getElem?_perform (h : past.readings[index]? = some reading) (call : Call) :
    (call.perform past).readings[index]? = some reading ∨
      ∃ side, call = take index side ∧
        (call.perform past).readings[index]? = some (reading.take side) := by
  have hlt : index < past.readings.length := (List.getElem?_eq_some_iff.mp h).1
  cases call with
  | make => exact .inl ((List.getElem?_append_left hlt).trans h)
  | push row => exact .inl h
  | copy other => exact .inl ((List.getElem?_append_left hlt).trans h)
  | take other side =>
    by_cases heq : other = index
    · subst heq
      exact .inr ⟨side, rfl, by simp [perform, h]⟩
    · exact .inl (by simp [perform, heq, h])

theorem partitions_perform (h : ∀ reading ∈ past.readings, reading.Partitions) (call : Call) :
    ∀ reading ∈ (call.perform past).readings, reading.Partitions := by
  intro reading hmem
  cases call with
  | make =>
    rcases List.mem_append.mp hmem with hold | hnew
    · exact h reading hold
    · obtain rfl := List.mem_singleton.mp hnew
      exact .begin past.table
  | push row => exact h reading hmem
  | copy index =>
    rcases List.mem_append.mp hmem with hold | hnew
    · exact h reading hold
    · exact h reading (List.mem_of_getElem? (Option.mem_toList.mp hnew))
  | take index side =>
    -- Membership does not tell which reader was taken from; its place does.
    obtain ⟨i, hi⟩ := List.mem_iff_getElem?.mp hmem
    rw [perform, List.getElem?_modify] at hi
    obtain ⟨old, hold, rfl⟩ := Option.map_eq_some_iff.mp hi
    have hpartitions := h old (List.mem_of_getElem? hold)
    split
    · exact hpartitions.take side
    · exact hpartitions

end Call

/-- Makes the calls one after the other. -/
def run (past : ReadSession) (calls : List Call) : ReadSession := calls.foldl Call.perform past

variable {past : ReadSession} {reading : Reading} {index : Nat}

theorem partitions_run (h : ∀ reading ∈ past.readings, reading.Partitions) (calls : List Call) :
    ∀ reading ∈ (past.run calls).readings, reading.Partitions := by
  induction calls generalizing past with
  | nil => exact h
  | cons call calls ih => exact ih (Call.partitions_perform h call)

/-- A reader that has no rows left is never changed again. -/
theorem run_of_nil (h : past.readings[index]? = some reading) (hnil : reading.reader.remaining = [])
    (calls : List Call) : (past.run calls).readings[index]? = some reading := by
  induction calls generalizing past with
  | nil => exact h
  | cons call calls ih =>
    refine ih ?_
    rcases Call.getElem?_perform h call with hsame | ⟨side, -, htaken⟩
    · exact hsame
    · rw [htaken, Reading.take_of_nil hnil]

/-- What a reader gives and tells, whatever was taken from it. -/
structure Faithful (reading : Reading) : Prop where
  /-- What was given from the front, what is left and what was given from the back, last first, are the
  rows that the table had when the reader was made. -/
  partitions : reading.front ++ reading.reader.remaining ++ reading.back.reverse = reading.whole
  /-- The rows that are left are what further calls at either end are answered with. -/
  answers : ∀ side count, reading.reader.answers side count =
    (List.range count).map fun i => (reading.reader.facing side)[i]?
  sizeHint : reading.reader.sizeHint =
    (reading.reader.remaining.length, some reading.reader.remaining.length)
  length : reading.reader.length = reading.reader.remaining.length
  /-- A scan over the reader from the back is one over the rows that are left, reversed. -/
  scan_back : ∀ (schema : Schema) (options : ScanOptions) (count : Nat), options.WellFormed schema →
    reading.reader.remaining.length ≤ count →
    ∃ stream : RowStream,
      (ScanBuilder.build ⟨schema, reading.reader.answers .back count, options⟩).result =
        .ok stream ∧
      Serves RowStream.ask stream (options.rows reading.reader.remaining.reverse)

/-- How the reader at a place stands to the other readers and to the table. -/
structure Independent (past : ReadSession) (index : Nat) (reading : Reading) : Prop where
  /-- Only taking a row from it changes a reader. -/
  undisturbed : ∀ call : Call, (∀ side, call ≠ .take index side) →
    (call.perform past).readings[index]? = some reading
  table : ∀ side, ((Call.take index side).perform past).table = past.table
  /-- A copy has given and has left what the original has. -/
  copied : ((Call.copy index).perform past).readings = past.readings ++ [reading]
  /-- A reader without rows has none for good. -/
  ended : reading.reader.remaining = [] → ∀ later,
    (past.run later).readings[index]? = some reading ∧
      ∀ side, (reading.reader.take side).1 = none

theorem faithful_of_partitions (h : reading.Partitions) : Faithful reading where
  partitions := h
  answers := reading.reader.answers_eq
  sizeHint := rfl
  length := rfl
  scan_back _ _ _ hvalid hcount := Reader.scan_serves hvalid hcount .back

theorem independent_of_getElem? (h : past.readings[index]? = some reading) :
    Independent past index reading where
  undisturbed call hcall := by
    rcases Call.getElem?_perform h call with hsame | ⟨side, hcalled, -⟩
    · exact hsame
    · exact absurd hcalled (hcall side)
  table _ := rfl
  copied := by
    rw [Call.perform, h]
    rfl
  ended hnil later := by
    refine ⟨run_of_nil h hnil later, fun side => ?_⟩
    rw [Reader.take_of_nil hnil]

/-- Whatever calls were made on a table and its readers, the rows of the table at the time a reader was
made are those it gave from the front, those it has left and those it gave from the back. Readers do not
disturb each other or the table, and a new one has the rows that the table has then. -/
theorem reads_partition (table : Table) (calls : List Call) :
    let past := run ⟨table, []⟩ calls
    (∀ reading ∈ past.readings, Faithful reading) ∧
      (∀ index reading, past.readings[index]? = some reading → Independent past index reading) ∧
      (Call.make.perform past).readings =
        past.readings ++ [⟨past.table.reader, past.table.rows, [], []⟩] := by
  intro past
  have hpartitions : ∀ reading ∈ past.readings, reading.Partitions :=
    partitions_run (List.forall_mem_nil _) calls
  refine ⟨fun reading hmem => ?_, fun index reading h => ?_, rfl⟩
  · exact faithful_of_partitions (hpartitions reading hmem)
  · exact independent_of_getElem? h

/-- A copy is made in the middle and meets its own end, while the original still has two rows. -/
theorem reads_partition_copied :
    let a : Row := ⟨"a", [.int32 1]⟩
    let b : Row := ⟨"b", [.null]⟩
    let c : Row := ⟨"c", [.int32 3]⟩
    let table : Table := ⟨⟨[⟨"size", .int32⟩]⟩, [a, b, c]⟩
    let past := run ⟨table, []⟩ [.make, .take 0 .front, .copy 0, .take 1 .back, .take 1 .front]
    let spent : Reading := ⟨⟨[]⟩, [a, b, c], [a, b], [c]⟩
    past.readings = [⟨⟨[b, c]⟩, [a, b, c], [a], []⟩, spent] ∧
      spent.front ++ spent.reader.remaining ++ spent.back.reverse = spent.whole ∧
      (past.run [.take 1 .front, .push b, .take 1 .back]).readings[1]? = some spent ∧
      ∃ stream : RowStream,
        (ScanBuilder.build ⟨table.schema, Reader.answers .back 2 ⟨[b, c]⟩, .unset⟩).result =
          .ok stream ∧
        Serves RowStream.ask stream (ScanOptions.unset.rows [c, b]) := by
  intro a b c table past spent
  have hwhole : past.readings = [⟨⟨[b, c]⟩, [a, b, c], [a], []⟩, spent] := rfl
  have hunset : ScanOptions.unset.WellFormed table.schema := ⟨⟨nofun, nofun, nofun⟩, nofun, nofun⟩
  obtain ⟨hreadings, hcalls, -⟩ := reads_partition table
    [.make, .take 0 .front, .copy 0, .take 1 .back, .take 1 .front]
  refine ⟨hwhole, ?_, ?_, ?_⟩
  · exact (hreadings spent (hwhole ▸ by simp)).partitions
  · exact ((hcalls 1 spent rfl).ended rfl _).1
  · exact (hreadings ⟨⟨[b, c]⟩, [a, b, c], [a], []⟩ (hwhole ▸ by simp)).scan_back table.schema .unset
      2 hunset (by decide)

end ReadSession

end TableScan
