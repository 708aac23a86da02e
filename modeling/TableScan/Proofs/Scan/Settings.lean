import Mathlib.Data.List.Basic
import Mathlib.Data.List.Induction
import TableScan.Scan.Builder

/-!
How options come about. Every call that sets options writes some of their four fields and leaves the
others alone. So a field has what the last call that wrote it put there, and nothing else of the calls
before it can be told from the options.
-/

namespace TableScan

/-- The fields of scan options. -/
inductive OptionField where
  | start
  | stop
  | predicate
  | projection
deriving DecidableEq

/-- What stands in a field that is set. -/
def OptionField.Content : OptionField → Type
  | start | stop => Int
  | predicate => Predicate
  | projection => List Int

namespace ScanOptions

def get (options : ScanOptions) : (field : OptionField) → Option field.Content
  | .start => options.start
  | .stop => options.stop
  | .predicate => options.predicate
  | .projection => options.projection

theorem ext_get {a b : ScanOptions} (h : ∀ field, a.get field = b.get field) : a = b := by
  obtain ⟨start, stop, predicate, projection⟩ := a
  have hstart : start = b.start := h .start
  have hstop : stop = b.stop := h .stop
  have hpredicate : predicate = b.predicate := h .predicate
  have hprojection : projection = b.projection := h .projection
  rw [hstart, hstop, hpredicate, hprojection]

/-- What a call writes into each field, which may be that the field is open. A field that the call
leaves alone has no entry. -/
abbrev Writes := (field : OptionField) → Option (Option field.Content)

def overwrite (options : ScanOptions) (writes : Writes) : ScanOptions where
  start := (writes .start).getD options.start
  stop := (writes .stop).getD options.stop
  predicate := (writes .predicate).getD options.predicate
  projection := (writes .projection).getD options.projection

@[simp] theorem get_overwrite (options : ScanOptions) (writes : Writes) (field : OptionField) :
    (options.overwrite writes).get field = (writes field).getD (options.get field) := by
  cases field <;> rfl

@[simp] theorem get_unset (field : OptionField) : unset.get field = none := by
  cases field <;> rfl

/-- Two calls that write no field in common may change places. -/
theorem overwrite_comm {first second : Writes}
    (h : ∀ field, first field = none ∨ second field = none) (options : ScanOptions) :
    (options.overwrite first).overwrite second = (options.overwrite second).overwrite first := by
  apply ext_get
  intro field
  simp only [get_overwrite]
  rcases h field with hfirst | hsecond
  · rw [hfirst]
    rfl
  · rw [hsecond]
    rfl

section
variable {α : Type} (writes : α → Writes)

/-- What the last of the calls that write a field puts there. Without such a call the field is unset. -/
def lastWritten (calls : List α) (field : OptionField) : Option field.Content :=
  (calls.filterMap fun call => writes call field).getLast?.join

theorem lastWritten_concat (calls : List α) (last : α) (field : OptionField) :
    lastWritten writes (calls ++ [last]) field =
      (writes last field).getD (lastWritten writes calls field) := by
  cases h : writes last field <;> simp [lastWritten, h]

end

/-! ## Setting options -/

/-- The calls that set options. -/
inductive Setting where
  | rowsFrom (position : Int)
  | rowsTo (position : Int)
  | range (start stop : Option Int)
  | filter (predicate : Predicate)
  | project (columns : List Int)

namespace Setting

def apply (options : ScanOptions) : Setting → ScanOptions
  | rowsFrom position => options.rowsFrom position
  | rowsTo position => options.rowsTo position
  | range start stop => options.range start stop
  | filter predicate => options.filter predicate
  | project columns => options.project columns

def writes : Setting → Writes
  | rowsFrom position, .start => some (some position)
  | rowsTo position, .stop => some (some position)
  | range start _, .start => some start
  | range _ stop, .stop => some stop
  | filter predicate, .predicate => some (some predicate)
  | project columns, .projection => some (some columns)
  | _, _ => none

theorem apply_eq (options : ScanOptions) (setting : Setting) :
    setting.apply options = options.overwrite setting.writes := by
  cases setting <;> rfl

end Setting

/-- Makes the calls one after the other, on options of which none is set. -/
def ofSettings (settings : List Setting) : ScanOptions := settings.foldl Setting.apply unset

theorem ofSettings_concat (settings : List Setting) (last : Setting) :
    ofSettings (settings ++ [last]) = last.apply (ofSettings settings) :=
  List.foldl_concat ..

theorem get_ofSettings (settings : List Setting) (field : OptionField) :
    (ofSettings settings).get field = lastWritten Setting.writes settings field := by
  induction settings using List.reverseRecOn with
  | nil => exact get_unset field
  | append_singleton settings last ih =>
    rw [ofSettings_concat, Setting.apply_eq, get_overwrite, ih, lastWritten_concat]

end ScanOptions

/-! ## Setting a builder's options -/

namespace ScanBuilder

open ScanOptions (Setting Writes lastWritten ofSettings)

/-- The calls that configure a builder. Options that replace all others are themselves the outcome of
calls. -/
inductive Call where
  | rowsFrom (position : Int)
  | rowsTo (position : Int)
  | range (start stop : Int)
  | filter (predicate : Predicate)
  | project (columns : List Int)
  | withOptions (settings : List Setting)

namespace Call

def perform (builder : ScanBuilder) : Call → ScanBuilder
  | rowsFrom position => builder.rowsFrom position
  | rowsTo position => builder.rowsTo position
  | range start stop => builder.range start stop
  | filter predicate => builder.filter predicate
  | project columns => builder.project columns
  | withOptions settings => builder.withOptions (ofSettings settings)

/-- Options that replace all others write every field, those that they leave unset too. -/
def writes : Call → Writes
  | rowsFrom position, .start => some (some position)
  | rowsTo position, .stop => some (some position)
  | range start _, .start => some (some start)
  | range _ stop, .stop => some (some stop)
  | filter predicate, .predicate => some (some predicate)
  | project columns, .projection => some (some columns)
  | withOptions settings, field => some (lastWritten Setting.writes settings field)
  | _, _ => none

/-- The calls on options that come to the same as the calls on a builder so far and this one. -/
def settings (past : List Setting) : Call → List Setting
  | rowsFrom position => past ++ [.rowsFrom position]
  | rowsTo position => past ++ [.rowsTo position]
  | range start stop => past ++ [.range (some start) (some stop)]
  | filter predicate => past ++ [.filter predicate]
  | project columns => past ++ [.project columns]
  | withOptions settings => settings

/-- A call changes nothing but the options, and those as it writes them. -/
theorem perform_eq (builder : ScanBuilder) (call : Call) :
    call.perform builder = builder.withOptions (builder.options.overwrite call.writes) := by
  cases call with
  | withOptions settings =>
    -- All fields are written, so nothing of the builder's own options shows through.
    refine congrArg builder.withOptions (ScanOptions.ext_get fun field => ?_)
    rw [ScanOptions.get_ofSettings, ScanOptions.get_overwrite]
    cases field <;> rfl
  | rowsFrom _ | rowsTo _ | range _ _ | filter _ | project _ => rfl

theorem perform_settings (builder : ScanBuilder) (past : List Setting) (call : Call) :
    call.perform (builder.withOptions (ofSettings past)) =
      builder.withOptions (ofSettings (call.settings past)) := by
  cases call with
  | withOptions settings => rfl
  | rowsFrom _ | rowsTo _ | range _ _ | filter _ | project _ =>
    rw [settings, ScanOptions.ofSettings_concat]
    rfl

end Call

/-- Makes the calls one after the other, on a new builder. -/
def configured (schema : Schema) (source : Feed) (calls : List Call) : ScanBuilder :=
  calls.foldl Call.perform (.new schema source)

/-- The calls on options that correspond to calls on a builder. -/
def settings (calls : List Call) : List Setting := calls.foldl Call.settings []

variable {schema : Schema} {source : Feed} {calls others : List Call}

theorem configured_concat (last : Call) :
    configured schema source (calls ++ [last]) = last.perform (configured schema source calls) :=
  List.foldl_concat ..

theorem get_configured (schema : Schema) (source : Feed) (calls : List Call) (field : OptionField) :
    (configured schema source calls).options.get field = lastWritten Call.writes calls field := by
  induction calls using List.reverseRecOn with
  | nil => exact ScanOptions.get_unset field
  | append_singleton calls last ih =>
    rw [configured_concat, Call.perform_eq, ScanOptions.lastWritten_concat, ← ih]
    exact ScanOptions.get_overwrite ..

/-- A configured builder has the schema and the source that it began with, and options that calls on
options alone would have made. -/
theorem configured_eq (schema : Schema) (source : Feed) (calls : List Call) :
    configured schema source calls =
      (new schema source).withOptions (ofSettings (settings calls)) := by
  induction calls using List.reverseRecOn with
  | nil => rfl
  | append_singleton calls last ih =>
    rw [configured_concat, ih, Call.perform_settings, settings, settings, List.foldl_concat]

theorem configured_eq_of_lastWritten
    (h : ∀ field, lastWritten Call.writes calls field = lastWritten Call.writes others field) :
    configured schema source calls = configured schema source others := by
  have hoptions : (configured schema source calls).options =
      (configured schema source others).options := by
    apply ScanOptions.ext_get
    intro field
    rw [get_configured, get_configured, h]
  rw [configured_eq, configured_eq] at hoptions ⊢
  exact congrArg (new schema source).withOptions hoptions

/-- Each field of a builder's options has what the last call that writes it put there, and options that
are made by calls alone have too. Calls that come to the same in this sense lead to the same plan or the
same error, and to the same stream; two calls that write no field in common may change places; and any
calls come to the same as replacing all options by those that the corresponding calls on options make. -/
theorem last_write_wins (schema : Schema) (source : Feed) (calls : List Call) :
    let builder := configured schema source calls
    (∀ field, builder.options.get field = lastWritten Call.writes calls field) ∧
      (∀ settings field,
        (ofSettings settings).get field = lastWritten Setting.writes settings field) ∧
      (∀ others,
        (∀ field, lastWritten Call.writes calls field = lastWritten Call.writes others field) →
        builder.plan = (configured schema source others).plan ∧
          builder.build = (configured schema source others).build) ∧
      (∀ first second : Call, (∀ field, first.writes field = none ∨ second.writes field = none) →
        second.perform (first.perform builder) = first.perform (second.perform builder)) ∧
      builder = (new schema source).withOptions (ofSettings (settings calls)) := by
  intro builder
  refine ⟨get_configured schema source calls, ScanOptions.get_ofSettings, fun others h => ?_,
    fun first second h => ?_, configured_eq schema source calls⟩
  · have heq : builder = configured schema source others := configured_eq_of_lastWritten h
    exact ⟨congrArg plan heq, congrArg build heq⟩
  · simp only [Call.perform_eq, withOptions, ScanOptions.overwrite_comm h]

/-- Options that replace all others open an end that was set before, and what they set counts as well
as a call that sets it alone. -/
theorem last_write_wins_replaced :
    let schema : Schema := ⟨[⟨"size", .int32⟩, ⟨"label", .utf8⟩]⟩
    let small : Predicate := .comparison ⟨0, .int32⟩ .lt (.int32 6)
    let large : Predicate := .comparison ⟨0, .int32⟩ .gt (.int32 6)
    let calls : List Call := [.range 3 8, .filter small, .project [0],
      .withOptions [.rowsTo 9, .range (some 1) none, .filter large], .project [1, 0]]
    let others : List Call := [.withOptions [.project [1, 0], .filter large], .rowsFrom 1]
    let builder := configured schema [] calls
    builder.options.get .stop = none ∧
      builder.plan = (configured schema [] others).plan ∧
      (builder.rowsTo 2).filter small = (builder.filter small).rowsTo 2 ∧
      builder = (new schema []).withOptions
        (ofSettings [.rowsTo 9, .range (some 1) none, .filter large, .project [1, 0]]) := by
  intro schema small large calls others builder
  obtain ⟨hget, -, hsame, hcomm, hsettings⟩ := last_write_wins schema [] calls
  refine ⟨hget .stop, ?_, ?_, hsettings⟩
  · refine (hsame others fun field => ?_).1
    cases field <;> rfl
  · refine hcomm (.rowsTo 2) (.filter small) fun field => ?_
    cases field <;> decide

end ScanBuilder

end TableScan
