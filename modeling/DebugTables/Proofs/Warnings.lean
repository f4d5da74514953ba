import Mathlib
import DebugTables.ClassFile
import DebugTables.Dex.Class

/-! Which computations leave warnings. To read a source map and to extract a method only leave
records for those who look for details, so the warnings of a batch are its own, apart from what
other readers of attributes may leave. -/

namespace DebugTables

namespace Logged

variable {α β : Type}

def warnings (logged : Logged α) : List Record := visible .warn logged.records

@[simp] theorem warnings_pure (a : α) : (pure a : Logged α).warnings = [] := rfl

@[simp] theorem warnings_bind (first : Logged α) (next : α → Logged β) :
    (first >>= next).warnings = first.warnings ++ (next first.value).warnings :=
  List.filter_append _ _

@[simp] theorem warnings_map (f : α → β) (first : Logged α) :
    (f <$> first).warnings = first.warnings := by
  rw [warnings, records_map]
  rfl

@[simp] theorem warnings_emit (level : Level) (text : String) :
    (emit level text).warnings = if level = .warn then [⟨level, text⟩] else [] := by
  cases level <;> rfl

theorem visible_warn_eq_nil_iff {records : List Record} :
    visible .warn records = [] ↔ ∀ record ∈ records, record.level ≠ .warn := by
  have visible_iff (level : Level) : level.rank ≤ Level.warn.rank ↔ level = .warn := by
    cases level <;> decide
  simp only [visible, visible_iff, List.filter_eq_nil_iff, decide_eq_true_eq, Ne]

end Logged

open Logged

namespace Attempt

variable {ε δ α β : Type} {first : Attempt ε α}

/-- No warning is among the records, whether the attempt fails or not. -/
def Silent (attempt : Attempt ε α) : Prop := attempt.outcome.warnings = []

theorem silent_trace (text : String) : (emit .trace text : Attempt ε Unit).Silent := rfl

theorem Silent.bind {next : α → Attempt ε β} (silent : first.Silent)
    (silentNext : ∀ a, (next a).Silent) : (first >>= next).Silent := by
  rw [Silent, outcome_bind, warnings_bind, silent]
  cases first.outcome.value with
  | ok a => exact silentNext a
  | error fault => rfl

theorem Silent.map (silent : first.Silent) (f : α → β) : (f <$> first).Silent := by
  rw [Silent, outcome_map, warnings_map]
  exact silent

theorem Silent.mapError (silent : first.Silent) (change : ε → δ) :
    (first.mapError change).Silent := by
  rw [Silent, outcome_mapError, warnings_map]
  exact silent

end Attempt

open Attempt

theorem SourceMap.silent_read (payload : Bytes) : (read payload).Silent := by
  unfold read
  cases readDraft payload with
  | error fault => rfl
  | ok draft =>
    apply visible_warn_eq_nil_iff.mpr
    intro record member
    rcases List.mem_append.mp member with stratum | whole
    · obtain ⟨named, -, rfl⟩ := List.mem_map.mp stratum
      exact nofun
    · split at whole
      · cases whole
      · cases List.mem_singleton.mp whole
        exact nofun

namespace ClassFile

variable {options : Options} {readers : Readers}

def Readers.Silent (readers : Readers) : Prop :=
  ∀ name, ∀ reader ∈ readers.reader? name, ∀ bytes, (reader bytes).Silent

theorem Readers.silent_empty : empty.Silent := by
  intro name reader known
  cases known

theorem Readers.silent_register {reader : Reader} (silent : readers.Silent) (name : String)
    (silentReader : ∀ bytes, (reader bytes).Silent) : (readers.register name reader).Silent := by
  intro other found known bytes
  rw [reader?_register] at known
  split at known
  · cases known
    exact silentReader bytes
  · exact silent other found known bytes

theorem Readers.silent_standard : standard.Silent :=
  silent_register silent_empty sourceDebugExtension SourceMap.silent_read

theorem silent_read (silent : readers.Silent) (raw : Attribute) : (readers.read raw).Silent := by
  unfold Readers.read
  cases known : readers.reader? raw.name with
  | none => exact (silent_trace _).bind fun _ => rfl
  | some reader => exact (silent raw.name reader known raw.info).bind fun _ => rfl

theorem silent_sourceMap (silent : readers.Silent) (owner : String) (found : Option SourceMap)
    (attributes : List Attribute) : (sourceMap readers owner found attributes).Silent := by
  induction attributes generalizing found with
  | nil => rfl
  | cons raw rest ih =>
    apply ((silent_read silent raw).mapError _).bind
    intro decoded
    cases decoded with
    | none => exact ih found
    | some map =>
      cases found with
      | none => exact ih (some map)
      | some first => exact (silent_trace _).bind fun _ => ih (some first)

theorem silent_extract (silent : readers.Silent) (file : ClassFile) :
    (file.extract options readers).Silent := by
  have silentInfo : (file.info readers).Silent :=
    (silent_sourceMap silent file.name none file.attributes).bind fun _ => rfl
  unfold extract
  split
  · exact (silent_trace _).bind fun _ => rfl
  · exact silentInfo.bind fun _ => rfl

end ClassFile

namespace Dex

theorem silent_info (definition : ClassDef) : definition.info.Silent := by
  unfold ClassDef.info
  split
  · rfl
  · exact ((SourceMap.silent_read _).mapError _).bind fun _ => rfl

theorem silent_readLocals (frame : Frame) (events : List Event) :
    (frame.readLocals events).Silent := by
  change visible .warn frame.localsRecords = []
  unfold Frame.localsRecords
  cases frame.arrivals? <;> rfl

theorem silent_extract (method : MethodDef) (owner : ClassInfo) (type : String) :
    (method.extract owner type).Silent := by
  unfold MethodDef.extract
  split
  · rfl
  · split
    · exact (silent_trace _).bind fun _ => rfl
    · exact ((silent_readLocals _ _).mapError _).bind fun _ => rfl

end Dex

end DebugTables
