/-! Values that come with a record of what happened on the way. A record has a level, and a reader
who asks for one level also sees every more severe one. -/

namespace DebugTables

/-- How much a record matters, most severe first. -/
inductive Level where
  | warn
  | info
  | debug
  | trace
  deriving DecidableEq, Repr

namespace Level

/-- Smaller is more severe. -/
def rank : Level → Nat
  | .warn => 0
  | .info => 1
  | .debug => 2
  | .trace => 3

def label : Level → String
  | .warn => "WARN"
  | .info => "INFO"
  | .debug => "DEBUG"
  | .trace => "TRACE"

end Level

structure Record where
  level : Level
  text : String
  deriving DecidableEq, Repr

/-- A value with the records made while it was computed, oldest first. -/
structure Logged (α : Type) where
  value : α
  records : List Record

namespace Logged

instance : Monad Logged where
  pure value := ⟨value, []⟩
  bind first next :=
    let second := next first.value
    ⟨second.value, first.records ++ second.records⟩

/-- Adds one record. -/
def emit (level : Level) (text : String) : Logged Unit := ⟨(), [⟨level, text⟩]⟩

/-- The records that a reader at `level` sees. -/
def visible (level : Level) (records : List Record) : List Record :=
  records.filter (·.level.rank ≤ level.rank)

@[simp] theorem value_pure {α : Type} (a : α) : (pure a : Logged α).value = a := rfl

@[simp] theorem records_pure {α : Type} (a : α) : (pure a : Logged α).records = [] := rfl

@[simp] theorem value_bind {α β : Type} (first : Logged α) (next : α → Logged β) :
    (first >>= next).value = (next first.value).value := rfl

@[simp] theorem records_bind {α β : Type} (first : Logged α) (next : α → Logged β) :
    (first >>= next).records = first.records ++ (next first.value).records := rfl

@[simp] theorem value_map {α β : Type} (f : α → β) (first : Logged α) :
    (f <$> first).value = f first.value := rfl

@[simp] theorem records_map {α β : Type} (f : α → β) (first : Logged α) :
    (f <$> first).records = first.records := List.append_nil _

@[simp] theorem records_emit (level : Level) (text : String) :
    (emit level text).records = [⟨level, text⟩] := rfl

instance : LawfulMonad Logged := LawfulMonad.mk' _
  (fun first => by simp [Functor.map])
  (fun a next => by simp [bind])
  (fun first next last => by simp [bind])

end Logged

/-- A computation that may fail and keeps its records either way. -/
abbrev Attempt (ε α : Type) := ExceptT ε Logged α

namespace Attempt

/-- Adds one record. -/
def emit {ε : Type} (level : Level) (text : String) : Attempt ε Unit :=
  ExceptT.lift (Logged.emit level text)

/-- Changes the error and keeps value and records. -/
def mapError {ε δ α : Type} (change : ε → δ) (attempt : Attempt ε α) : Attempt δ α :=
  ExceptT.adapt change attempt

/-- The result, failed or not, with its records. -/
def outcome {ε α : Type} (attempt : Attempt ε α) : Logged (Except ε α) := attempt.run

theorem outcome_emit {ε : Type} (level : Level) (text : String) :
    (emit level text : Attempt ε Unit).outcome = Except.ok <$> Logged.emit level text := rfl

theorem outcome_bind {ε α β : Type} (first : Attempt ε α) (next : α → Attempt ε β) :
    (first >>= next).outcome = (do
      match ← first.outcome with
      | .ok a => (next a).outcome
      | .error fault => return .error fault) := rfl

theorem outcome_mapError {ε δ α : Type} (change : ε → δ) (attempt : Attempt ε α) :
    (attempt.mapError change).outcome = Except.mapError change <$> attempt.outcome := rfl

theorem outcome_map {ε α β : Type} (f : α → β) (attempt : Attempt ε α) :
    (f <$> attempt).outcome = Except.map f <$> attempt.outcome := by
  rw [← bind_pure_comp, outcome_bind, ← bind_pure_comp]
  apply bind_congr
  intro result
  cases result <;> rfl

theorem value_outcome_bind {ε α β : Type} (first : Attempt ε α) (next : α → Attempt ε β) :
    (first >>= next).outcome.value = (do (next (← first.outcome.value)).outcome.value) := by
  rw [outcome_bind, Logged.value_bind]
  cases first.outcome.value <;> rfl

theorem value_outcome_mapError {ε δ α : Type} (change : ε → δ) (attempt : Attempt ε α) :
    (attempt.mapError change).outcome.value = attempt.outcome.value.mapError change := rfl

end Attempt

end DebugTables
