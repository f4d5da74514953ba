import Mathlib
import DebugTables.Proofs.Dex.Execution

/-! What restarts bring back. A register remembers the last local started in it, also after that is
ended, so every restarted local is the last one that the events before it start in the register. -/

namespace DebugTables.Dex

/-- The local that an event starts in a register. -/
def Event.starts? (register : UInt32) : Event → Option Local
  | .startLocal other info _ => if other = register then some info else none
  | _ => none

/-- The last local that events start in a register, whether or not it is ended after that. -/
def lastStarted (register : UInt32) (events : List Event) : Option Local :=
  events.reverse.findSome? (·.starts? register)

/-- Every restart brings back the last local started in its register, or what the register
remembers from before. -/
def Recalls (started : Std.ExtTreeMap UInt32 Local) (events : List Event) : Prop :=
  ∀ before register found offset after,
    events = before ++ .restartLocal register found offset :: after →
      (lastStarted register before).or started[register]? = some found

theorem lastStarted_cons (register : UInt32) (event : Event) (events : List Event) :
    lastStarted register (event :: events) =
      (lastStarted register events).or (event.starts? register) := by
  rw [lastStarted, List.reverse_cons, List.findSome?_append, List.findSome?_singleton]
  rfl

theorem starts?_eq_some_iff {register : UInt32} {event : Event} {info : Local} :
    event.starts? register = some info ↔ ∃ offset, event = .startLocal register info offset := by
  refine ⟨?_, ?_⟩
  · intro starts
    cases event with
    | startLocal other given offset =>
      rw [Event.starts?] at starts
      split at starts
      · next same =>
        cases same
        cases starts
        exact ⟨offset, rfl⟩
      · cases starts
    | _ => cases starts
  · intro started
    rcases started with ⟨offset, same⟩
    rw [same, Event.starts?, if_pos rfl]

theorem started_remember (position : Position) (event : Event) (register : UInt32) :
    (position.remember (some event)).started[register]? =
      (event.starts? register).or position.started[register]? := by
  cases event with
  | startLocal other info offset =>
    rw [Position.remember, Std.ExtTreeMap.getElem?_insert, Event.starts?]
    by_cases same : other = register
    · simp [same]
    · simp [same]
  | _ => rfl

theorem recalls_cons_iff {position : Position} {event : Event} {rest : List Event} :
    Recalls position.started (event :: rest) ↔
      (∀ register found offset, event = .restartLocal register found offset →
        position.started[register]? = some found) ∧
      Recalls (position.remember (some event)).started rest := by
  have later (before : List Event) (register : UInt32) :
      (lastStarted register (event :: before)).or position.started[register]? =
        (lastStarted register before).or
          (position.remember (some event)).started[register]? := by
    rw [lastStarted_cons, started_remember, Option.or_assoc]
  refine ⟨?_, ?_⟩
  · intro recalls
    refine ⟨?_, ?_⟩
    · intro register found offset same
      exact recalls [] register found offset rest (congrArg (· :: rest) same)
    · intro before register found offset after same
      rw [← later]
      exact recalls (event :: before) register found offset after (congrArg (event :: ·) same)
  · intro both before register found offset after same
    cases before with
    | nil =>
      cases same
      exact both.1 register found offset rfl
    | cons first before =>
      cases same
      rw [later]
      exact both.2 before register found offset after rfl

/-- A restarted local is what the register remembers. -/
theorem started_of_emits {pools : Pools} {position : Position} {instruction : Instruction}
    {register offset : UInt32} {info : Local}
    (emits : Emits pools position instruction (some (.restartLocal register info offset))) :
    position.started[register]? = some info := by
  cases emits with
  | restartLocal remembered => exact remembered

theorem recalls_of_events {pools : Pools} {position : Position} {instructions : List Instruction}
    {events : List Event} (executed : Instruction.events pools position instructions = .ok events) :
    Recalls position.started events := by
  induction instructions generalizing position events with
  | nil =>
    cases executed
    intro before register found offset after same
    cases before <;> cases same
  | cons instruction rest ih =>
    rcases events_cons_iff.mp executed with ⟨next, event, others, advanced, emits, executed, same⟩
    have later := ih executed
    rw [same, ← (Position.advance_eq_ok_iff.mp advanced).2.2]
    cases event with
    | none => exact later
    | some event =>
      apply recalls_cons_iff.mpr ⟨_, later⟩
      intro register info offset same
      exact started_of_emits (same ▸ emits)

end DebugTables.Dex
