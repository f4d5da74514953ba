import Mathlib
import DebugTables.Dex.Locals

/-! Events, seen from one register. What a register holds after an event depends only on what it
held before, so one register can be followed alone, whatever happens in the others. -/

namespace DebugTables.Dex

namespace Event

/-- The register of an event about a local. -/
def register? : Event → Option UInt32
  | .startLocal register _ _ => some register
  | .restartLocal register _ _ => some register
  | .endLocal register _ => some register
  | _ => none

/-- The register whose occupant an event gives up or replaces. -/
def frees? : Event → Option UInt32
  | .startLocal register _ _ => some register
  | .endLocal register _ => some register
  | _ => none

/-- The register that a local comes into. -/
def enters? : Event → Option UInt32
  | .startLocal register _ _ => some register
  | .restartLocal register _ _ => some register
  | _ => none

theorem register?_of_frees {event : Event} {register : UInt32}
    (frees : event.frees? = some register) : event.register? = some register := by
  cases event with
  | startLocal other info offset => exact frees
  | endLocal other offset => exact frees
  | _ => cases frees

end Event

/-- What a register holds after an event. -/
def heldAfter (register : UInt32) (held : Option Occupant) : Event → Option Occupant
  | .startLocal other info offset =>
    if other = register then some ⟨offset, info.name, info.descriptor⟩ else held
  | .restartLocal other info offset =>
    if other = register then held.or (some ⟨offset, info.name, info.descriptor⟩) else held
  | .endLocal other _ => if other = register then none else held
  | _ => held

/-- What a register holds after exactly the events up to an offset, in their order. -/
def heldAt (register offset : UInt32) (held : Option Occupant) (events : List Event) :
    Option Occupant :=
  (events.filter (·.offset ≤ offset)).foldl (heldAfter register) held

variable {register offset : UInt32} {held : Option Occupant}

theorem heldAfter_other {event : Event} (other : event.register? ≠ some register) :
    heldAfter register held event = held := by
  cases event with
  | startLocal slot info offset => exact if_neg fun same => other (congrArg some same)
  | restartLocal slot info offset => exact if_neg fun same => other (congrArg some same)
  | endLocal slot offset => exact if_neg fun same => other (congrArg some same)
  | _ => rfl

/-- All that an event can do in a register: it leaves it as it is, a local comes into it there, or
its local is ended. A local that comes into a register that is not freed finds it empty. -/
theorem heldAfter_cases (register : UInt32) (held : Option Occupant) (event : Event) :
    event.frees? ≠ some register ∧ heldAfter register held event = held ∨
    event.enters? = some register ∧ (event.frees? = some register ∨ held = none) ∧
      (∃ occupant, occupant.start = event.offset ∧
        heldAfter register held event = some occupant) ∨
    event = .endLocal register event.offset ∧ heldAfter register held event = none := by
  by_cases own : event.register? = some register
  · cases event with
    | startLocal slot info offset =>
      cases own
      exact Or.inr (Or.inl ⟨rfl, Or.inl rfl, _, rfl, if_pos rfl⟩)
    | restartLocal slot info offset =>
      cases own
      cases held with
      | none => exact Or.inr (Or.inl ⟨rfl, Or.inr rfl, _, rfl, if_pos rfl⟩)
      | some occupant => exact Or.inl ⟨nofun, if_pos rfl⟩
    | endLocal slot offset =>
      cases own
      exact Or.inr (Or.inr ⟨rfl, if_pos rfl⟩)
    | _ => cases own
  · exact Or.inl ⟨fun frees => own (Event.register?_of_frees frees), heldAfter_other own⟩

theorem getElem?_next (live : Live) (event : Event) :
    (live.next event)[register]? = heldAfter register live[register]? event := by
  cases event with
  | startLocal other info start =>
    rw [Live.next, Std.ExtTreeMap.getElem?_insert]
    simp [heldAfter]
  | restartLocal other info start =>
    rw [Live.next]
    by_cases same : other = register
    · subst same
      by_cases present : other ∈ live
      · rcases Option.isSome_iff_exists.mp (Std.ExtTreeMap.mem_iff_isSome_getElem?.mp present) with
          ⟨occupant, found⟩
        rw [if_pos present, found]
        simp [heldAfter]
      · have absent := Std.ExtTreeMap.getElem?_eq_none present
        rw [if_neg present, absent, Std.ExtTreeMap.getElem?_insert_self]
        simp [heldAfter]
    · split
      · simp [heldAfter, same]
      · rw [Std.ExtTreeMap.getElem?_insert]
        simp [heldAfter, same]
  | endLocal other stop =>
    rw [Live.next, Std.ExtTreeMap.getElem?_erase]
    simp [heldAfter]
  | lineNumber line start => rfl
  | prologueEnd start => rfl
  | epilogueBegin start => rfl
  | setSourceFile name start => rfl

/-- What a register holds was there before, or the event brought it in. -/
theorem start_of_heldAfter {event : Event} {occupant : Occupant}
    (holds : occupant ∈ heldAfter register held event) : occupant ∈ held ∨
      event.enters? = some register ∧ occupant.start = event.offset := by
  rcases heldAfter_cases register held event with ⟨-, kept⟩ | ⟨enters, -, entered⟩ | ⟨-, empty⟩
  · rw [kept] at holds
    exact Or.inl holds
  · obtain ⟨other, start, entered⟩ := entered
    rw [entered] at holds
    cases holds
    exact Or.inr ⟨enters, start⟩
  · rw [empty] at holds
    cases holds

theorem getElem?_after (live : Live) (events : List Event) (register : UInt32) :
    (live.after events)[register]? = events.foldl (heldAfter register) live[register]? := by
  induction events generalizing live with
  | nil => rfl
  | cons event rest ih =>
    rw [List.foldl_cons, ← getElem?_next]
    exact ih (live.next event)

/-- What a register holds after events was there before, or one of them brought it in. -/
theorem start_of_foldl {events : List Event} {occupant : Occupant}
    (holds : occupant ∈ events.foldl (heldAfter register) held) :
    occupant ∈ held ∨ ∃ event ∈ events, occupant.start = event.offset := by
  induction events generalizing held with
  | nil => exact Or.inl holds
  | cons event rest ih =>
    rcases ih holds with before | ⟨other, member, start⟩
    · rcases start_of_heldAfter before with before | ⟨-, start⟩
      · exact Or.inl before
      · exact Or.inr ⟨event, List.mem_cons_self .., start⟩
    · exact Or.inr ⟨other, List.mem_cons_of_mem _ member, start⟩

/-- What a register holds stays there where an event does not free it. -/
theorem mem_heldAfter {event : Event} {occupant : Occupant} (keeps : event.frees? ≠ some register)
    (holds : occupant ∈ held) : occupant ∈ heldAfter register held event := by
  rcases heldAfter_cases register held event with ⟨-, kept⟩ | ⟨-, free, -⟩ | ⟨ended, -⟩
  · rw [kept]
    exact holds
  · rcases free with frees | empty
    · exact absurd frees keeps
    · rw [empty] at holds
      cases holds
  · rw [ended] at keeps
    exact absurd rfl keeps

theorem heldAt_cons_reached {event : Event} (reached : event.offset ≤ offset)
    (held : Option Occupant) (rest : List Event) : heldAt register offset held (event :: rest) =
      heldAt register offset (heldAfter register held event) rest := by
  simp [heldAt, reached]

theorem heldAt_later {events : List Event} (later : ∀ event ∈ events, offset < event.offset)
    (held : Option Occupant) : heldAt register offset held events = held := by
  have none : events.filter (·.offset ≤ offset) = [] := by
    rw [List.filter_eq_nil_iff]
    intro event member
    rw [decide_eq_true_eq]
    exact UInt32.not_le.mpr (later event member)
  rw [heldAt, none]
  rfl

end DebugTables.Dex
