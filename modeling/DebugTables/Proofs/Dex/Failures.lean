import Mathlib
import DebugTables.Proofs.Dex.Closing

/-! Why a reconstruction fails. An event fails because it does not fit into the frame, because it
ends nothing, or because it ends a range before its start, and a run fails with the first event that
fails where the events before it have led. -/

namespace DebugTables.Dex

variable {live : Live} {count register : UInt32} {held : Option Occupant} {event : Event}
  {events : List Event} {fault : ReconstructionError}

theorem inFrame_eq_error_iff : Live.inFrame count register = .error fault ↔
    count ≤ register ∧ fault = .registerOutOfRange register count := by
  unfold Live.inFrame
  split
  · next inside => simp [UInt32.not_le.mpr inside]
  · next outside => simp [UInt32.not_lt.mp outside, eq_comm]

theorem place_eq_error_iff : event.place count = .error fault ↔
    (∃ register, event.register? = some register ∧ count ≤ register ∧
      fault = .registerOutOfRange register count) ∨
    ∃ name offset, event = .setSourceFile name offset ∧
      fault = .unsupportedEvent event.kind offset := by
  cases event with
  | setSourceFile name offset => simp [Event.place, Event.register?, eq_comm]
  | startLocal | restartLocal | endLocal =>
    simp [Event.place, Event.register?, inFrame_eq_error_iff]
  | _ => simp [Event.place, Event.register?]

theorem close_eq_error_iff {occupant : Occupant} {stop : UInt32} :
    occupant.close register stop = .error fault ↔
      stop < occupant.start ∧ fault = .negativeRange register occupant.start stop := by
  unfold Occupant.close
  split
  · next backward => simp [backward, eq_comm]
  · next forward => simp [forward]

theorem closeHeld_eq_error_iff {stop : UInt32} : closeHeld register stop held = .error fault ↔
    ∃ occupant, held = some occupant ∧ stop < occupant.start ∧
      fault = .negativeRange register occupant.start stop := by
  cases held with
  | none => simp [closeHeld]
  | some occupant =>
    rw [closeHeld, Reading.bind_eq_error_iff, close_eq_error_iff]
    simp [pure, Except.pure]

/-- What can be wrong with an event that fits into the frame. -/
theorem closedBy_eq_error_iff : closedBy held event = .error fault ↔
    (∃ register, event = .endLocal register event.offset ∧ held = none ∧
      fault = .undefinedRegister register event.offset) ∨
    ∃ register occupant, event.frees? = some register ∧ held = some occupant ∧
      event.offset < occupant.start ∧
      fault = .negativeRange register occupant.start event.offset := by
  cases event with
  | startLocal register info offset =>
    simp [closedBy, Event.frees?, Event.offset, closeHeld_eq_error_iff]
  | endLocal register offset =>
    cases held with
    | none => simp [closedBy, Event.frees?, Event.offset, eq_comm]
    | some occupant => simp [closedBy, Event.frees?, Event.offset, closeHeld_eq_error_iff]
  | _ => simp [closedBy, Event.frees?]

/-- All that can be wrong with an event. -/
theorem closing_eq_error_iff : live.closing count event = .error fault ↔
    event.place count = .error fault ∨ event.Placed count ∧
      ((∃ register, event = .endLocal register event.offset ∧ live[register]? = none ∧
        fault = .undefinedRegister register event.offset) ∨
      ∃ register occupant, event.frees? = some register ∧ live[register]? = some occupant ∧
        event.offset < occupant.start ∧
        fault = .negativeRange register occupant.start event.offset) := by
  rw [closing_eq, Reading.bind_eq_error_iff, ← place_eq_ok_iff, closedBy_eq_error_iff]
  refine or_congr_right (Unique.exists_iff.trans (and_congr_right fun _ => or_congr ?_ ?_))
  · refine exists_congr fun register => and_congr_right fun ends => ?_
    have own : event.register? = some register := ends ▸ rfl
    rw [heldBy_of_register own]
  · refine exists_congr fun register => exists_congr fun occupant => and_congr_right fun frees => ?_
    rw [heldBy_of_register (Event.register?_of_frees frees)]

theorem closings_cons_eq_error_iff {rest : List Event} :
    live.closings count (event :: rest) = .error fault ↔
      live.closing count event = .error fault ∨
        (∃ closed, live.closing count event = .ok closed) ∧
          (live.next event).closings count rest = .error fault :=
  append_eq_error_iff

/-- A run fails with the first of its events that fails where the events before it have led. -/
theorem closings_eq_error_iff : live.closings count events = .error fault ↔
    ∃ before event after, events = before ++ event :: after ∧
      (∃ closed, live.closings count before = .ok closed) ∧
      (live.after before).closing count event = .error fault := by
  induction events generalizing live with
  | nil => simp [Live.closings]
  | cons event rest ih =>
    rw [closings_cons_eq_error_iff, ih]
    constructor
    · rintro (here | ⟨⟨first, closing⟩, before, other, after, rfl, ⟨others, closings⟩, failed⟩)
      · exact ⟨[], event, rest, rfl, ⟨[], rfl⟩, here⟩
      · have reached := closings_cons_iff.mpr ⟨first, others, closing, closings, rfl⟩
        exact ⟨event :: before, other, after, rfl, ⟨_, reached⟩, failed⟩
    · rintro ⟨_ | ⟨earlier, before⟩, other, after, split, ⟨closed, reached⟩, failed⟩
      · obtain ⟨rfl, rfl⟩ := List.cons.inj split
        exact Or.inl failed
      · obtain ⟨rfl, rfl⟩ := List.cons.inj split
        obtain ⟨first, others, closing, closings, -⟩ := closings_cons_iff.mp reached
        exact Or.inr ⟨⟨first, closing⟩, before, other, after, rfl, ⟨others, closings⟩, failed⟩

theorem exists_closing_of_closings {closed : List LocalVariable}
    (ok : live.closings count events = .ok closed) {before after : List Event}
    (split : events = before ++ event :: after) :
    ∃ first, (live.after before).closing count event = .ok first := by
  induction before generalizing live events closed with
  | nil =>
    rw [split] at ok
    obtain ⟨first, others, closing, -, -⟩ := closings_cons_iff.mp ok
    exact ⟨first, closing⟩
  | cons earlier before ih =>
    rw [split] at ok
    obtain ⟨first, others, -, closings, -⟩ := closings_cons_iff.mp ok
    exact ih closings rfl

/-- A run succeeds exactly if none of its events fails. -/
theorem exists_closings_iff : (∃ closed, live.closings count events = .ok closed) ↔
    ∀ before event after, events = before ++ event :: after →
      ∀ fault, (live.after before).closing count event ≠ .error fault := by
  constructor
  · rintro ⟨closed, ok⟩ before event after split fault failed
    obtain ⟨first, closing⟩ := exists_closing_of_closings ok split
    rw [failed] at closing
    cases closing
  · intro succeeds
    cases found : live.closings count events with
    | ok closed => exact ⟨closed, rfl⟩
    | error fault =>
      obtain ⟨before, event, after, split, -, failed⟩ := closings_eq_error_iff.mp found
      exact absurd failed (succeeds before event after split fault)

end DebugTables.Dex
