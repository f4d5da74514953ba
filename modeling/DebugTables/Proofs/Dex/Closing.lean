import Mathlib
import DebugTables.Proofs.Dex.Registers
import DebugTables.Proofs.Results

/-! What an event needs and what it closes. An event has to fit into the frame, and beyond that both
depend only on what its own register holds. -/

namespace DebugTables

/-- The variable lives in the register where the code has got to the offset. -/
def LocalVariable.LivesAt (entry : LocalVariable) (register offset : UInt32) : Prop :=
  entry.slot = register ∧ entry.start ≤ offset ∧ offset.toNat < entry.stop

instance (entry : LocalVariable) (register offset : UInt32) :
    Decidable (entry.LivesAt register offset) :=
  inferInstanceAs (Decidable (_ ∧ _ ∧ _))

namespace Dex

/-- The frame has the register of a local event, and no event changes the source file. -/
structure Event.Placed (count : UInt32) (event : Event) : Prop where
  supported : ∀ name offset, event ≠ .setSourceFile name offset
  inside : ∀ register ∈ event.register?, register < count

def Event.place (count : UInt32) : Event → Except ReconstructionError Unit
  | .startLocal register _ _ => Live.inFrame count register
  | .restartLocal register _ _ => Live.inFrame count register
  | .endLocal register _ => Live.inFrame count register
  | .setSourceFile name offset =>
    .error (.unsupportedEvent (Event.setSourceFile name offset).kind offset)
  | _ => .ok ()

/-- The range of what a register holds, if it holds something. -/
def closeHeld (register stop : UInt32) : Option Occupant →
    Except ReconstructionError (List LocalVariable)
  | none => .ok []
  | some occupant => do return [← occupant.close register stop]

/-- The range that an event closes in its register, where `held` is what the register holds. -/
def closedBy (held : Option Occupant) : Event → Except ReconstructionError (List LocalVariable)
  | .startLocal register _ offset => closeHeld register offset held
  | .endLocal register offset =>
    match held with
    | none => .error (.undefinedRegister register offset)
    | some occupant => closeHeld register offset (some occupant)
  | _ => .ok []

/-- What the register of an event holds. -/
def Live.heldBy (live : Live) (event : Event) : Option Occupant :=
  event.register?.bind (live[·]?)

theorem heldBy_of_register {live : Live} {event : Event} {register : UInt32}
    (own : event.register? = some register) : live.heldBy event = live[register]? := by
  rw [Live.heldBy, own]
  rfl

theorem close_eq_ok {occupant : Occupant} {slot stop : UInt32} {entry : LocalVariable}
    (closed : occupant.close slot stop = .ok entry) : occupant.start ≤ stop ∧ entry =
      ⟨occupant.start, stop - occupant.start, occupant.name, occupant.descriptor, slot⟩ := by
  unfold Occupant.close at closed
  split at closed
  · cases closed
  · next forward =>
    cases closed
    exact ⟨UInt32.not_lt.mp forward, rfl⟩

theorem exists_close_iff {occupant : Occupant} {register stop : UInt32} :
    (∃ entry, occupant.close register stop = .ok entry) ↔ occupant.start ≤ stop := by
  constructor
  · rintro ⟨entry, closed⟩
    exact (close_eq_ok closed).1
  · intro forward
    exact ⟨_, if_neg (UInt32.not_lt.mpr forward)⟩

theorem stop_of_close {register stop : UInt32} {occupant : Occupant} {entry : LocalVariable}
    (closed : occupant.close register stop = .ok entry) : entry.stop = stop.toNat := by
  obtain ⟨forward, rfl⟩ := close_eq_ok closed
  rw [LocalVariable.stop, UInt32.toNat_sub_of_le _ _ forward]
  exact Nat.add_sub_cancel' (UInt32.le_iff_toNat_le.mp forward)

/-- A closed range lives from the start of its occupant up to its stop, in its own register. -/
theorem livesAt_close {register offset : UInt32} {occupant : Occupant} {slot stop : UInt32}
    {entry : LocalVariable} (closed : occupant.close slot stop = .ok entry) :
    entry.LivesAt register offset ↔
      slot = register ∧ occupant.start ≤ offset ∧ offset < stop := by
  have ends := stop_of_close closed
  obtain ⟨-, rfl⟩ := close_eq_ok closed
  rw [LocalVariable.LivesAt, ends, UInt32.lt_iff_toNat_lt]

theorem closeHeld_some_iff {register stop : UInt32} {occupant : Occupant}
    {entries : List LocalVariable} : closeHeld register stop (some occupant) = .ok entries ↔
      ∃ entry, occupant.close register stop = .ok entry ∧ entries = [entry] := by
  rw [closeHeld, Reading.bind_eq_ok_iff]
  constructor
  · intro ok
    obtain ⟨entry, closed, same⟩ := ok
    cases same
    exact ⟨entry, closed, rfl⟩
  · intro parts
    obtain ⟨entry, closed, rfl⟩ := parts
    exact ⟨entry, closed, rfl⟩

theorem place_eq_ok_iff {count : UInt32} {event : Event} :
    event.place count = .ok () ↔ event.Placed count := by
  have inFrame_eq_ok_iff (register : UInt32) :
      Live.inFrame count register = .ok () ↔ register < count := by
    unfold Live.inFrame
    split <;> simp [*]
  have placed_iff : event.Placed count ↔ (∀ name offset, event ≠ .setSourceFile name offset) ∧
      ∀ register ∈ event.register?, register < count :=
    ⟨fun placed => ⟨placed.supported, placed.inside⟩, fun parts => ⟨parts.1, parts.2⟩⟩
  rw [placed_iff]
  cases event <;> simp [Event.place, Event.register?, inFrame_eq_ok_iff]

theorem closing_eq (live : Live) (count : UInt32) (event : Event) :
    live.closing count event = (do event.place count; closedBy (live.heldBy event) event) := by
  cases event with
  | startLocal register info offset =>
    rw [Live.closing, Event.place, Live.heldBy]
    rfl
  | restartLocal register info offset => rfl
  | endLocal register offset => rfl
  | lineNumber line offset => rfl
  | prologueEnd offset => rfl
  | epilogueBegin offset => rfl
  | setSourceFile name offset => rfl

theorem closing_eq_ok_iff {live : Live} {count : UInt32} {event : Event}
    {closed : List LocalVariable} : live.closing count event = .ok closed ↔
      event.Placed count ∧ closedBy (live.heldBy event) event = .ok closed := by
  rw [closing_eq, Reading.bind_eq_ok_iff, ← place_eq_ok_iff]
  exact ⟨fun parts => parts.choose_spec, fun parts => ⟨(), parts⟩⟩

theorem closings_cons_iff {live : Live} {count : UInt32} {event : Event} {rest : List Event}
    {closed : List LocalVariable} : live.closings count (event :: rest) = .ok closed ↔
      ∃ first others, live.closing count event = .ok first ∧
        (live.next event).closings count rest = .ok others ∧ closed = first ++ others :=
  append_eq_ok_iff

/-- With named arrivals that fit, the variables are those closed by events and then those closed at
the end of the code. -/
theorem locals_eq_ok_iff {frame : Frame} {arrivals : List Arrival} {events : List Event}
    {entries : List LocalVariable} (known : frame.arrivals? = some arrivals) :
    frame.locals events = .ok entries ↔ frame.insSize ≤ frame.registerCount.toNat ∧
      ∃ closed remaining,
        (Live.atEntry frame.registerCount arrivals).closings frame.registerCount events =
          .ok closed ∧
        ((Live.atEntry frame.registerCount arrivals).after events).finish frame.codeSize =
          .ok remaining ∧
        entries = closed ++ remaining := by
  simp only [Frame.locals, known, Frame.localsFrom]
  split
  · next narrow =>
    refine ⟨nofun, ?_⟩
    intro parts
    exact absurd parts.1 (Nat.not_le.mpr narrow)
  · next wide =>
    have fits := Nat.not_lt.mp wide
    refine ⟨fun found => ⟨fits, append_eq_ok_iff.mp found⟩, ?_⟩
    intro parts
    exact append_eq_ok_iff.mpr parts.2

theorem locals_eq_error_iff {frame : Frame} {arrivals : List Arrival} {events : List Event}
    {fault : ReconstructionError} (known : frame.arrivals? = some arrivals)
    (fits : frame.insSize ≤ frame.registerCount.toNat) : frame.locals events = .error fault ↔
      (Live.atEntry frame.registerCount arrivals).closings frame.registerCount events =
        .error fault ∨
      (∃ closed, (Live.atEntry frame.registerCount arrivals).closings frame.registerCount events =
        .ok closed) ∧
        ((Live.atEntry frame.registerCount arrivals).after events).finish frame.codeSize =
          .error fault := by
  simp only [Frame.locals, known, Frame.localsFrom]
  rw [if_neg (Nat.not_lt.mpr fits)]
  exact append_eq_error_iff

/-- An event closes the range of what its register held if it frees it, and otherwise none. -/
theorem closedBy_cases {held : Option Occupant} {event : Event} {closed : List LocalVariable}
    (ok : closedBy held event = .ok closed) :
    (∃ register, event.frees? = some register ∧
      closeHeld register event.offset held = .ok closed) ∨
    event.frees? = none ∧ closed = [] := by
  cases event with
  | startLocal register info offset => exact Or.inl ⟨register, rfl, ok⟩
  | endLocal register offset =>
    cases held with
    | none => cases ok
    | some occupant => exact Or.inl ⟨register, rfl, ok⟩
  | _ => exact Or.inr ⟨rfl, (Except.ok.inj ok).symm⟩

theorem closedBy_of_no_register {held : Option Occupant} {event : Event}
    (none : event.register? = none) : closedBy held event = .ok [] := by
  cases event with
  | startLocal register info offset => cases none
  | restartLocal register info offset => cases none
  | endLocal register offset => cases none
  | _ => rfl

end Dex

end DebugTables
