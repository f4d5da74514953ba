import Mathlib
import DebugTables.Proofs.Dex.Execution
import DebugTables.Proofs.Dex.Failures
import DebugTables.Proofs.Dex.Independence

/-! What registers hold, told from the events about them, and when events can be run. Where the
offsets never go back, as in decoded events, no range ends before its start, and all that is left to
go wrong is an event that does not fit into the frame or an end that finds nothing to end. -/

namespace DebugTables.Dex

variable {count codeSize register : UInt32} {events : List Event} {fault : ReconstructionError}

/-- Whether a register holds something after events: the last of them that is about it is no end, or
there is none and the register was entered with something. -/
def Occupied (entered : Prop) (register : UInt32) (events : List Event) : Prop :=
  match (eventsOn register events).getLast? with
  | some last => ∀ slot offset, last ≠ .endLocal slot offset
  | none => entered

theorem isSome_foldl_heldAfter (register : UInt32) (held : Option Occupant)
    (events : List Event) : (events.foldl (heldAfter register) held).isSome ↔
      Occupied (held.isSome = true) register events := by
  induction events using List.reverseRecOn with
  | nil => rfl
  | append_singleton events event ih =>
    rw [List.foldl_concat]
    by_cases own : event.register? = some register
    · have last : (eventsOn register (events ++ [event])).getLast? = some event := by
        simp [eventsOn, own]
      rw [Occupied, last]
      cases event with
      | startLocal slot info offset =>
        cases own
        simp [heldAfter]
      | restartLocal slot info offset =>
        cases own
        simp [heldAfter]
      | endLocal slot offset =>
        cases own
        simp [heldAfter]
      | _ => cases own
    · have same : eventsOn register (events ++ [event]) = eventsOn register events := by
        simp [eventsOn, own]
      rw [heldAfter_other own, ih, Occupied, Occupied, same]

/-- Nothing that a register holds after events has started later than the last of them. -/
theorem start_le_of_after {arrivals : List Arrival} {bound : UInt32} {occupant : Occupant}
    (reached : ∀ event ∈ events, event.offset ≤ bound)
    (holds : ((Live.atEntry count arrivals).after events)[register]? = some occupant) :
    occupant.start ≤ bound := by
  rw [getElem?_after] at holds
  rcases start_of_foldl holds with entered | ⟨event, member, start⟩
  · rw [start_atEntry entered]
    exact UInt32.zero_le
  · rw [start]
    exact reached event member

theorem offset_le_of_getLast {bound : UInt32} (ordered : events.Pairwise (·.offset ≤ ·.offset))
    (covered : ∀ last ∈ events.getLast?, last.offset ≤ bound) :
    ∀ event ∈ events, event.offset ≤ bound := by
  intro event member
  cases events using List.reverseRecOn with
  | nil => cases member
  | append_singleton events last =>
    have final := covered last (by simp)
    rcases List.mem_append.mp member with earlier | same
    · have before := (List.pairwise_append.mp ordered).2.2 event earlier last
        (List.mem_singleton_self last)
      exact UInt32.le_trans before final
    · rw [List.mem_singleton.mp same]
      exact final

section ordered

variable {arrivals : List Arrival}

/-- Events in order fail only where one does not fit into the frame or ends nothing. -/
theorem closings_eq_error_of_ordered (ordered : events.Pairwise (·.offset ≤ ·.offset))
    (failed : (Live.atEntry count arrivals).closings count events = .error fault) :
    ∃ before event after, events = before ++ event :: after ∧
      (event.place count = .error fault ∨ ∃ register, event = .endLocal register event.offset ∧
        ((Live.atEntry count arrivals).after before)[register]? = none ∧
        fault = .undefinedRegister register event.offset) := by
  obtain ⟨before, event, after, split, -, failed⟩ := closings_eq_error_iff.mp failed
  refine ⟨before, event, after, split, ?_⟩
  rcases closing_eq_error_iff.mp failed with
    misplaced | ⟨-, ends | ⟨register, occupant, -, held, backward, -⟩⟩
  · exact Or.inl misplaced
  · exact Or.inr ends
  · rw [split] at ordered
    have reached (earlier : Event) (member : earlier ∈ before) : earlier.offset ≤ event.offset :=
      (List.pairwise_append.mp ordered).2.2 earlier member event (List.mem_cons_self ..)
    exact absurd backward (UInt32.not_lt.mpr (start_le_of_after reached held))

/-- After events in order that the code covers, whatever still lives can live to its end. -/
theorem exists_finish_of_covered (covered : ∀ event ∈ events, event.offset ≤ codeSize) :
    ∃ remaining, ((Live.atEntry count arrivals).after events).finish codeSize = .ok remaining := by
  apply exists_finish_iff.mpr
  intro register occupant held
  exact start_le_of_after covered held

end ordered

section frame

variable {frame : Frame} {arrivals : List Arrival}

theorem occupied_iff {before : List Event} (known : frame.arrivals? = some arrivals) :
    Occupied (frame.Enters register) register before ↔
      ((Live.atEntry frame.registerCount arrivals).after before)[register]?.isSome := by
  rw [getElem?_after, isSome_foldl_heldAfter, isSome_atEntry_iff known]

theorem occupied_of_closings {closed : List LocalVariable} (known : frame.arrivals? = some arrivals)
    (ok : (Live.atEntry frame.registerCount arrivals).closings frame.registerCount events =
      .ok closed)
    {before after : List Event} {offset : UInt32}
    (split : events = before ++ .endLocal register offset :: after) :
    Occupied (frame.Enters register) register before := by
  obtain ⟨first, closing⟩ := exists_closing_of_closings ok split
  have closes := (closing_eq_ok_iff.mp closing).2
  rw [occupied_iff known]
  rw [heldBy_of_register rfl] at closes
  cases held : ((Live.atEntry frame.registerCount arrivals).after before)[register]? with
  | none =>
    rw [held] at closes
    cases closes
  | some occupant => rfl

/-- Events in order whose ends all end something succeed if they fit into the frame. -/
theorem exists_closings_of_occupied (known : frame.arrivals? = some arrivals)
    (ordered : events.Pairwise (·.offset ≤ ·.offset))
    (placed : ∀ event ∈ events, event.Placed frame.registerCount)
    (ends : ∀ before register offset after, events = before ++ .endLocal register offset :: after →
      Occupied (frame.Enters register) register before) :
    ∃ closed, (Live.atEntry frame.registerCount arrivals).closings frame.registerCount events =
      .ok closed := by
  cases found :
      (Live.atEntry frame.registerCount arrivals).closings frame.registerCount events with
  | ok closed => exact ⟨closed, rfl⟩
  | error fault =>
    obtain ⟨before, event, after, split, wrong⟩ := closings_eq_error_of_ordered ordered found
    rcases wrong with misplaced | ⟨register, same, empty, -⟩
    · have fits := place_eq_ok_iff.mpr (placed event (split ▸ List.mem_append_cons_self))
      rw [fits] at misplaced
      cases misplaced
    · have held := (occupied_iff known).mp (ends before register event.offset after (same ▸ split))
      rw [empty] at held
      cases held

theorem exists_locals_iff_occupied (known : frame.arrivals? = some arrivals)
    (fits : frame.insSize ≤ frame.registerCount.toNat)
    (ordered : events.Pairwise (·.offset ≤ ·.offset))
    (covered : ∀ event ∈ events, event.offset ≤ frame.codeSize) :
    (∃ entries, frame.locals events = .ok entries) ↔
      (∀ event ∈ events, event.Placed frame.registerCount) ∧
      ∀ before register offset after, events = before ++ .endLocal register offset :: after →
        Occupied (frame.Enters register) register before := by
  constructor
  · intro found
    obtain ⟨entries, found⟩ := found
    obtain ⟨-, closed, -, closings, -, -⟩ := (locals_eq_ok_iff known).mp found
    exact ⟨placed_of_closings closings,
      fun before register offset after split => occupied_of_closings known closings split⟩
  · intro parts
    obtain ⟨closed, closings⟩ := exists_closings_of_occupied known ordered parts.1 parts.2
    obtain ⟨remaining, finished⟩ := exists_finish_of_covered covered
    exact ⟨_, (locals_eq_ok_iff known).mpr ⟨fits, closed, remaining, closings, finished, rfl⟩⟩

/-- No range of events in order ends before it starts, if the code covers them. -/
theorem locals_ne_negativeRange (ordered : events.Pairwise (·.offset ≤ ·.offset))
    (covered : ∀ event ∈ events, event.offset ≤ frame.codeSize) (register start stop : UInt32) :
    frame.locals events ≠ .error (.negativeRange register start stop) := by
  intro failed
  cases known : frame.arrivals? with
  | none =>
    rw [Frame.locals, known] at failed
    cases failed
  | some arrivals =>
    simp only [Frame.locals, known, Frame.localsFrom] at failed
    split at failed
    · cases failed
    · rcases Reading.bind_eq_error_iff.mp failed with failed | ⟨closed, -, failed⟩
      · obtain ⟨before, event, after, -, wrong⟩ := closings_eq_error_of_ordered ordered failed
        rcases wrong with misplaced | ⟨slot, -, -, same⟩
        · rcases place_eq_error_iff.mp misplaced with ⟨slot, -, -, same⟩ | ⟨name, offset, -, same⟩
          · cases same
          · cases same
        · cases same
      · obtain ⟨remaining, finished⟩ := @exists_finish_of_covered _ _ _ arrivals covered
        rw [finished] at failed
        cases failed

/-- Decoded events fail for what they say and not for their offsets. With all parameters named, a
fitting frame and code up to the last event, they have variables exactly if no event changes the
source file, the frame has all their registers, and every end finds something to end: the last event
about its register is no end, or there is none and the method is entered with something there. -/
theorem decoded_locals_iff_occupied (pools : Pools) (bytes : Bytes) (info : DebugInfo)
    (decoded : DebugInfo.decode pools bytes = .ok info) (frame : Frame)
    (named : ∀ parameter ∈ frame.parameters, parameter.name.isSome)
    (fits : frame.insSize ≤ frame.registerCount.toNat)
    (covered : ∀ last ∈ info.events.getLast?, last.offset ≤ frame.codeSize) :
    ((∃ entries, frame.locals info.events = .ok entries) ↔
      (∀ name offset, Event.setSourceFile name offset ∉ info.events) ∧
      (∀ event ∈ info.events, ∀ register ∈ event.register?, register < frame.registerCount) ∧
      ∀ before register offset after,
        info.events = before ++ .endLocal register offset :: after →
          Occupied (frame.Enters register) register before) ∧
    ∀ register start stop,
      frame.locals info.events ≠ .error (.negativeRange register start stop) := by
  obtain ⟨arrivals, known⟩ := exists_arrivals named
  have ordered := ordered_of_decode decoded
  have inside := offset_le_of_getLast ordered covered
  refine ⟨?_, locals_ne_negativeRange ordered inside⟩
  rw [exists_locals_iff_occupied known fits ordered inside, forall_placed_iff, and_assoc]

/-- An instance method of a long and a double. The receiver, the long and a local can be ended, but
the long not once more, and its second register not at all. -/
theorem decoded_locals_iff_occupied_twice :
    let pools : Pools := ⟨["x"], ["I"]⟩
    let ended : Bytes := [0, 0, 3, 0, 1, 1, 1, 3, 5, 2, 5, 0, 5, 1, 0]
    let twice : Bytes := [0, 0, 3, 0, 1, 1, 1, 3, 5, 2, 5, 0, 5, 1, 1, 4, 5, 2, 0]
    let upper : Bytes := [0, 0, 1, 3, 5, 3, 0]
    let ends : List Event :=
      [.startLocal 0 ⟨"x", "I", none⟩ 0, .endLocal 2 3, .endLocal 0 3, .endLocal 1 3]
    let events : List Event := ends ++ [.endLocal 2 7]
    let frame : Frame := ⟨6, some "LA;", [⟨"J", some "n", none⟩, ⟨"D", some "d", none⟩], 7⟩
    ((DebugInfo.decode pools ended = .ok ⟨0, [], ends⟩ ∧
      DebugInfo.decode pools twice = .ok ⟨0, [], events⟩ ∧
      DebugInfo.decode pools upper = .ok ⟨0, [], [.endLocal 3 3]⟩) ∧
      (∀ parameter ∈ frame.parameters, parameter.name.isSome) ∧
      frame.insSize ≤ frame.registerCount.toNat ∧
      ∀ last ∈ events.getLast?, last.offset ≤ frame.codeSize) ∧
    (frame.Enters 1 ∧ frame.Enters 2 ∧ ¬frame.Enters 3 ∧ frame.locals ends = .ok [
      ⟨0, 3, "n", "J", 2⟩, ⟨0, 3, "x", "I", 0⟩, ⟨0, 3, "this", "LA;", 1⟩, ⟨0, 7, "d", "D", 4⟩]) ∧
    (¬∃ entries, frame.locals events = .ok entries) ∧
    (¬∃ entries, frame.locals [.endLocal 3 3] = .ok entries) ∧
    ∀ register start stop, frame.locals events ≠ .error (.negativeRange register start stop) := by
  intro pools ended twice upper ends events frame
  have decodedEnds : DebugInfo.decode pools ended = .ok ⟨0, [], ends⟩ := by cbv
  have decodedTwice : DebugInfo.decode pools twice = .ok ⟨0, [], events⟩ := by cbv
  have decodedUpper : DebugInfo.decode pools upper = .ok ⟨0, [], [.endLocal 3 3]⟩ := by cbv
  have named : ∀ parameter ∈ frame.parameters, parameter.name.isSome := by decide
  have fits : frame.insSize ≤ frame.registerCount.toNat := by decide
  have covered : ∀ last ∈ events.getLast?, last.offset ≤ frame.codeSize := by decide
  have entered : frame.entered =
      [(1, ⟨0, "this", "LA;"⟩), (2, ⟨0, "n", "J"⟩), (4, ⟨0, "d", "D"⟩)] := by
    cbv
  have dead : ¬frame.Enters 3 := by rw [Frame.Enters, entered]; decide
  have found : frame.locals ends = .ok [
      ⟨0, 3, "n", "J", 2⟩, ⟨0, 3, "x", "I", 0⟩, ⟨0, 3, "this", "LA;", 1⟩, ⟨0, 7, "d", "D", 4⟩] := by
    cbv
  have alive := (decoded_locals_iff_occupied pools ended _ decodedEnds frame named fits
    (by decide)).1.mp ⟨_, found⟩
  obtain ⟨succeedsTwice, forward⟩ :=
    decoded_locals_iff_occupied pools twice _ decodedTwice frame named fits covered
  obtain ⟨succeedsUpper, -⟩ :=
    decoded_locals_iff_occupied pools upper _ decodedUpper frame named fits (by decide)
  refine ⟨⟨⟨decodedEnds, decodedTwice, decodedUpper⟩, named, fits, covered⟩,
    ⟨?_, ?_, dead, found⟩, ?_, ?_, forward⟩
  · exact alive.2.2 (ends.take 3) 1 3 [] rfl
  · exact alive.2.2 (ends.take 1) 2 3 (ends.drop 2) rfl
  · intro succeeds
    have held := (succeedsTwice.mp succeeds).2.2 ends 2 7 [] rfl
    exact held 2 3 rfl
  · intro succeeds
    exact dead ((succeedsUpper.mp succeeds).2.2 [] 3 3 [] rfl)

end frame

end DebugTables.Dex
