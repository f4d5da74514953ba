import Mathlib
import DebugTables.Proofs.Dex.Occupancy

/-! Which fault a reconstruction reports, told from the events alone. It is the fault of the first
event that fails after those before it; and where no event fails, that of the first register whose
range was opened past the end of the code. -/

namespace DebugTables.Dex

/-- What a register holds after events came into it at an offset: on entry or by an event, and no
event has freed the register since. A restart opens a range only where nothing lives. -/
def OpenedAt (entered : Prop) (register offset : UInt32) (events : List Event) : Prop :=
  (entered ∧ offset = 0 ∧ ∀ event ∈ events, event.frees? ≠ some register) ∨
  ∃ before event after, events = before ++ event :: after ∧ event.enters? = some register ∧
    event.offset = offset ∧ (event.frees? = some register ∨ ¬Occupied entered register before) ∧
    ∀ later ∈ after, later.frees? ≠ some register

section OpenedAt

variable {entered : Prop} {register offset : UInt32} {held : Option Occupant} {event : Event}
  {events : List Event}

theorem openedAt_concat : OpenedAt entered register offset (events ++ [event]) ↔
    event.frees? ≠ some register ∧ OpenedAt entered register offset events ∨
    event.enters? = some register ∧ event.offset = offset ∧
      (event.frees? = some register ∨ ¬Occupied entered register events) := by
  have kept_concat {after : List Event} :
      (∀ later ∈ after ++ [event], later.frees? ≠ some register) ↔
        (∀ later ∈ after, later.frees? ≠ some register) ∧ event.frees? ≠ some register := by
    rw [List.forall_mem_append, List.forall_mem_singleton]
  constructor
  · rintro (⟨isEntered, start, kept⟩ | ⟨before, opening, after, split, enters, start, free, kept⟩)
    · obtain ⟨kept, keeps⟩ := kept_concat.mp kept
      exact Or.inl ⟨keeps, Or.inl ⟨isEntered, start, kept⟩⟩
    · -- The last event opens the range itself, or it only follows the one that did.
      rcases after.eq_nil_or_concat' with rfl | ⟨after, last, rfl⟩
      · obtain ⟨rfl, same⟩ := List.append_inj' split rfl
        cases same
        exact Or.inr ⟨enters, start, free⟩
      · rw [← List.cons_append, ← List.append_assoc] at split
        obtain ⟨rfl, same⟩ := List.append_inj' split rfl
        cases same
        obtain ⟨kept, keeps⟩ := kept_concat.mp kept
        exact Or.inl ⟨keeps, Or.inr ⟨before, opening, after, rfl, enters, start, free, kept⟩⟩
  · rintro (⟨keeps, opened⟩ | ⟨enters, start, free⟩)
    · rcases opened with ⟨isEntered, start, kept⟩ |
        ⟨before, opening, after, rfl, enters, start, free, kept⟩
      · exact Or.inl ⟨isEntered, start, kept_concat.mpr ⟨kept, keeps⟩⟩
      · exact Or.inr ⟨before, opening, after ++ [event], by simp, enters, start, free,
          kept_concat.mpr ⟨kept, keeps⟩⟩
    · exact Or.inr ⟨events, event, [], rfl, enters, start, free, by simp⟩

/-- What an event leaves in a register it found there or put there. -/
theorem exists_start_heldAfter_iff :
    (∃ occupant, heldAfter register held event = some occupant ∧ occupant.start = offset) ↔
      event.frees? ≠ some register ∧ (∃ occupant, held = some occupant ∧ occupant.start = offset) ∨
      event.enters? = some register ∧ event.offset = offset ∧
        (event.frees? = some register ∨ ¬held.isSome) := by
  cases event with
  | startLocal slot info start =>
    by_cases same : slot = register <;>
      simp [heldAfter, Event.frees?, Event.enters?, Event.offset, same]
  | restartLocal slot info start =>
    by_cases same : slot = register <;> cases held <;>
      simp [heldAfter, Event.frees?, Event.enters?, Event.offset, same]
  | endLocal slot start =>
    by_cases same : slot = register <;>
      simp [heldAfter, Event.frees?, Event.enters?, same]
  | _ => simp [heldAfter, Event.frees?, Event.enters?]

/-- The start of what a register holds is where its range was opened. -/
theorem openedAt_iff_foldl (entry : ∀ occupant ∈ held, occupant.start = 0) :
    OpenedAt (held.isSome = true) register offset events ↔
      ∃ occupant, events.foldl (heldAfter register) held = some occupant ∧
        occupant.start = offset := by
  induction events using List.reverseRecOn with
  | nil =>
    cases held with
    | none => simp [OpenedAt]
    | some occupant =>
      have start := entry occupant rfl
      simp [OpenedAt, start, eq_comm]
  | append_singleton events event ih =>
    rw [openedAt_concat, List.foldl_concat, exists_start_heldAfter_iff, ih,
      isSome_foldl_heldAfter]

end OpenedAt

/-- An event fails after events of which none fails. It has to be supported and to fit into the
frame; then an end has to end something, and what gives up a range must not come before it. -/
inductive FailsAfter (count : UInt32) (entered : UInt32 → Prop) (before : List Event) :
    Event → ReconstructionError → Prop
  | unsupported {name : Option String} {offset : UInt32} : FailsAfter count entered before
      (.setSourceFile name offset) (.unsupportedEvent "SetSourceFile" offset)
  | outside {event : Event} {register : UInt32} (own : event.register? = some register)
      (outside : count ≤ register) :
      FailsAfter count entered before event (.registerOutOfRange register count)
  | undefined {register offset : UInt32} (inside : register < count)
      (dead : ¬Occupied (entered register) register before) : FailsAfter count entered before
      (.endLocal register offset) (.undefinedRegister register offset)
  | negative {event : Event} {register start : UInt32} (frees : event.frees? = some register)
      (inside : register < count) (opened : OpenedAt (entered register) register start before)
      (early : event.offset < start) :
      FailsAfter count entered before event (.negativeRange register start event.offset)

/-- No event fails after those before it. -/
def Runs (count : UInt32) (entered : UInt32 → Prop) (events : List Event) : Prop :=
  ∀ before event after, events = before ++ event :: after →
    ∀ fault, ¬FailsAfter count entered before event fault

/-- The fault of the first event that fails, or that of the first register that would live to the
end of the code but was opened past it. -/
inductive FirstFault (count codeSize : UInt32) (entered : UInt32 → Prop) (events : List Event) :
    ReconstructionError → Prop
  | event {before after : List Event} {event : Event} {fault : ReconstructionError}
      (split : events = before ++ event :: after) (runs : Runs count entered before)
      (fails : FailsAfter count entered before event fault) :
      FirstFault count codeSize entered events fault
  | finish {register start : UInt32} (runs : Runs count entered events)
      (opened : OpenedAt (entered register) register start events) (late : codeSize < start)
      (smaller : ∀ other < register, ∀ start, OpenedAt (entered other) other start events →
        start ≤ codeSize) :
      FirstFault count codeSize entered events (.negativeRange register start codeSize)

section run

variable {count codeSize register offset : UInt32} {live : Live} {event : Event}
  {events : List Event} {fault : ReconstructionError}

theorem placed_of_register (own : event.register? = some register) (inside : register < count) :
    event.Placed count := by
  refine ⟨?_, ?_⟩
  · rintro name offset rfl
    cases own
  · intro other member
    rw [own] at member
    cases member
    exact inside

/-- What lives to the end of the code fails with the first register that was opened past it. -/
theorem finish_eq_error_iff : live.finish codeSize = .error fault ↔
    ∃ register occupant, live[register]? = some occupant ∧ codeSize < occupant.start ∧
      (∀ other < register, ∀ earlier, live[other]? = some earlier → earlier.start ≤ codeSize) ∧
      fault = .negativeRange register occupant.start codeSize := by
  have ordered : live.toList.Pairwise fun first second => first.1 < second.1 := by
    apply Std.ExtTreeMap.ordered_keys_toList.imp
    intro first second before
    exact compareOfLessAndEq_eq_lt.mp before
  have mem_iff (register : UInt32) (occupant : Occupant) :
      (register, occupant) ∈ live.toList ↔ live[register]? = some occupant :=
    Std.ExtTreeMap.mem_toList_iff_getElem?_eq_some
  rw [Live.finish, mapM_eq_error_iff]
  constructor
  · rintro ⟨before, ⟨register, occupant⟩, after, split, each, failed⟩
    rw [split] at ordered mem_iff
    obtain ⟨late, rfl⟩ := close_eq_error_iff.mp failed
    have held := (mem_iff register occupant).mp List.mem_append_cons_self
    refine ⟨register, occupant, held, late, ?_, rfl⟩
    intro other less earlier heldEarlier
    have member := (mem_iff other earlier).mpr heldEarlier
    -- Registers are closed in increasing order, so a smaller one was closed before.
    rcases List.mem_append.mp member with isBefore | isAfter
    · exact exists_close_iff.mp (each _ isBefore)
    · have follows := List.pairwise_cons.mp (List.pairwise_append.mp ordered).2.1
      rcases List.mem_cons.mp isAfter with same | later
      · cases same
        exact absurd less (UInt32.lt_irrefl _)
      · exact absurd less (UInt32.lt_asymm (follows.1 _ later))
  · rintro ⟨register, occupant, held, late, smaller, rfl⟩
    obtain ⟨before, after, split⟩ := List.append_of_mem ((mem_iff register occupant).mpr held)
    refine ⟨before, _, after, split, ?_, close_eq_error_iff.mpr ⟨late, rfl⟩⟩
    rintro ⟨other, earlier⟩ isBefore
    have heldEarlier : live[other]? = some earlier := by
      apply (mem_iff other earlier).mp
      rw [split]
      exact List.mem_append_left _ isBefore
    rw [split] at ordered
    have less := (List.pairwise_append.mp ordered).2.2 _ isBefore _ List.mem_cons_self
    exact exists_close_iff.mpr (smaller other less earlier heldEarlier)

end run

section frame

variable {frame : Frame} {arrivals : List Arrival} {register offset : UInt32} {event : Event}
  {before events : List Event} {fault : ReconstructionError}

theorem openedAt_iff (known : frame.arrivals? = some arrivals) :
    OpenedAt (frame.Enters register) register offset events ↔ ∃ occupant,
      ((Live.atEntry frame.registerCount arrivals).after events)[register]? = some occupant ∧
        occupant.start = offset := by
  rw [getElem?_after, ← openedAt_iff_foldl fun _ => start_atEntry, isSome_atEntry_iff known]

/-- An event fails in a run exactly as its events tell. -/
theorem failsAfter_iff (known : frame.arrivals? = some arrivals) :
    FailsAfter frame.registerCount frame.Enters before event fault ↔
      ((Live.atEntry frame.registerCount arrivals).after before).closing frame.registerCount event =
        .error fault := by
  rw [closing_eq_error_iff, place_eq_error_iff]
  constructor
  · rintro (_ | ⟨own, outside⟩ | ⟨inside, dead⟩ | ⟨frees, inside, opened, early⟩)
    · exact Or.inl (Or.inr ⟨_, _, rfl, rfl⟩)
    · exact Or.inl (Or.inl ⟨_, own, outside, rfl⟩)
    · have none := mt (occupied_iff known).mpr dead
      rw [Option.not_isSome_iff_eq_none] at none
      exact Or.inr ⟨placed_of_register rfl inside, Or.inl ⟨_, rfl, none, rfl⟩⟩
    · obtain ⟨occupant, held, rfl⟩ := (openedAt_iff known).mp opened
      have own := Event.register?_of_frees frees
      exact Or.inr ⟨placed_of_register own inside,
        Or.inr ⟨_, occupant, frees, held, early, rfl⟩⟩
  · rintro ((⟨register, own, outside, rfl⟩ | ⟨name, offset, rfl, rfl⟩) |
      ⟨placed, ⟨register, ends, none, rfl⟩ | ⟨register, occupant, frees, held, early, rfl⟩⟩)
    · exact .outside own outside
    · exact .unsupported
    · rw [ends] at placed ⊢
      have dead := mt (occupied_iff known).mp (Option.not_isSome_iff_eq_none.mpr none)
      exact .undefined (placed.inside register rfl) dead
    · have own := Event.register?_of_frees frees
      have opened := (openedAt_iff known).mpr ⟨occupant, held, rfl⟩
      exact .negative frees (placed.inside register own) opened early

theorem runs_iff (known : frame.arrivals? = some arrivals) :
    Runs frame.registerCount frame.Enters events ↔ ∃ closed,
      (Live.atEntry frame.registerCount arrivals).closings frame.registerCount events =
        .ok closed := by
  simp only [exists_closings_iff, Runs, failsAfter_iff known, Ne]

theorem locals_of_unnamed (unnamed : ∃ parameter ∈ frame.parameters, parameter.name = none) :
    frame.locals events = .ok [] := by
  obtain ⟨parameter, member, nameless⟩ := unnamed
  cases known : frame.arrivals? with
  | none => rw [Frame.locals, known]
  | some arrivals =>
    have named := named_of_arrivals known parameter member
    rw [nameless] at named
    cases named

/-- A frame without room for its arrivals is refused with the number of registers that they take. -/
theorem locals_of_narrow (named : ∀ parameter ∈ frame.parameters, parameter.name.isSome)
    (word : frame.insSize < 0x100000000) (narrow : frame.registerCount.toNat < frame.insSize) :
    ∃ ins : UInt32, ins.toNat = frame.insSize ∧
      frame.locals events = .error (.parameterWindow ins.toNat frame.registerCount) := by
  obtain ⟨arrivals, known⟩ := exists_arrivals named
  have ins : (UInt32.ofNat frame.insSize).toNat = frame.insSize := UInt32.toNat_ofNat_of_lt' word
  refine ⟨UInt32.ofNat frame.insSize, ins, ?_⟩
  rw [ins]
  simp only [Frame.locals, known, Frame.localsFrom]
  rw [if_pos narrow]
  rfl

/-- With named parameters and a fitting frame, the fault is the first one. -/
theorem locals_eq_error_iff_firstFault (known : frame.arrivals? = some arrivals)
    (fits : frame.insSize ≤ frame.registerCount.toNat) : frame.locals events = .error fault ↔
      FirstFault frame.registerCount frame.codeSize frame.Enters events fault := by
  rw [locals_eq_error_iff known fits, closings_eq_error_iff, ← runs_iff known, finish_eq_error_iff]
  constructor
  · rintro (⟨before, event, after, split, reached, failed⟩ |
      ⟨runs, register, occupant, held, late, smaller, rfl⟩)
    · exact .event split ((runs_iff known).mpr reached) ((failsAfter_iff known).mpr failed)
    · refine .finish runs ((openedAt_iff known).mpr ⟨occupant, held, rfl⟩) late ?_
      intro other less start opened
      obtain ⟨earlier, heldEarlier, rfl⟩ := (openedAt_iff known).mp opened
      exact smaller other less earlier heldEarlier
  · rintro (⟨split, runs, fails⟩ | ⟨runs, opened, late, smaller⟩)
    · exact Or.inl ⟨_, _, _, split, (runs_iff known).mp runs, (failsAfter_iff known).mp fails⟩
    · obtain ⟨occupant, held, rfl⟩ := (openedAt_iff known).mp opened
      refine Or.inr ⟨runs, _, occupant, held, late, ?_, rfl⟩
      intro other less earlier heldEarlier
      exact smaller other less _ ((openedAt_iff known).mpr ⟨earlier, heldEarlier, rfl⟩)

/-- And there is none if no event fails and all ranges open by the end of the code. -/
theorem exists_locals_iff_runs (known : frame.arrivals? = some arrivals)
    (fits : frame.insSize ≤ frame.registerCount.toNat) :
    (∃ entries, frame.locals events = .ok entries) ↔
      Runs frame.registerCount frame.Enters events ∧ ∀ register start,
        OpenedAt (frame.Enters register) register start events → start ≤ frame.codeSize := by
  have covered_iff : (∃ remaining, ((Live.atEntry frame.registerCount arrivals).after
      events).finish frame.codeSize = .ok remaining) ↔ ∀ register start,
        OpenedAt (frame.Enters register) register start events → start ≤ frame.codeSize := by
    simp only [exists_finish_iff, openedAt_iff known]
    refine forall_congr' fun register => ?_
    constructor
    · rintro covered start ⟨occupant, held, rfl⟩
      exact covered occupant held
    · intro covered occupant held
      exact covered _ ⟨occupant, held, rfl⟩
  rw [← covered_iff, runs_iff known]
  simp only [locals_eq_ok_iff known]
  constructor
  · rintro ⟨entries, -, closed, remaining, closings, finished, -⟩
    exact ⟨⟨closed, closings⟩, remaining, finished⟩
  · rintro ⟨⟨closed, closings⟩, remaining, finished⟩
    exact ⟨_, fits, closed, remaining, closings, finished, rfl⟩

/-- Which fault a reconstruction reports. A method with an unnamed parameter has no variables and
no faults. Otherwise its arrivals have to fit into the frame, where they take no more registers than
a word can count; and if they fit, the fault is the first one that the events tell, and without one
there are variables. -/
theorem locals_first_fault (frame : Frame) (events : List Event) :
    ((∃ parameter ∈ frame.parameters, parameter.name = none) → frame.locals events = .ok []) ∧
    ((∀ parameter ∈ frame.parameters, parameter.name.isSome) →
      (frame.insSize < 0x100000000 → frame.registerCount.toNat < frame.insSize → ∃ ins : UInt32,
        ins.toNat = frame.insSize ∧
        frame.locals events = .error (.parameterWindow ins.toNat frame.registerCount)) ∧
      (frame.insSize ≤ frame.registerCount.toNat →
        (∀ fault, frame.locals events = .error fault ↔
          FirstFault frame.registerCount frame.codeSize frame.Enters events fault) ∧
        ((∃ entries, frame.locals events = .ok entries) ↔
          Runs frame.registerCount frame.Enters events ∧ ∀ register start,
            OpenedAt (frame.Enters register) register start events →
              start ≤ frame.codeSize))) := by
  refine ⟨locals_of_unnamed, fun named => ⟨locals_of_narrow named, fun fits => ?_⟩⟩
  obtain ⟨arrivals, known⟩ := exists_arrivals named
  exact ⟨fun fault => locals_eq_error_iff_firstFault known fits, exists_locals_iff_runs known fits⟩

/-- An instance method of a long and a double. Its receiver can be ended, but the second register of
the long cannot. A restart is ignored by a live register, whose range is then ended too early, and
two registers are opened past the end of the code. One frame has no room for the receiver, and one
is given up for an unnamed parameter. -/
theorem locals_first_fault_restarted :
    let frame : Frame := ⟨6, some "LA;", [⟨"J", some "n", none⟩, ⟨"D", some "d", none⟩], 5⟩
    let narrow : Frame := ⟨0, some "LA;", [], 5⟩
    let unnamed : Frame := ⟨0, some "LA;", [⟨"I", none, none⟩], 5⟩
    let x : Local := ⟨"x", "I", none⟩
    let restarted : List Event := [.startLocal 0 x 3, .restartLocal 0 x 1]
    let late : List Event := [.startLocal 4 x 9, .startLocal 0 x 7]
    ((∀ parameter ∈ frame.parameters, parameter.name.isSome) ∧
      frame.insSize ≤ frame.registerCount.toNat ∧ narrow.insSize < 0x100000000 ∧
      narrow.registerCount.toNat < narrow.insSize) ∧
    frame.locals [.endLocal 1 3] = .ok [⟨0, 3, "this", "LA;", 1⟩, ⟨0, 5, "n", "J", 2⟩,
      ⟨0, 5, "d", "D", 4⟩] ∧
    frame.locals [.endLocal 1 3, .endLocal 3 4] = .error (.undefinedRegister 3 4) ∧
    frame.locals (restarted ++ [.endLocal 0 2, .setSourceFile none 2]) =
      .error (.negativeRange 0 3 2) ∧
    frame.locals late = .error (.negativeRange 0 7 5) ∧
    narrow.locals restarted = .error (.parameterWindow 1 0) ∧
    unnamed.locals restarted = .ok [] := by
  intro frame narrow unnamed x restarted late
  have named : ∀ parameter ∈ frame.parameters, parameter.name.isSome := by decide
  have fits : frame.insSize ≤ frame.registerCount.toNat := by decide
  have faults (events : List Event) := (((locals_first_fault frame events).2 named).2 fits).1
  have succeeds (events : List Event) := (((locals_first_fault frame events).2 named).2 fits).2
  have known : frame.arrivals? = some [⟨"this", "LA;", 1⟩, ⟨"n", "J", 2⟩, ⟨"d", "D", 2⟩] := by cbv
  have entered : frame.entered =
      [(1, ⟨0, "this", "LA;"⟩), (2, ⟨0, "n", "J"⟩), (4, ⟨0, "d", "D"⟩)] := by
    cbv
  have ended : frame.locals [.endLocal 1 3] = .ok [⟨0, 3, "this", "LA;", 1⟩, ⟨0, 5, "n", "J", 2⟩,
      ⟨0, 5, "d", "D", 4⟩] := by
    cbv
  have runsEnded := ((succeeds _).mp ⟨_, ended⟩).1
  refine ⟨⟨named, fits, by decide, by decide⟩, ended, (faults _ _).mpr ?_, (faults _ _).mpr ?_,
    (faults _ _).mpr ?_, ?_, ?_⟩
  · have dead : ¬frame.Enters 3 := by
      rw [Frame.Enters, entered]
      decide
    have split : [Event.endLocal 1 3, .endLocal 3 4] = [.endLocal 1 3] ++ [.endLocal 3 4] := rfl
    exact .event split runsEnded (.undefined (by decide) dead)
  · have runs : Runs 6 frame.Enters restarted := (runs_iff known).mpr ⟨[], by cbv⟩
    have opened : OpenedAt (frame.Enters 0) 0 3 restarted :=
      Or.inr ⟨[], .startLocal 0 x 3, [.restartLocal 0 x 1], rfl, rfl, rfl, Or.inl rfl, by decide⟩
    exact .event rfl runs (.negative rfl (by decide) opened (by decide))
  · have runs : Runs 6 frame.Enters late := (runs_iff known).mpr ⟨[⟨0, 9, "d", "D", 4⟩], by cbv⟩
    have opened : OpenedAt (frame.Enters 0) 0 7 late :=
      Or.inr ⟨[.startLocal 4 x 9], .startLocal 0 x 7, [], rfl, rfl, rfl, Or.inl rfl, by decide⟩
    exact .finish runs opened (by decide) fun other less => absurd less UInt32.not_lt_zero
  · obtain ⟨ins, one, refused⟩ := ((locals_first_fault narrow restarted).2 (by decide)).1
      (by decide) (by decide)
    rw [refused, one]
    rfl
  · exact (locals_first_fault unnamed restarted).1 ⟨_, List.mem_singleton_self _, rfl⟩

end frame

end DebugTables.Dex
