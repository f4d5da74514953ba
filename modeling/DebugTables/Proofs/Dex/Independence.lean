import Mathlib
import DebugTables.Proofs.Dex.Ranges

/-! Registers do not influence each other. A run closes in each register what the events of that
register alone would close there, and it fails only where one of the registers fails by itself or an
event does not fit into the frame. -/

namespace DebugTables.Dex

/-- The events about the local of one register. -/
def eventsOn (register : UInt32) (events : List Event) : List Event :=
  events.filter (·.register? = some register)

variable {register codeSize : UInt32} {held : Option Occupant}

theorem rangesOf_cons_other {event : Event} (other : event.register? ≠ some register)
    (rest : List Event) :
    rangesOf register codeSize held (event :: rest) = rangesOf register codeSize held rest := by
  rw [rangesOf, closedIn, if_neg other, heldAfter_other other]
  cases rangesOf register codeSize held rest <;> rfl

theorem rangesOf_eventsOn (events : List Event) :
    rangesOf register codeSize held (eventsOn register events) =
      rangesOf register codeSize held events := by
  induction events generalizing held with
  | nil => rfl
  | cons event rest ih =>
    by_cases own : event.register? = some register
    · have split : eventsOn register (event :: rest) = event :: eventsOn register rest := by
        simp [eventsOn, own]
      rw [split, rangesOf, rangesOf, ih]
    · have split : eventsOn register (event :: rest) = eventsOn register rest := by
        simp [eventsOn, own]
      rw [split, rangesOf_cons_other own, ih]

theorem rangesOf_untouched {events : List Event}
    (others : ∀ event ∈ events, event.register? ≠ some register) :
    rangesOf register codeSize held events = closeHeld register codeSize held := by
  have none : eventsOn register events = [] := by simpa [eventsOn] using others
  rw [← rangesOf_eventsOn, none, rangesOf]

/-- From the entry, a register lives on to the end of the code where no event is about it. -/
theorem exists_rangesOf_untouched {count : UInt32} {arrivals : List Arrival} {events : List Event}
    (others : ∀ event ∈ events, event.register? ≠ some register) : ∃ part,
      rangesOf register codeSize (Live.atEntry count arrivals)[register]? events = .ok part := by
  rw [rangesOf_untouched others]
  exact exists_closeHeld_atEntry _ _

theorem forall_placed_iff {count : UInt32} {events : List Event} :
    (∀ event ∈ events, event.Placed count) ↔
      (∀ name offset, Event.setSourceFile name offset ∉ events) ∧
        ∀ event ∈ events, ∀ register ∈ event.register?, register < count := by
  constructor
  · intro placed
    exact ⟨fun name offset member => (placed _ member).supported name offset rfl,
      fun event member => (placed event member).inside⟩
  · intro parts event member
    exact ⟨fun name offset changes => parts.1 name offset (changes ▸ member), parts.2 event member⟩

section frame

variable {frame : Frame} {arrivals : List Arrival} {events : List Event}

/-- The events of one register succeed if they succeed for that register, since all others live on
from the entry. -/
theorem exists_locals_eventsOn_iff (known : frame.arrivals? = some arrivals)
    (fits : frame.insSize ≤ frame.registerCount.toNat)
    (placed : ∀ event ∈ events, event.Placed frame.registerCount) :
    (∃ entries, frame.locals (eventsOn register events) = .ok entries) ↔
      ∃ part, rangesOf register frame.codeSize
        (Live.atEntry frame.registerCount arrivals)[register]? events = .ok part := by
  rw [exists_locals_iff known fits]
  constructor
  · intro parts
    have own := parts.2 register
    rwa [rangesOf_eventsOn] at own
  · intro own
    refine ⟨fun event member => placed event (List.mem_of_mem_filter member), ?_⟩
    intro other
    by_cases same : other = register
    · rwa [same, rangesOf_eventsOn]
    · apply exists_rangesOf_untouched
      intro event member
      have on := of_decide_eq_true (List.mem_filter.mp member).2
      rw [on]
      exact fun equal => same (Option.some.inj equal).symm

/-- Events succeed if they fit into the frame and those of each register succeed by themselves. -/
theorem exists_locals_iff_eventsOn (known : frame.arrivals? = some arrivals)
    (fits : frame.insSize ≤ frame.registerCount.toNat) :
    (∃ entries, frame.locals events = .ok entries) ↔
      (∀ event ∈ events, event.Placed frame.registerCount) ∧
        ∀ register < frame.registerCount,
          ∃ entries, frame.locals (eventsOn register events) = .ok entries := by
  rw [exists_locals_iff known fits]
  apply and_congr_right
  intro placed
  constructor
  · intro each register _
    exact (exists_locals_eventsOn_iff known fits placed).mpr (each register)
  · intro each register
    by_cases present : register < frame.registerCount
    · exact (exists_locals_eventsOn_iff known fits placed).mp (each register present)
    · apply exists_rangesOf_untouched
      intro event member slot
      exact present ((placed event member).inside register slot)

theorem locals_eventsOn {entries : List LocalVariable} (known : frame.arrivals? = some arrivals)
    (fits : frame.insSize ≤ frame.registerCount.toNat) (found : frame.locals events = .ok entries)
    (register : UInt32) : ∃ alone, frame.locals (eventsOn register events) = .ok alone ∧
      entries.filter (·.slot = register) = alone.filter (·.slot = register) := by
  have placed := ((exists_locals_iff known fits).mp ⟨entries, found⟩).1
  have whole := @rangesOf_locals register _ _ _ _ known found
  obtain ⟨alone, foundAlone⟩ := (exists_locals_eventsOn_iff known fits placed).mpr ⟨_, whole⟩
  have part := @rangesOf_locals register _ _ _ _ known foundAlone
  rw [rangesOf_eventsOn] at part
  exact ⟨alone, foundAlone, Except.ok.inj (whole.symm.trans part)⟩

end frame

theorem perm_of_slots {first second : List LocalVariable}
    (same : ∀ register : UInt32, first.filter (·.slot = register) = second.filter (·.slot = register)) :
    first.Perm second := by
  apply List.perm_iff_count.mpr
  intro entry
  have own := congrArg (List.count entry) (same entry.slot)
  rwa [List.count_filter (by simp), List.count_filter (by simp)] at own

/-- Events that say the same about each register, and agree on whether the source file changes, fit
into a frame together. -/
theorem placed_of_eventsOn {count : UInt32} {events others : List Event}
    (same : ∀ register, eventsOn register events = eventsOn register others)
    (source : (∃ name offset, Event.setSourceFile name offset ∈ others) →
      ∃ name offset, Event.setSourceFile name offset ∈ events)
    (placed : ∀ event ∈ events, event.Placed count) : ∀ event ∈ others, event.Placed count := by
  intro event member
  constructor
  · intro name offset changes
    obtain ⟨_, _, present⟩ := source ⟨name, offset, changes ▸ member⟩
    exact (placed _ present).supported _ _ rfl
  · intro register slot
    have own : event ∈ eventsOn register others :=
      List.mem_filter.mpr ⟨member, decide_eq_true slot⟩
    rw [← same register] at own
    exact (placed event (List.mem_of_mem_filter own)).inside register slot

theorem locals_perm_of_eventsOn {frame : Frame} {arrivals : List Arrival}
    {events others : List Event} {entries : List LocalVariable}
    (known : frame.arrivals? = some arrivals) (fits : frame.insSize ≤ frame.registerCount.toNat)
    (same : ∀ register, eventsOn register events = eventsOn register others)
    (source : (∃ name offset, Event.setSourceFile name offset ∈ others) →
      ∃ name offset, Event.setSourceFile name offset ∈ events)
    (found : frame.locals events = .ok entries) :
    ∃ permuted, frame.locals others = .ok permuted ∧ entries.Perm permuted := by
  have ranges (register : UInt32) : rangesOf register frame.codeSize
      (Live.atEntry frame.registerCount arrivals)[register]? others =
        .ok (entries.filter (·.slot = register)) := by
    rw [← rangesOf_eventsOn, ← same register, rangesOf_eventsOn, rangesOf_locals known found]
  have placed := ((exists_locals_iff known fits).mp ⟨entries, found⟩).1
  obtain ⟨permuted, foundOthers⟩ := (exists_locals_iff known fits).mpr
    ⟨placed_of_eventsOn same source placed, fun register => ⟨_, ranges register⟩⟩
  refine ⟨permuted, foundOthers, perm_of_slots fun register => ?_⟩
  exact Except.ok.inj ((ranges register).symm.trans (rangesOf_locals known foundOthers))

/-- With all parameters named and a fitting frame, events have variables exactly if they all fit
into the frame and the events of each register have variables by themselves. Each register then has
the same variables in the same order as by itself. So only the events about each register matter,
and not how the registers and other events stand between each other. -/
theorem locals_registers_independent (frame : Frame)
    (named : ∀ parameter ∈ frame.parameters, parameter.name.isSome)
    (fits : frame.insSize ≤ frame.registerCount.toNat) :
    (∀ events, (∃ entries, frame.locals events = .ok entries) ↔
      (∀ name offset, Event.setSourceFile name offset ∉ events) ∧
      (∀ event ∈ events, ∀ register ∈ event.register?, register < frame.registerCount) ∧
      ∀ register < frame.registerCount,
        ∃ entries, frame.locals (eventsOn register events) = .ok entries) ∧
    (∀ events entries, frame.locals events = .ok entries → ∀ register,
      ∃ alone, frame.locals (eventsOn register events) = .ok alone ∧
        entries.filter (·.slot = register) = alone.filter (·.slot = register)) ∧
    ∀ events others, (∀ register, eventsOn register events = eventsOn register others) →
      ((∃ name offset, Event.setSourceFile name offset ∈ events) ↔
        ∃ name offset, Event.setSourceFile name offset ∈ others) →
      ((∃ fault, frame.locals events = .error fault) ∧
        ∃ fault, frame.locals others = .error fault) ∨
      ∃ entries permuted, frame.locals events = .ok entries ∧
        frame.locals others = .ok permuted ∧ entries.Perm permuted := by
  obtain ⟨arrivals, known⟩ := exists_arrivals named
  refine ⟨?_, fun events entries found => locals_eventsOn known fits found, ?_⟩
  · intro events
    rw [exists_locals_iff_eventsOn known fits, forall_placed_iff, and_assoc]
  · intro events others same source
    cases found : frame.locals events with
    | ok entries =>
      obtain ⟨permuted, foundOthers, perm⟩ :=
        locals_perm_of_eventsOn known fits same source.mpr found
      exact Or.inr ⟨entries, permuted, rfl, foundOthers, perm⟩
    | error fault =>
      cases foundOthers : frame.locals others with
      | ok permuted =>
        obtain ⟨entries, contrary, -⟩ := locals_perm_of_eventsOn known fits
          (fun register => (same register).symm) source.mp foundOthers
        cases found.symm.trans contrary
      | error other => exact Or.inl ⟨⟨fault, rfl⟩, other, rfl⟩

/-- Two registers in two interleavings, with other events at different places, and a register that
fails by itself. -/
theorem locals_registers_independent_interleaved :
    let frame : Frame := ⟨2, none, [], 9⟩
    let x : Local := ⟨"x", "I", none⟩
    let y : Local := ⟨"y", "S", none⟩
    let events : List Event := [.startLocal 0 x 1, .lineNumber 7 1, .startLocal 1 y 2,
      .endLocal 0 5, .startLocal 0 y 6]
    let others : List Event := [.startLocal 1 y 2, .startLocal 0 x 1, .endLocal 0 5,
      .prologueEnd 3, .startLocal 0 y 6]
    ((∀ parameter ∈ frame.parameters, parameter.name.isSome) ∧
      frame.insSize ≤ frame.registerCount.toNat) ∧
    (∃ alone, frame.locals (eventsOn 0 events) = .ok alone ∧
      [⟨1, 4, "x", "I", 0⟩, ⟨6, 3, "y", "S", 0⟩] = alone.filter (·.slot = 0)) ∧
    (∃ permuted, frame.locals others = .ok permuted ∧
      [⟨1, 4, "x", "I", 0⟩, ⟨6, 3, "y", "S", 0⟩, ⟨2, 7, "y", "S", 1⟩].Perm permuted) ∧
    ¬∃ entries, frame.locals (events ++ [.endLocal 1 8, .endLocal 1 9]) = .ok entries := by
  intro frame x y events others
  have named : ∀ parameter ∈ frame.parameters, parameter.name.isSome := by decide
  have fits : frame.insSize ≤ frame.registerCount.toNat := by decide
  obtain ⟨succeeds, projects, permutes⟩ := locals_registers_independent frame named fits
  have found : frame.locals events =
      .ok [⟨1, 4, "x", "I", 0⟩, ⟨6, 3, "y", "S", 0⟩, ⟨2, 7, "y", "S", 1⟩] := by
    cbv
  refine ⟨⟨named, fits⟩, projects events _ found 0, ?_, ?_⟩
  · have same (register : UInt32) : eventsOn register events = eventsOn register others := by
      by_cases zero : 0 = register
      · subst zero
        decide
      · by_cases one : 1 = register
        · subst one
          decide
        · simp [eventsOn, events, others, Event.register?, zero, one]
    have source : (∃ name offset, Event.setSourceFile name offset ∈ events) ↔
        ∃ name offset, Event.setSourceFile name offset ∈ others := by
      simp [events, others]
    rcases permutes events others same source with failed | succeeded
    · obtain ⟨⟨fault, failed⟩, -⟩ := failed
      cases found.symm.trans failed
    · obtain ⟨entries, permuted, same, foundOthers, perm⟩ := succeeded
      cases found.symm.trans same
      exact ⟨permuted, foundOthers, perm⟩
  · intro whole
    obtain ⟨entries, alone⟩ := ((succeeds _).mp whole).2.2 1 (by decide)
    have failed : frame.locals (eventsOn 1 (events ++ [.endLocal 1 8, .endLocal 1 9])) =
        .error (.undefinedRegister 1 9) := by
      cbv
    cases failed.symm.trans alone

end DebugTables.Dex
