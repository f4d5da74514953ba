import Mathlib
import DebugTables.Proofs.Dex.Execution
import DebugTables.Proofs.Dex.Ranges

/-! The variables of a method, point by point. Execution gives the events in the order of their
offsets, and for events in that order the variables that live in a register at an offset are what
the register holds there. -/

namespace DebugTables.Dex

/-- The occupants of the variables that live in a register at an offset. -/
def living (register offset : UInt32) (entries : List LocalVariable) : List Occupant :=
  (entries.filter (·.LivesAt register offset)).map fun entry =>
    ⟨entry.start, entry.name, entry.descriptor⟩

/-- An occupant where it has started already. -/
def startedAt (offset : UInt32) (held : Option Occupant) : List Occupant :=
  (held.filter (·.start ≤ offset)).toList

/-- What a register holds at an offset and gives up later, where an event frees it or at the end of
the code. -/
def carriedAt (register offset codeSize : UInt32) (held : Option Occupant) (events : List Event) :
    Option Occupant :=
  if offset < codeSize ∨ ∃ event ∈ events, event.frees? = some register ∧ offset < event.offset then
    heldAt register offset held events
  else none

variable {register offset codeSize : UInt32} {held : Option Occupant}

theorem living_append (first second : List LocalVariable) :
    living register offset (first ++ second) =
      living register offset first ++ living register offset second := by
  rw [living, List.filter_append, List.map_append]
  rfl

theorem startedAt_some (occupant : Occupant) :
    startedAt offset (some occupant) = if occupant.start ≤ offset then [occupant] else [] := by
  unfold startedAt
  by_cases started : occupant.start ≤ offset <;> simp [Option.filter, started]

theorem startedAt_eq_toList
    (started : ∀ occupant ∈ held, occupant.start ≤ offset) :
    startedAt offset held = held.toList := by
  cases held with
  | none => rfl
  | some occupant => rw [startedAt_some, if_pos (started occupant rfl)]; rfl

theorem living_filter_slot (entries : List LocalVariable) :
    living register offset (entries.filter (·.slot = register)) = living register offset entries := by
  rw [living, living, List.filter_filter]
  congr 2
  funext entry
  rw [← Bool.decide_and]
  exact decide_eq_decide.mpr ⟨And.left, fun lives => ⟨lives, lives.1⟩⟩

/-- What lives in the range that is closed in a register is what the register held. -/
theorem living_closeHeld {stop : UInt32} {entries : List LocalVariable}
    (ok : closeHeld register stop held = .ok entries) :
    living register offset entries = if offset < stop then startedAt offset held else [] := by
  cases held with
  | none =>
    cases ok
    exact (ite_self []).symm
  | some occupant =>
    obtain ⟨entry, closed, rfl⟩ := closeHeld_some_iff.mp ok
    have lives := @livesAt_close register offset _ _ _ _ closed
    obtain ⟨-, rfl⟩ := close_eq_ok closed
    rw [startedAt_some, ← ite_and, living]
    by_cases inside : offset < stop ∧ occupant.start ≤ offset
    · rw [if_pos inside, List.filter_singleton, decide_eq_true (lives.mpr ⟨rfl, inside.symm⟩)]
      rfl
    · rw [if_neg inside, List.filter_singleton,
        decide_eq_false fun alive => inside (lives.mp alive).2.symm]
      rfl

/-- An event closes a range in a register only if it frees it, and then the range ends there. -/
theorem living_closedIn {event : Event} {closed : List LocalVariable}
    (ok : closedIn register held event = .ok closed) : living register offset closed =
      if event.frees? = some register ∧ offset < event.offset then startedAt offset held else [] := by
  rcases closedIn_cases ok with ⟨frees, closes⟩ | ⟨keeps, none⟩
  · rw [living_closeHeld closes]
    simp only [frees, true_and]
  · rw [none, if_neg fun both => keeps both.1]
    rfl

/-- An event after an offset keeps what has started by then, unless it frees the register. -/
theorem startedAt_heldAfter {event : Event} (later : offset < event.offset) :
    startedAt offset (heldAfter register held event) =
      if event.frees? = some register then [] else startedAt offset held := by
  rcases heldAfter_cases register held event with ⟨keeps, kept⟩ | ⟨-, free, entered⟩ | ⟨ended, empty⟩
  · rw [kept, if_neg keeps]
  · obtain ⟨occupant, start, entered⟩ := entered
    have unstarted : startedAt offset (some occupant) = [] := by
      rw [startedAt_some, if_neg]
      exact start ▸ UInt32.not_le.mpr later
    rw [entered, unstarted]
    rcases free with frees | none
    · rw [if_pos frees]
    · rw [none]
      exact (ite_self []).symm
  · have frees : event.frees? = some register := ended ▸ rfl
    rw [empty, if_pos frees]
    rfl

theorem started_heldAfter {event : Event} (reached : event.offset ≤ offset)
    (started : ∀ occupant ∈ held, occupant.start ≤ offset) :
    ∀ occupant ∈ heldAfter register held event, occupant.start ≤ offset := by
  intro occupant holds
  rcases start_of_heldAfter holds with before | ⟨-, start⟩
  · exact started occupant before
  · rw [start]
    exact reached

/-- Events after an offset close what has started by then, and nothing that they start has. -/
theorem living_later {events : List Event} {entries : List LocalVariable}
    (later : ∀ event ∈ events, offset < event.offset)
    (ok : rangesOf register codeSize held events = .ok entries) :
    living register offset entries =
      if offset < codeSize ∨ ∃ event ∈ events, event.frees? = some register then
        startedAt offset held
      else [] := by
  induction events generalizing held entries with
  | nil => simp [living_closeHeld ok]
  | cons event rest ih =>
    obtain ⟨first, others, closes, ranges, rfl⟩ := rangesOf_cons_iff.mp ok
    have after := later event (List.mem_cons_self ..)
    have rest := ih (fun event member => later event (List.mem_cons_of_mem _ member)) ranges
    rw [living_append, rest, living_closedIn closes, startedAt_heldAfter after]
    by_cases frees : event.frees? = some register
    · simp [frees, after]
    · simp [frees]

/-- At every offset exactly what a register carries lives in it. -/
theorem living_rangesOf {events : List Event} {entries : List LocalVariable}
    (ordered : events.Pairwise (·.offset ≤ ·.offset))
    (started : ∀ occupant ∈ held, occupant.start ≤ offset)
    (ok : rangesOf register codeSize held events = .ok entries) :
    living register offset entries = (carriedAt register offset codeSize held events).toList := by
  induction events generalizing held entries with
  | nil =>
    rw [living_closeHeld ok, startedAt_eq_toList started, carriedAt]
    by_cases inside : offset < codeSize <;> simp [inside, heldAt]
  | cons event rest ih =>
    obtain ⟨first, ordered⟩ := List.pairwise_cons.mp ordered
    -- As long as events are reached, what they close has ended before the offset. From the first
    -- later event on all are later, and nothing that they start has started by the offset.
    by_cases reached : event.offset ≤ offset
    · obtain ⟨here, others, closes, ranges, rfl⟩ := rangesOf_cons_iff.mp ok
      have past : ¬(event.frees? = some register ∧ offset < event.offset) := by
        intro both
        exact UInt32.not_lt.mpr reached both.2
      rw [living_append, living_closedIn closes, if_neg past, List.nil_append,
        ih ordered (started_heldAfter reached started) ranges, carriedAt, carriedAt,
        heldAt_cons_reached reached]
      simp [past]
    · have after := UInt32.not_le.mp reached
      have later : ∀ other ∈ event :: rest, offset < other.offset := by
        intro other member
        rcases List.mem_cons.mp member with same | member
        · rw [same]
          exact after
        · exact UInt32.lt_of_lt_of_le after (first other member)
      have freed_iff : (∃ other ∈ event :: rest, other.frees? = some register ∧
          offset < other.offset) ↔ ∃ other ∈ event :: rest, other.frees? = some register :=
        exists_congr fun other => and_congr_right fun member => and_iff_left (later other member)
      rw [living_later later ok, startedAt_eq_toList started, carriedAt, heldAt_later later]
      simp only [freed_iff, apply_ite Option.toList, Option.toList_none]

theorem living_locals_carried {frame : Frame} {arrivals : List Arrival} {events : List Event}
    {entries : List LocalVariable} (register offset : UInt32)
    (known : frame.arrivals? = some arrivals) (ordered : events.Pairwise (·.offset ≤ ·.offset))
    (found : frame.locals events = .ok entries) :
    living register offset entries = (carriedAt register offset frame.codeSize
      (Live.atEntry frame.registerCount arrivals)[register]? events).toList := by
  rw [← living_filter_slot]
  apply living_rangesOf ordered _ (rangesOf_locals known found)
  intro occupant held
  rw [start_atEntry held]
  exact UInt32.zero_le

theorem living_locals {frame : Frame} {arrivals : List Arrival} {events : List Event}
    {entries : List LocalVariable} {register offset : UInt32}
    (known : frame.arrivals? = some arrivals) (ordered : events.Pairwise (·.offset ≤ ·.offset))
    (found : frame.locals events = .ok entries) (inside : offset < frame.codeSize) :
    living register offset entries =
      (heldAt register offset (Live.atEntry frame.registerCount arrivals)[register]?
        events).toList := by
  rw [living_locals_carried register offset known ordered found, carriedAt, if_pos (Or.inl inside)]

/-- Decoded events come in the order of their offsets. For events in that order, at every offset
of the code, a register that holds something has exactly one variable there, which says what it
holds and since when, and an empty one has none. -/
theorem locals_live_pointwise :
    (∀ pools bytes info, DebugInfo.decode pools bytes = .ok info →
      info.events.Pairwise (·.offset ≤ ·.offset)) ∧
    ∀ frame : Frame, (∀ parameter ∈ frame.parameters, parameter.name.isSome) →
      ∀ events entries, events.Pairwise (·.offset ≤ ·.offset) →
        frame.locals events = .ok entries →
        ∀ register offset, register < frame.registerCount → offset < frame.codeSize →
          match heldAt register offset (frame.entered.lookup register) events with
          | some occupant => ∃ entry, entries.filter (·.LivesAt register offset) = [entry] ∧
              entry.name = occupant.name ∧ entry.descriptor = occupant.descriptor ∧
              entry.start = occupant.start
          | none => ∀ entry ∈ entries, ¬entry.LivesAt register offset := by
  refine ⟨fun _ _ _ => ordered_of_decode, ?_⟩
  intro frame named events entries ordered found register offset _ inside
  obtain ⟨arrivals, known⟩ := exists_arrivals named
  obtain ⟨fits, -⟩ := (locals_eq_ok_iff known).mp found
  have lives := @living_locals _ _ _ _ register offset known ordered found inside
  rw [getElem?_atEntry known fits] at lives
  split
  · next occupant held =>
    rw [held, living, Option.toList_some, List.map_eq_singleton_iff] at lives
    rcases lives with ⟨entry, alone, same⟩
    refine ⟨entry, alone, ?_⟩
    rw [← same]
    exact ⟨rfl, rfl, rfl⟩
  · next empty =>
    rw [empty, living, Option.toList_none, List.map_eq_nil_iff, List.filter_eq_nil_iff] at lives
    simpa using lives

/-- An instance method of a long and a double. A local of the first register is taken over, ended and
restarted, the receiver is ended, long and double live on, and their second registers are empty. -/
theorem locals_live_pointwise_restarted :
    let frame : Frame := ⟨6, some "LA;", [⟨"J", some "n", none⟩, ⟨"D", some "d", none⟩], 9⟩
    let x : Local := ⟨"x", "I", none⟩
    let y : Local := ⟨"y", "S", none⟩
    let events : List Event := [.startLocal 0 x 1, .startLocal 0 y 3, .endLocal 0 5, .endLocal 1 5,
      .restartLocal 0 y 7]
    let entries : List LocalVariable := [⟨1, 2, "x", "I", 0⟩, ⟨3, 2, "y", "S", 0⟩,
      ⟨0, 5, "this", "LA;", 1⟩, ⟨7, 2, "y", "S", 0⟩, ⟨0, 9, "n", "J", 2⟩, ⟨0, 9, "d", "D", 4⟩]
    (DebugInfo.decode ⟨["x", "y"], ["I", "S"]⟩
        [0, 0, 1, 1, 3, 0, 1, 1, 1, 2, 3, 0, 2, 2, 1, 2, 5, 0, 5, 1, 1, 2, 6, 0, 0] =
      .ok ⟨0, [], events⟩ ∧ events.Pairwise (·.offset ≤ ·.offset) ∧
      (∀ parameter ∈ frame.parameters, parameter.name.isSome) ∧
      frame.locals events = .ok entries) ∧
    (∃ entry, entries.filter (·.LivesAt 0 4) = [entry] ∧
      entry.name = "y" ∧ entry.descriptor = "S" ∧ entry.start = 3) ∧
    (∀ entry ∈ entries, ¬entry.LivesAt 0 6) ∧
    (∃ entry, entries.filter (·.LivesAt 1 4) = [entry] ∧
      entry.name = "this" ∧ entry.descriptor = "LA;" ∧ entry.start = 0) ∧
    (∀ entry ∈ entries, ¬entry.LivesAt 1 5) ∧
    (∃ entry, entries.filter (·.LivesAt 2 8) = [entry] ∧
      entry.name = "n" ∧ entry.descriptor = "J" ∧ entry.start = 0) ∧
    (∀ entry ∈ entries, ¬entry.LivesAt 3 8) ∧
    (∃ entry, entries.filter (·.LivesAt 4 8) = [entry] ∧
      entry.name = "d" ∧ entry.descriptor = "D" ∧ entry.start = 0) ∧
    ∀ entry ∈ entries, ¬entry.LivesAt 5 8 := by
  intro frame x y events entries
  have decoded : DebugInfo.decode ⟨["x", "y"], ["I", "S"]⟩
      [0, 0, 1, 1, 3, 0, 1, 1, 1, 2, 3, 0, 2, 2, 1, 2, 5, 0, 5, 1, 1, 2, 6, 0, 0] =
      .ok ⟨0, [], events⟩ := by
    cbv
  have ordered := locals_live_pointwise.1 _ _ _ decoded
  have named : ∀ parameter ∈ frame.parameters, parameter.name.isSome := by decide
  have found : frame.locals events = .ok entries := by cbv
  have lives := locals_live_pointwise.2 frame named events entries ordered found
  have entered : frame.entered =
      [(1, ⟨0, "this", "LA;"⟩), (2, ⟨0, "n", "J"⟩), (4, ⟨0, "d", "D"⟩)] := by
    cbv
  rw [entered] at lives
  exact ⟨⟨decoded, ordered, named, found⟩, lives 0 4 (by decide) (by decide),
    lives 0 6 (by decide) (by decide), lives 1 4 (by decide) (by decide),
    lives 1 5 (by decide) (by decide), lives 2 8 (by decide) (by decide),
    lives 3 8 (by decide) (by decide), lives 4 8 (by decide) (by decide),
    lives 5 8 (by decide) (by decide)⟩

end DebugTables.Dex
