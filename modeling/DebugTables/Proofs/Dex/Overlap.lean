import Mathlib
import DebugTables.Proofs.Dex.Ranges

/-! When the variables of one slot overlap. A range that a local takes over or ends stops there, and
the next range of the register starts at the offset of a later event. So the ranges of a register
follow each other as long as no local comes into it at an offset before the one at which an earlier
local was ended. Events that go back behind such an end give overlapping variables. -/

namespace DebugTables.Dex

/-- A local comes into a register no earlier than at the end of one that was ended before. -/
def Event.InTurn (earlier later : Event) : Prop :=
  match earlier with
  | .endLocal register stop => later.enters? = some register → stop ≤ later.offset
  | _ => True

variable {register codeSize : UInt32} {held : Option Occupant}

theorem start_of_closeHeld {stop : UInt32} {entries : List LocalVariable}
    (ok : closeHeld register stop held = .ok entries) :
    ∀ entry ∈ entries, ∃ occupant ∈ held, entry.start = occupant.start := by
  intro entry member
  obtain ⟨occupant, holds, closed⟩ := close_of_closeHeld ok entry member
  obtain ⟨-, rfl⟩ := close_eq_ok closed
  exact ⟨occupant, holds, rfl⟩

/-- A range starts where its register was entered. -/
theorem start_of_rangesOf {events : List Event} {entries : List LocalVariable}
    (ok : rangesOf register codeSize held events = .ok entries) : ∀ entry ∈ entries,
      (∃ occupant ∈ held, entry.start = occupant.start) ∨
      ∃ event ∈ events, event.enters? = some register ∧ entry.start = event.offset := by
  induction events generalizing held entries with
  | nil => exact fun entry member => Or.inl (start_of_closeHeld ok entry member)
  | cons event rest ih =>
    obtain ⟨first, others, closes, ranges, rfl⟩ := rangesOf_cons_iff.mp ok
    intro entry member
    rcases List.mem_append.mp member with here | later
    · rcases closedIn_cases closes with freed | kept
      · exact Or.inl (start_of_closeHeld freed.2 entry here)
      · rw [kept.2] at here
        cases here
    · rcases ih ranges entry later with before | after
      · obtain ⟨occupant, holds, same⟩ := before
        rcases start_of_heldAfter holds with kept | entered
        · exact Or.inl ⟨occupant, kept, same⟩
        · exact Or.inr ⟨event, List.mem_cons_self .., entered.1, same.trans entered.2⟩
      · obtain ⟨other, member, entered⟩ := after
        exact Or.inr ⟨other, List.mem_cons_of_mem _ member, entered⟩

/-- The ranges after an event that frees their register start at its offset or later, where later
ranges start no earlier than what the event leaves in the register. -/
theorem start_of_freed {event : Event} {rest : List Event} {others : List LocalVariable}
    (frees : event.frees? = some register) (turn : ∀ other ∈ rest, event.InTurn other)
    (ranges : rangesOf register codeSize (heldAfter register held event) rest = .ok others)
    (later : ∀ occupant ∈ heldAfter register held event, ∀ entry ∈ others,
      occupant.start ≤ entry.start) : ∀ entry ∈ others, event.offset ≤ entry.start := by
  intro entry member
  rcases heldAfter_cases register held event with ⟨keeps, -⟩ | ⟨-, -, entered⟩ | ⟨ended, empty⟩
  · exact absurd frees keeps
  · obtain ⟨occupant, start, holds⟩ := entered
    rw [← start]
    exact later occupant holds entry member
  · rcases start_of_rangesOf ranges entry member with before | entered
    · obtain ⟨occupant, holds, -⟩ := before
      rw [empty] at holds
      cases holds
    · obtain ⟨other, member, enters, start⟩ := entered
      have order := turn other member
      rw [ended] at order
      rw [start]
      exact order enters

/-- The ranges of a register follow each other, the first of them where the register holds
something already. -/
theorem rangesOf_chained {events : List Event} {entries : List LocalVariable}
    (turns : events.Pairwise Event.InTurn)
    (ok : rangesOf register codeSize held events = .ok entries) :
    entries.Pairwise (fun first second => first.stop ≤ second.start.toNat) ∧
      ∀ occupant ∈ held, ∀ entry ∈ entries, occupant.start ≤ entry.start := by
  induction events generalizing held entries with
  | nil =>
    cases held with
    | none =>
      cases ok
      exact ⟨.nil, nofun⟩
    | some occupant =>
      have start := start_of_closeHeld ok
      obtain ⟨closed, -, rfl⟩ := closeHeld_some_iff.mp ok
      refine ⟨List.pairwise_singleton _ _, ?_⟩
      intro present holds entry member
      obtain ⟨other, same, start⟩ := start entry member
      rw [start, Option.mem_unique holds same]
      exact UInt32.le_refl _
  | cons event rest ih =>
    obtain ⟨first, others, closes, ranges, rfl⟩ := rangesOf_cons_iff.mp ok
    obtain ⟨turn, turns⟩ := List.pairwise_cons.mp turns
    obtain ⟨chained, later⟩ := ih turns ranges
    rcases closedIn_cases closes with freed | kept
    · have after := start_of_freed freed.1 turn ranges later
      cases held with
      | none =>
        cases freed.2
        exact ⟨chained, nofun⟩
      | some occupant =>
        obtain ⟨closed, ended, rfl⟩ := closeHeld_some_iff.mp freed.2
        have stop := stop_of_close ended
        obtain ⟨forward, same⟩ := close_eq_ok ended
        refine ⟨List.pairwise_cons.mpr ⟨?_, chained⟩, ?_⟩
        · intro entry member
          rw [stop]
          exact UInt32.le_iff_toNat_le.mp (after entry member)
        · intro present holds entry member
          cases Option.mem_def.mp holds
          rcases List.mem_cons.mp member with here | member
          · rw [here, same]
            exact UInt32.le_refl _
          · exact UInt32.le_trans forward (after entry member)
    · rw [kept.2, List.nil_append]
      exact ⟨chained, fun occupant holds => later occupant (mem_heldAfter kept.1 holds)⟩

theorem pairwise_of_slots {relation : LocalVariable → LocalVariable → Prop}
    {entries : List LocalVariable}
    (each : ∀ register : UInt32, (entries.filter (·.slot = register)).Pairwise relation) :
    entries.Pairwise fun first second => first.slot = second.slot → relation first second := by
  apply List.pairwise_iff_getElem.mpr
  intro i j before after order same
  have own := List.pairwise_filter.mp (each entries[j].slot)
  exact List.pairwise_iff_getElem.mp own i j before after order (decide_eq_true same)
    (decide_eq_true rfl)

/-- Variables of one slot have no offset in common, whatever the order of the events, if no local
comes into a register before the end of one that was ended there. -/
theorem locals_apart_of_inTurn (frame : Frame) (events : List Event) (entries : List LocalVariable)
    (found : frame.locals events = .ok entries) (turns : events.Pairwise Event.InTurn) :
    entries.Pairwise fun first second =>
      ∀ register offset, ¬(first.LivesAt register offset ∧ second.LivesAt register offset) := by
  cases known : frame.arrivals? with
  | none =>
    rw [Frame.locals, known] at found
    cases found
    exact .nil
  | some arrivals =>
    have chained : entries.Pairwise fun first second =>
        first.slot = second.slot → first.stop ≤ second.start.toNat :=
      pairwise_of_slots fun register => (rangesOf_chained turns (rangesOf_locals known found)).1
    apply chained.imp
    intro first second follows register offset both
    have stop := follows (both.1.1.trans both.2.1.symm)
    have inside := both.1.2.2
    have start := UInt32.le_iff_toNat_le.mp both.2.2.1
    omega

/-- Two registers whose offsets go back between each other, but not in either of them. -/
theorem locals_apart_of_inTurn_interleaved :
    let frame : Frame := ⟨2, none, [], 20⟩
    let x : Local := ⟨"x", "I", none⟩
    let events : List Event :=
      [.startLocal 0 x 5, .endLocal 0 10, .startLocal 1 x 2, .restartLocal 0 x 10]
    (frame.locals events =
        .ok [⟨5, 5, "x", "I", 0⟩, ⟨10, 10, "x", "I", 0⟩, ⟨2, 18, "x", "I", 1⟩] ∧
      events.Pairwise Event.InTurn) ∧
    [⟨5, 5, "x", "I", 0⟩, ⟨10, 10, "x", "I", 0⟩, ⟨2, 18, "x", "I", 1⟩].Pairwise
      fun first second : LocalVariable =>
        ∀ register offset, ¬(first.LivesAt register offset ∧ second.LivesAt register offset) := by
  intro frame x events
  have found : frame.locals events =
      .ok [⟨5, 5, "x", "I", 0⟩, ⟨10, 10, "x", "I", 0⟩, ⟨2, 18, "x", "I", 1⟩] := by
    cbv
  have turns : events.Pairwise Event.InTurn := by
    simp [events, Event.InTurn, Event.enters?, Event.offset]
  exact ⟨⟨found, turns⟩, locals_apart_of_inTurn frame events _ found turns⟩

/-- A local that starts at offset 7 in a register whose last local was ended at offset 10: both live
at offset 8. -/
theorem locals_overlap_backwards :
    let frame : Frame := ⟨1, none, [], 20⟩
    let events : List Event :=
      [.startLocal 0 ⟨"x", "I", none⟩ 5, .endLocal 0 10, .startLocal 0 ⟨"y", "I", none⟩ 7]
    ∃ entries, frame.locals events = .ok entries ∧ ¬entries.Pairwise fun first second =>
      ∀ register offset, ¬(first.LivesAt register offset ∧ second.LivesAt register offset) := by
  intro frame events
  have found : frame.locals events = .ok [⟨5, 5, "x", "I", 0⟩, ⟨7, 13, "y", "I", 0⟩] := by
    cbv
  refine ⟨_, found, ?_⟩
  intro apart
  have none := (List.pairwise_cons.mp apart).1 _ (List.mem_cons_self ..) 0 8
  exact none (by decide)

end DebugTables.Dex
