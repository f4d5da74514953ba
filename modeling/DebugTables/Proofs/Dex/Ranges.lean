import Mathlib
import DebugTables.Proofs.Dex.Closing
import DebugTables.Proofs.Dex.Entry

/-! The variables of one register. A register that is followed alone through the events has the
ranges that the run of all registers closes in it, in the same order, and the run succeeds exactly
if every event fits into the frame and every register succeeds alone. -/

namespace DebugTables.Dex

/-- The range that an event closes in one register, where `held` is what that register holds. -/
def closedIn (register : UInt32) (held : Option Occupant) (event : Event) :
    Except ReconstructionError (List LocalVariable) :=
  if event.register? = some register then closedBy held event else .ok []

/-- The variables of one register, which is followed alone through the events to the end of the
code. -/
def rangesOf (register codeSize : UInt32) (held : Option Occupant) :
    List Event → Except ReconstructionError (List LocalVariable)
  | [] => closeHeld register codeSize held
  | event :: rest => do
    let first ← closedIn register held event
    let others ← rangesOf register codeSize (heldAfter register held event) rest
    return first ++ others

variable {register codeSize : UInt32} {held : Option Occupant}

theorem rangesOf_cons_iff {event : Event} {rest : List Event} {entries : List LocalVariable} :
    rangesOf register codeSize held (event :: rest) = .ok entries ↔
      ∃ first others, closedIn register held event = .ok first ∧
        rangesOf register codeSize (heldAfter register held event) rest = .ok others ∧
        entries = first ++ others :=
  append_eq_ok_iff

/-- What an event closes in a register ends at its offset, and the register is freed. -/
theorem closedIn_cases {event : Event} {entries : List LocalVariable}
    (ok : closedIn register held event = .ok entries) :
    event.frees? = some register ∧ closeHeld register event.offset held = .ok entries ∨
      event.frees? ≠ some register ∧ entries = [] := by
  by_cases own : event.register? = some register
  · rw [closedIn, if_pos own] at ok
    rcases closedBy_cases ok with ⟨freed, frees, closes⟩ | ⟨keeps, none⟩
    · have same := (Event.register?_of_frees frees).symm.trans own
      cases same
      exact Or.inl ⟨frees, closes⟩
    · exact Or.inr ⟨keeps ▸ nofun, none⟩
  · rw [closedIn, if_neg own] at ok
    exact Or.inr ⟨fun frees => own (Event.register?_of_frees frees), (Except.ok.inj ok).symm⟩

theorem close_of_closeHeld {stop : UInt32} {entries : List LocalVariable}
    (ok : closeHeld register stop held = .ok entries) :
    ∀ entry ∈ entries, ∃ occupant ∈ held, occupant.close register stop = .ok entry := by
  intro entry member
  cases held with
  | none =>
    cases ok
    cases member
  | some occupant =>
    obtain ⟨closed, ended, rfl⟩ := closeHeld_some_iff.mp ok
    cases List.mem_singleton.mp member
    exact ⟨occupant, rfl, ended⟩

theorem slot_of_closedBy {event : Event} {entries : List LocalVariable}
    (ok : closedBy held event = .ok entries) :
    ∀ entry ∈ entries, event.register? = some entry.slot := by
  intro entry member
  rcases closedBy_cases ok with ⟨register, frees, closes⟩ | ⟨-, none⟩
  · obtain ⟨occupant, -, closed⟩ := close_of_closeHeld closes entry member
    obtain ⟨-, rfl⟩ := close_eq_ok closed
    exact Event.register?_of_frees frees
  · rw [none] at member
    cases member

/-- Of what an event closes, each register has what it closes there alone. -/
theorem closedIn_of_closing {live : Live} {count : UInt32} {event : Event}
    {closed : List LocalVariable} (ok : live.closing count event = .ok closed) :
    closedIn register live[register]? event = .ok (closed.filter (·.slot = register)) := by
  have closes := (closing_eq_ok_iff.mp ok).2
  have slots := slot_of_closedBy closes
  by_cases own : event.register? = some register
  · rw [heldBy_of_register own] at closes
    have all : closed.filter (·.slot = register) = closed := by
      apply List.filter_eq_self.mpr
      intro entry member
      have same := (slots entry member).symm.trans own
      exact decide_eq_true (Option.some.inj same)
    rw [closedIn, if_pos own, all, closes]
  · have none : closed.filter (·.slot = register) = [] := by
      apply List.filter_eq_nil_iff.mpr
      intro entry member same
      rw [decide_eq_true_eq] at same
      exact own (same ▸ slots entry member)
    rw [closedIn, if_neg own, none]

theorem closeHeld_of_finish {live : Live} {remaining : List LocalVariable}
    (finished : live.finish codeSize = .ok remaining) :
    closeHeld register codeSize live[register]? = .ok (remaining.filter (·.slot = register)) := by
  have each := mapM_eq_ok_iff.mp finished
  have slots : Relator.LiftFun
      (fun (entry : UInt32 × Occupant) (closed : LocalVariable) =>
        entry.2.close entry.1 codeSize = .ok closed) (· ↔ ·)
      (fun entry => decide (entry.1 = register)) (fun closed => decide (closed.slot = register)) := by
    intro entry closed ok
    obtain ⟨-, rfl⟩ := close_eq_ok ok
    rfl
  have own := List.rel_filter slots each
  rw [TreeMap.filter_toList] at own
  cases held : live[register]? with
  | none =>
    rw [held, Option.toList_none, List.map_nil, List.forall₂_nil_left_iff] at own
    rw [own]
    rfl
  | some occupant =>
    rw [held] at own
    obtain ⟨closed, others, ok, none, same⟩ := List.forall₂_cons_left_iff.mp own
    rw [same, List.forall₂_nil_left_iff.mp none]
    exact closeHeld_some_iff.mpr ⟨closed, ok, rfl⟩

/-- Of what a run closes, each register has what it closes alone. -/
theorem rangesOf_run {live : Live} {count : UInt32} {events : List Event}
    {closed remaining : List LocalVariable} (ok : live.closings count events = .ok closed)
    (finished : (live.after events).finish codeSize = .ok remaining) :
    rangesOf register codeSize live[register]? events =
      .ok ((closed ++ remaining).filter (·.slot = register)) := by
  induction events generalizing live closed with
  | nil =>
    cases ok
    exact closeHeld_of_finish finished
  | cons event rest ih =>
    obtain ⟨first, others, closing, closings, rfl⟩ := closings_cons_iff.mp ok
    have later := ih closings finished
    rw [getElem?_next] at later
    apply rangesOf_cons_iff.mpr ⟨_, _, closedIn_of_closing closing, later, _⟩
    rw [← List.filter_append, List.append_assoc]

theorem placed_of_closings {live : Live} {count : UInt32} {events : List Event}
    {closed : List LocalVariable} (ok : live.closings count events = .ok closed) :
    ∀ event ∈ events, event.Placed count := by
  induction events generalizing live closed with
  | nil => simp
  | cons event rest ih =>
    obtain ⟨first, others, closing, closings, -⟩ := closings_cons_iff.mp ok
    intro other member
    rcases List.mem_cons.mp member with same | later
    · rw [same]
      exact (closing_eq_ok_iff.mp closing).1
    · exact ih closings other later

theorem exists_closing {live : Live} {count : UInt32} {event : Event} (placed : event.Placed count)
    (each : ∀ register, ∃ part, closedIn register live[register]? event = .ok part) :
    ∃ closed, live.closing count event = .ok closed := by
  cases slot : event.register? with
  | none =>
    exact ⟨[], closing_eq_ok_iff.mpr ⟨placed, closedBy_of_no_register slot⟩⟩
  | some register =>
    obtain ⟨part, closes⟩ := each register
    rw [closedIn, if_pos slot] at closes
    refine ⟨part, closing_eq_ok_iff.mpr ⟨placed, ?_⟩⟩
    rw [heldBy_of_register slot]
    exact closes

theorem exists_finish {live : Live}
    (each : ∀ register, ∃ part, closeHeld register codeSize live[register]? = .ok part) :
    ∃ remaining, live.finish codeSize = .ok remaining := by
  apply exists_mapM_eq_ok
  intro entry member
  have held := Std.ExtTreeMap.mem_toList_iff_getElem?_eq_some.mp member
  obtain ⟨part, closes⟩ := each entry.1
  rw [held] at closes
  obtain ⟨closed, ok, -⟩ := closeHeld_some_iff.mp closes
  exact ⟨closed, ok⟩

/-- What lives to the end of the code has to start by then. -/
theorem exists_finish_iff {live : Live} : (∃ remaining, live.finish codeSize = .ok remaining) ↔
    ∀ (register : UInt32) (occupant : Occupant), live[register]? = some occupant →
      occupant.start ≤ codeSize := by
  constructor
  · rintro ⟨remaining, finished⟩ register occupant held
    have closes : closeHeld register codeSize live[register]? = _ := closeHeld_of_finish finished
    rw [held] at closes
    obtain ⟨entry, closed, -⟩ := closeHeld_some_iff.mp closes
    exact exists_close_iff.mp ⟨entry, closed⟩
  · intro covered
    apply exists_finish
    intro register
    cases held : live[register]? with
    | none => exact ⟨[], rfl⟩
    | some occupant =>
      obtain ⟨entry, closed⟩ := exists_close_iff.mpr (covered register occupant held)
      exact ⟨[entry], closeHeld_some_iff.mpr ⟨entry, closed, rfl⟩⟩

/-- A run succeeds if every event fits into the frame and every register succeeds alone. -/
theorem exists_run {live : Live} {count : UInt32} {events : List Event}
    (placed : ∀ event ∈ events, event.Placed count)
    (each : ∀ register, ∃ part, rangesOf register codeSize live[register]? events = .ok part) :
    ∃ closed remaining, live.closings count events = .ok closed ∧
      (live.after events).finish codeSize = .ok remaining := by
  induction events generalizing live with
  | nil =>
    obtain ⟨remaining, finished⟩ := exists_finish each
    exact ⟨[], remaining, rfl, finished⟩
  | cons event rest ih =>
    have here : ∃ first, live.closing count event = .ok first := by
      apply exists_closing (placed event (List.mem_cons_self ..))
      intro register
      obtain ⟨part, ok⟩ := each register
      obtain ⟨first, -, closes, -, -⟩ := rangesOf_cons_iff.mp ok
      exact ⟨first, closes⟩
    have later : ∃ closed remaining, (live.next event).closings count rest = .ok closed ∧
        ((live.next event).after rest).finish codeSize = .ok remaining := by
      apply ih fun event member => placed event (List.mem_cons_of_mem _ member)
      intro register
      obtain ⟨part, ok⟩ := each register
      obtain ⟨-, others, -, ranges, -⟩ := rangesOf_cons_iff.mp ok
      rw [getElem?_next]
      exact ⟨others, ranges⟩
    obtain ⟨first, closing⟩ := here
    obtain ⟨closed, remaining, closings, finished⟩ := later
    exact ⟨_, remaining, closings_cons_iff.mpr ⟨first, closed, closing, closings, rfl⟩, finished⟩

/-- Whatever a register is entered with can live to the end of the code. -/
theorem exists_closeHeld_atEntry (count : UInt32) (arrivals : List Arrival) :
    ∃ part, closeHeld register codeSize (Live.atEntry count arrivals)[register]? = .ok part := by
  cases held : (Live.atEntry count arrivals)[register]? with
  | none => exact ⟨[], rfl⟩
  | some occupant =>
    have forward : ¬codeSize < occupant.start := by
      rw [start_atEntry held]
      exact UInt32.not_lt.mpr UInt32.zero_le
    exact ⟨_, closeHeld_some_iff.mpr ⟨_, if_neg forward, rfl⟩⟩

section frame

variable {frame : Frame} {arrivals : List Arrival} {events : List Event}

theorem rangesOf_locals {entries : List LocalVariable} (known : frame.arrivals? = some arrivals)
    (found : frame.locals events = .ok entries) :
    rangesOf register frame.codeSize (Live.atEntry frame.registerCount arrivals)[register]? events =
      .ok (entries.filter (·.slot = register)) := by
  obtain ⟨-, closed, remaining, closings, finished, rfl⟩ := (locals_eq_ok_iff known).mp found
  exact rangesOf_run closings finished

theorem exists_locals_iff (known : frame.arrivals? = some arrivals)
    (fits : frame.insSize ≤ frame.registerCount.toNat) :
    (∃ entries, frame.locals events = .ok entries) ↔
      (∀ event ∈ events, event.Placed frame.registerCount) ∧
      ∀ register, ∃ part, rangesOf register frame.codeSize
        (Live.atEntry frame.registerCount arrivals)[register]? events = .ok part := by
  constructor
  · intro found
    obtain ⟨entries, found⟩ := found
    obtain ⟨-, closed, remaining, closings, -, -⟩ := (locals_eq_ok_iff known).mp found
    exact ⟨placed_of_closings closings, fun register => ⟨_, rangesOf_locals known found⟩⟩
  · intro parts
    obtain ⟨closed, remaining, closings, finished⟩ := exists_run parts.1 parts.2
    exact ⟨_, (locals_eq_ok_iff known).mpr ⟨fits, closed, remaining, closings, finished, rfl⟩⟩

end frame

end DebugTables.Dex
