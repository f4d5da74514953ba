import Mathlib
import DebugTables.Proofs.Dex.Closing
import DebugTables.Proofs.Dex.Entry

/-! Every range that opens closes exactly once. What a method is entered with, each start of a local
and each restart in an empty register opens a range, and the variables of the method are these
ranges in the order in which they close. -/

namespace DebugTables.Dex
open scoped List

/-- The events from the first on that frees the register, none if it stays as it is. -/
def freedFrom (register : UInt32) (events : List Event) : List Event :=
  events.dropWhile (·.frees? ≠ some register)

/-- A range where it opens: what its register holds from then on, and the events from the one that
closes the range on. -/
structure Opening where
  register : UInt32
  occupant : Occupant
  ending : List Event

namespace Opening

/-- The offset at which the range closes. -/
def stop (codeSize : UInt32) (opening : Opening) : UInt32 :=
  match opening.ending with
  | [] => codeSize
  | event :: _ => event.offset

/-- The order of closing. Of two events of a stream the earlier one has more events left from it on.
Ranges that no event closes come last, by their registers. -/
def Before (first second : Opening) : Prop :=
  second.ending.length < first.ending.length ∨
    first.ending = [] ∧ second.ending = [] ∧ first.register < second.register

/-- The variable of a range. -/
structure Gives (codeSize : UInt32) (opening : Opening) (entry : LocalVariable) : Prop where
  slot : entry.slot = opening.register
  start : entry.start = opening.occupant.start
  name : entry.name = opening.occupant.name
  descriptor : entry.descriptor = opening.occupant.descriptor
  stop : entry.start.toNat + entry.length.toNat = (opening.stop codeSize).toNat

/-- The range of an occupant before the events. -/
def before (events : List Event) (entry : UInt32 × Occupant) : Opening :=
  ⟨entry.1, entry.2, freedFrom entry.1 events⟩

end Opening

/-- What an event puts into which register. A restart needs an empty register. -/
def Event.opens? (held : UInt32 → Option Occupant) : Event → Option (UInt32 × Occupant)
  | .startLocal register info offset => some (register, ⟨offset, info.name, info.descriptor⟩)
  | .restartLocal register info offset =>
    if held register = none then some (register, ⟨offset, info.name, info.descriptor⟩) else none
  | _ => none

/-- The ranges that events open, where `held` is what the registers hold before them. -/
def openings (held : UInt32 → Option Occupant) : List Event → List Opening
  | [] => []
  | event :: rest =>
    (event.opens? held).toList.map (Opening.before rest) ++
      openings (fun register => heldAfter register (held register) event) rest

/-- The ranges that a method is entered with, and those that its events open. -/
def Frame.openings (frame : Frame) (events : List Event) : List Opening :=
  frame.entered.map (Opening.before events) ++
    Dex.openings (fun register => frame.entered.lookup register) events

theorem before_cons_other {event : Event} {entry : UInt32 × Occupant}
    (other : event.frees? ≠ some entry.1) (rest : List Event) :
    Opening.before (event :: rest) entry = Opening.before rest entry := by
  simp [Opening.before, freedFrom, other]

theorem freedFrom_cons_self {event : Event} {register : UInt32}
    (frees : event.frees? = some register) (rest : List Event) :
    freedFrom register (event :: rest) = event :: rest := by
  simp [freedFrom, frees]

theorem ending_before_le (events : List Event) (entry : UInt32 × Occupant) :
    (Opening.before events entry).ending.length ≤ events.length :=
  (List.dropWhile_sublist _).length_le

theorem ending_openings_le {held : UInt32 → Option Occupant} {events : List Event} :
    ∀ opening ∈ openings held events, opening.ending.length ≤ events.length := by
  induction events generalizing held with
  | nil => simp [openings]
  | cons event rest ih =>
    intro opening member
    have shorter : rest.length ≤ (event :: rest).length := Nat.le_succ _
    rcases List.mem_append.mp member with here | later
    · obtain ⟨entry, -, rfl⟩ := List.mem_map.mp here
      exact (ending_before_le rest entry).trans shorter
    · exact (ih opening later).trans shorter

/-- The ranges of what lives before the events. -/
def standing (live : Live) (events : List Event) : List Opening :=
  live.toList.map (Opening.before events)

/-- The range that an event closes: that of what its register held. -/
def released (live : Live) (event : Event) (rest : List Event) : List Opening :=
  match event.frees? with
  | none => []
  | some register => live[register]?.toList.map fun occupant => ⟨register, occupant, event :: rest⟩

theorem released_of_frees {event : Event} {register : UInt32}
    (frees : event.frees? = some register) (live : Live) (rest : List Event) :
    released live event rest =
      live[register]?.toList.map fun occupant => ⟨register, occupant, event :: rest⟩ := by
  rw [released, frees]

/-- An event that frees a register leaves the ranges of all others. -/
theorem standing_freed {live : Live} {event : Event} {register : UInt32}
    (frees : event.frees? = some register) (rest : List Event) :
    (standing live (event :: rest)).Perm
      (released live event rest ++ standing (live.erase register) rest) := by
  have split := (TreeMap.toList_perm_erase live register).map (Opening.before (event :: rest))
  have here : (live[register]?.toList.map fun occupant => (register, occupant)).map
      (Opening.before (event :: rest)) = released live event rest := by
    simp [released_of_frees frees, Opening.before, freedFrom_cons_self frees, Function.comp_def]
  have others : (live.erase register).toList.map (Opening.before (event :: rest)) =
      standing (live.erase register) rest := by
    apply List.map_congr_left
    intro entry member
    apply before_cons_other
    intro same
    have present := Std.ExtTreeMap.mem_toList_iff_getElem?_eq_some.mp member
    cases frees.symm.trans same
    rw [Std.ExtTreeMap.getElem?_erase_self] at present
    cases present
  rwa [List.map_append, here, others] at split

theorem standing_kept {live : Live} {event : Event} (keeps : event.frees? = none)
    (rest : List Event) : standing live (event :: rest) = standing live rest := by
  apply List.map_congr_left
  intro entry _
  apply before_cons_other
  rw [keeps]
  exact nofun

theorem standing_insert (live : Live) (register : UInt32) (occupant : Occupant)
    (events : List Event) : (standing (live.insert register occupant) events).Perm
      (Opening.before events (register, occupant) :: standing (live.erase register) events) :=
  (TreeMap.toList_insert_perm live register occupant).map _

/-- No range is lost and none made up: what stands before an event and what the event opens is what
the event closes and what stands after it. -/
theorem standing_next (live : Live) (event : Event) (rest : List Event) :
    (standing live (event :: rest) ++
        (event.opens? (live[·]?)).toList.map (Opening.before rest)).Perm
      (released live event rest ++ standing (live.next event) rest) := by
  have quiet (keeps : event.frees? = none) (opens : event.opens? (live[·]?) = none)
      (same : live.next event = live) : (standing live (event :: rest) ++
          (event.opens? (live[·]?)).toList.map (Opening.before rest)).Perm
        (released live event rest ++ standing (live.next event) rest) := by
    rw [standing_kept keeps, opens, same, released, keeps, Option.toList_none, List.map_nil,
      List.append_nil, List.nil_append]
  cases event with
  | startLocal register info offset =>
    have freed := @standing_freed live (.startLocal register info offset) register rfl rest
    have insert := standing_insert live register ⟨offset, info.name, info.descriptor⟩ rest
    let event : Event := .startLocal register info offset
    let opening := Opening.before rest (register, ⟨offset, info.name, info.descriptor⟩)
    calc standing live (event :: rest) ++ [opening]
      _ ~ (released live event rest ++ standing (live.erase register) rest) ++ [opening] :=
        freed.append_right _
      _ = released live event rest ++ (standing (live.erase register) rest ++ [opening]) :=
        List.append_assoc ..
      _ ~ released live event rest ++ (opening :: standing (live.erase register) rest) :=
        (List.perm_append_singleton _ _).append_left _
      _ ~ released live event rest ++ standing (live.next event) rest := insert.symm.append_left _
  | restartLocal register info offset =>
    by_cases held : live[register]? = none
    · have absent : register ∉ live := by
        rw [Std.ExtTreeMap.mem_iff_isSome_getElem?, held]
        exact Bool.false_ne_true
      have others : (standing live rest).Perm (standing (live.erase register) rest) := by
        have split := (TreeMap.toList_perm_erase live register).map (Opening.before rest)
        rwa [held] at split
      have insert := standing_insert live register ⟨offset, info.name, info.descriptor⟩ rest
      rw [standing_kept rfl, Event.opens?, if_pos held, Live.next, if_neg absent]
      let opening := Opening.before rest (register, ⟨offset, info.name, info.descriptor⟩)
      calc standing live rest ++ [opening]
        _ ~ opening :: standing live rest := List.perm_append_singleton _ _
        _ ~ opening :: standing (live.erase register) rest := others.cons _
        _ ~ standing (live.insert register ⟨offset, info.name, info.descriptor⟩) rest :=
          insert.symm
    · have present : register ∈ live := by
        rw [Std.ExtTreeMap.mem_iff_isSome_getElem?, Option.isSome_iff_ne_none]
        exact held
      exact quiet rfl (if_neg held) (if_pos present)
  | endLocal register offset =>
    have freed := @standing_freed live (.endLocal register offset) register rfl rest
    have opens : (Event.endLocal register offset).opens? (live[·]?) = none := rfl
    rw [opens, Option.toList_none, List.map_nil, List.append_nil]
    exact freed
  | lineNumber line offset => exact quiet rfl rfl rfl
  | prologueEnd offset => exact quiet rfl rfl rfl
  | epilogueBegin offset => exact quiet rfl rfl rfl
  | setSourceFile name offset => exact quiet rfl rfl rfl

theorem openings_cons (live : Live) (event : Event) (rest : List Event) :
    openings (live[·]?) (event :: rest) =
      (event.opens? (live[·]?)).toList.map (Opening.before rest) ++
        openings ((live.next event)[·]?) rest := by
  have held : (fun register => (live.next event)[register]?) =
      fun register => heldAfter register live[register]? event := by
    funext register
    exact getElem?_next live event
  rw [openings, held]

theorem gives_close {codeSize : UInt32} {opening : Opening} {entry : LocalVariable}
    (closed : opening.occupant.close opening.register (opening.stop codeSize) = .ok entry) :
    opening.Gives codeSize entry := by
  have stop := stop_of_close closed
  obtain ⟨-, rfl⟩ := close_eq_ok closed
  exact ⟨rfl, rfl, rfl, rfl, stop⟩

theorem gives_closeHeld {codeSize register : UInt32} {event : Event} {held : Option Occupant}
    {entries : List LocalVariable} (closed : closeHeld register event.offset held = .ok entries)
    (rest : List Event) : List.Forall₂ (Opening.Gives codeSize)
      (held.toList.map fun occupant => ⟨register, occupant, event :: rest⟩) entries := by
  cases held with
  | none =>
    cases closed
    exact .nil
  | some occupant =>
    obtain ⟨entry, ended, rfl⟩ := closeHeld_some_iff.mp closed
    exact .cons (gives_close ended) .nil

/-- An event closes the range of what its register held, and no other. -/
theorem gives_closing {live : Live} {count codeSize : UInt32} {event : Event}
    {closed : List LocalVariable} (ok : live.closing count event = .ok closed)
    (rest : List Event) :
    List.Forall₂ (Opening.Gives codeSize) (released live event rest) closed := by
  rcases closedBy_cases (closing_eq_ok_iff.mp ok).2 with ⟨register, frees, closes⟩ | ⟨keeps, none⟩
  · rw [heldBy_of_register (Event.register?_of_frees frees)] at closes
    rw [released_of_frees frees]
    exact gives_closeHeld closes rest
  · rw [none, released, keeps]
    exact .nil

theorem gives_finish {live : Live} {codeSize : UInt32} {remaining : List LocalVariable}
    (finished : live.finish codeSize = .ok remaining) :
    List.Forall₂ (Opening.Gives codeSize) (standing live []) remaining := by
  rw [standing, List.forall₂_map_left_iff]
  apply (mapM_eq_ok_iff.mp finished).imp
  intro entry closed ok
  exact gives_close ok

/-- After the last event ranges close in the order of their registers. -/
theorem before_standing (live : Live) : (standing live []).Pairwise Opening.Before := by
  apply List.pairwise_map.mpr
  apply Std.ExtTreeMap.ordered_keys_toList.imp
  intro first second ordered
  exact Or.inr ⟨rfl, rfl, compareOfLessAndEq_eq_lt.mp ordered⟩

/-- The range that an event closes comes before all that close later. -/
theorem before_released {live : Live} {event : Event} {rest : List Event} {order : List Opening}
    (ordered : order.Pairwise Opening.Before)
    (later : ∀ opening ∈ order, opening.ending.length ≤ rest.length) :
    (released live event rest ++ order).Pairwise Opening.Before := by
  have shape : (released live event rest).Pairwise Opening.Before ∧
      ∀ opening ∈ released live event rest, opening.ending = event :: rest := by
    unfold released
    split
    · simp
    · next register frees => cases live[register]? <;> simp
  apply List.pairwise_append.mpr ⟨shape.1, ordered, _⟩
  intro first here second member
  apply Or.inl
  rw [shape.2 first here]
  exact Nat.lt_succ_of_le (later second member)

/-- The run of a method closes what stands before it and what its events open, each once and in
order. -/
theorem exists_closing_order {live : Live} {count codeSize : UInt32} {events : List Event}
    {closed remaining : List LocalVariable} (ok : live.closings count events = .ok closed)
    (finished : (live.after events).finish codeSize = .ok remaining) :
    ∃ order : List Opening, order.Perm (standing live events ++ openings (live[·]?) events) ∧
      order.Pairwise Opening.Before ∧
      List.Forall₂ (Opening.Gives codeSize) order (closed ++ remaining) := by
  induction events generalizing live closed with
  | nil =>
    cases ok
    refine ⟨standing live [], ?_, before_standing live, gives_finish finished⟩
    rw [openings, List.append_nil]
  | cons event rest ih =>
    obtain ⟨first, others, closing, closings, rfl⟩ := closings_cons_iff.mp ok
    obtain ⟨order, perm, ordered, gives⟩ := ih closings finished
    refine ⟨released live event rest ++ order, ?_, ?_, ?_⟩
    · calc released live event rest ++ order
        _ ~ released live event rest ++
            (standing (live.next event) rest ++ openings ((live.next event)[·]?) rest) :=
          perm.append_left _
        _ = released live event rest ++ standing (live.next event) rest ++
            openings ((live.next event)[·]?) rest := (List.append_assoc ..).symm
        _ ~ standing live (event :: rest) ++
              (event.opens? (live[·]?)).toList.map (Opening.before rest) ++
            openings ((live.next event)[·]?) rest :=
          (standing_next live event rest).symm.append_right _
        _ = standing live (event :: rest) ++ openings (live[·]?) (event :: rest) := by
          rw [openings_cons, List.append_assoc]
    · apply before_released ordered
      intro opening member
      rcases List.mem_append.mp (perm.mem_iff.mp member) with stands | opens
      · obtain ⟨entry, -, rfl⟩ := List.mem_map.mp stands
        exact ending_before_le rest entry
      · exact ending_openings_le opening opens
    · rw [List.append_assoc]
      exact List.rel_append (gives_closing closing rest) gives

/-- The variables of a method are its ranges, each exactly once, from where it opened to the next
event that frees its register or to the end of the code. They stand in the order of closing. The
events may come with any offsets. -/
theorem locals_close_each_opening (frame : Frame)
    (named : ∀ parameter ∈ frame.parameters, parameter.name.isSome)
    (fits : frame.insSize ≤ frame.registerCount.toNat) (events : List Event)
    (entries : List LocalVariable) (found : frame.locals events = .ok entries) :
    ∃ order : List Opening, order.Perm (frame.openings events) ∧
      order.Pairwise Opening.Before ∧
      List.Forall₂ (Opening.Gives frame.codeSize) order entries := by
  obtain ⟨arrivals, known⟩ := exists_arrivals named
  obtain ⟨-, closed, remaining, closings, finished, rfl⟩ := (locals_eq_ok_iff known).mp found
  obtain ⟨order, perm, ordered, gives⟩ := exists_closing_order closings finished
  refine ⟨order, ?_, ordered, gives⟩
  have standing := (toList_atEntry_perm known fits).map (Opening.before events)
  simp only [getElem?_atEntry known fits] at perm
  exact perm.trans (standing.append_right _)

/-- An instance method of a long and a double. A restart goes back before the range that was ended,
and one is ignored by its register, which still holds the receiver. -/
theorem locals_close_each_opening_restarted :
    let frame : Frame := ⟨6, some "LA;", [⟨"J", some "n", none⟩, ⟨"D", some "d", none⟩], 9⟩
    let x : Local := ⟨"x", "I", none⟩
    let events : List Event := [.startLocal 0 x 5, .endLocal 0 7, .restartLocal 0 x 2,
      .restartLocal 1 x 3, .endLocal 1 6, .endLocal 4 8]
    let entries : List LocalVariable := [⟨5, 2, "x", "I", 0⟩, ⟨0, 6, "this", "LA;", 1⟩,
      ⟨0, 8, "d", "D", 4⟩, ⟨2, 7, "x", "I", 0⟩, ⟨0, 9, "n", "J", 2⟩]
    ((∀ parameter ∈ frame.parameters, parameter.name.isSome) ∧
      frame.insSize ≤ frame.registerCount.toNat ∧ frame.locals events = .ok entries) ∧
    ∃ order : List Opening, order.Perm [⟨1, ⟨0, "this", "LA;"⟩, [.endLocal 1 6, .endLocal 4 8]⟩,
        ⟨2, ⟨0, "n", "J"⟩, []⟩, ⟨4, ⟨0, "d", "D"⟩, [.endLocal 4 8]⟩,
        ⟨0, ⟨5, "x", "I"⟩, events.tail⟩, ⟨0, ⟨2, "x", "I"⟩, []⟩] ∧
      order.Pairwise Opening.Before ∧ List.Forall₂ (Opening.Gives 9) order entries := by
  intro frame x events entries
  have named : ∀ parameter ∈ frame.parameters, parameter.name.isSome := by decide
  have fits : frame.insSize ≤ frame.registerCount.toNat := by decide
  have found : frame.locals events = .ok entries := by cbv
  have opened : frame.openings events = [⟨1, ⟨0, "this", "LA;"⟩, [.endLocal 1 6, .endLocal 4 8]⟩,
      ⟨2, ⟨0, "n", "J"⟩, []⟩, ⟨4, ⟨0, "d", "D"⟩, [.endLocal 4 8]⟩,
      ⟨0, ⟨5, "x", "I"⟩, events.tail⟩, ⟨0, ⟨2, "x", "I"⟩, []⟩] := by
    cbv
  have order := locals_close_each_opening frame named fits events entries found
  rw [opened] at order
  exact ⟨⟨named, fits, found⟩, order⟩

end DebugTables.Dex
