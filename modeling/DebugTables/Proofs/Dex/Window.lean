import Mathlib
import DebugTables.Proofs.Dex.FirstFault

/-! The window of registers that a method is entered with. Receiver and parameters are written one
after the other from the first register of the window on, all of them inside the frame, and their
registers lie side by side up to its end. Without events that touch them they are the variables of
the method. -/

namespace DebugTables.Dex

/-- The registers of an arrival that is placed from a register on. -/
def Arrival.registers (entry : UInt32 × Arrival) : List Nat :=
  List.range' entry.1.toNat entry.2.size

/-- Writes arrivals into the registers of a frame from `register` on, each into its first register
and the next one after its last, unless there is no such register. -/
def Arrival.enter {count : Nat} (registers : Vector (Option Occupant) count) (register : Nat) :
    List Arrival → Option (Vector (Option Occupant) count × Nat)
  | [] => some (registers, register)
  | first :: rest =>
    if inside : register < count then
      enter (registers.set register (some first.occupant)) (register + first.size) rest
    else none

/-- The registers of a frame hold what lives in them and nothing else. -/
def Stored {count : Nat} (registers : Vector (Option Occupant) count) (live : Live) : Prop :=
  ∀ (register : UInt32) (inside : register.toNat < count),
    registers[register.toNat] = live[register]?

section slots

variable {count : Nat} {arrivals : List Arrival}

theorem toNat_slot (bounded : count < 0x100000000) (arrivals : List Arrival) :
    (UInt32.ofNat (count - Arrival.total arrivals)).toNat = count - Arrival.total arrivals := by
  have small : count - Arrival.total arrivals < 0x100000000 := by omega
  exact UInt32.toNat_ofNat_of_lt' small

/-- The registers of all arrivals one after the other are the last ones of the frame. -/
theorem registers_slots (bounded : count < 0x100000000) (fits : Arrival.total arrivals ≤ count) :
    (Arrival.slots count arrivals).flatMap Arrival.registers =
      List.range' (count - Arrival.total arrivals) (Arrival.total arrivals) := by
  induction arrivals with
  | nil => rfl
  | cons first rest ih =>
    have slot := toNat_slot bounded (first :: rest)
    rw [Arrival.total] at fits slot
    have next : count - Arrival.total rest =
        count - (first.size + Arrival.total rest) + 1 * first.size := by
      omega
    rw [Arrival.slots, List.flatMap_cons, ih (by omega), Arrival.registers, Arrival.total, slot,
      next, List.range'_append]

/-- Every arrival ends where the next one starts. -/
theorem slots_adjacent (bounded : count < 0x100000000) (fits : Arrival.total arrivals ≤ count) :
    (Arrival.slots count arrivals).IsChain fun first second =>
      first.1.toNat + first.2.size = second.1.toNat := by
  induction arrivals with
  | nil => exact .nil
  | cons first rest ih =>
    have slot := toNat_slot bounded (first :: rest)
    rw [Arrival.total] at fits slot
    rw [Arrival.slots]
    apply List.isChain_cons.mpr ⟨_, ih (by omega)⟩
    intro second next
    cases rest with
    | nil => cases next
    | cons other others =>
      have slotNext := toNat_slot bounded (other :: others)
      cases next
      change (UInt32.ofNat _).toNat + first.size = (UInt32.ofNat _).toNat
      rw [slotNext, Arrival.total, slot]
      omega

/-- An arrival is so far from the end as it and those after it take. -/
theorem getElem?_slots (count : Nat) (before : List Arrival) (arrival : Arrival)
    (after : List Arrival) : (Arrival.slots count (before ++ arrival :: after))[before.length]? =
      some (UInt32.ofNat (count - Arrival.total (arrival :: after)), arrival) := by
  induction before with
  | nil => rfl
  | cons first rest ih => exact ih

theorem length_slots (count : Nat) (arrivals : List Arrival) :
    (Arrival.slots count arrivals).length = arrivals.length := by
  induction arrivals with
  | nil => rfl
  | cons first rest ih => rw [Arrival.slots, List.length_cons, List.length_cons, ih]

end slots

section writes

variable {count : Nat} {registers : Vector (Option Occupant) count} {live : Live}

theorem stored_empty : Stored (Vector.replicate count none) ∅ := by
  intro register inside
  rw [Vector.getElem_replicate, Std.ExtTreeMap.getElem?_empty]

theorem Stored.set (stored : Stored registers live) {register : UInt32}
    (inside : register.toNat < count) (occupant : Occupant) :
    Stored (registers.set register.toNat (some occupant)) (live.insert register occupant) := by
  intro other otherInside
  rw [Vector.getElem_set, Std.ExtTreeMap.getElem?_insert, stored other otherInside]
  simp only [UInt32.toNat_inj, Std.LawfulEqOrd.compare_eq_iff_eq]

/-- Arrivals that take all registers from `register` on are written inside the frame, and the frame
then holds them beside what it held before. -/
theorem exists_enter (bounded : count < 0x100000000) {register : Nat} {arrivals : List Arrival}
    (sized : ∀ arrival ∈ arrivals, 0 < arrival.size)
    (ends : register + Arrival.total arrivals = count) (stored : Stored registers live) :
    ∃ filled, Arrival.enter registers register arrivals = some (filled, count) ∧
      Stored filled (live.insertMany ((Arrival.slots count arrivals).map
        fun (register, arrival) => (register, arrival.occupant))) := by
  induction arrivals generalizing register registers live with
  | nil =>
    refine ⟨registers, ?_, stored⟩
    rw [Arrival.enter]
    exact congrArg (fun register => some (registers, register)) ends
  | cons first rest ih =>
    have size := sized first List.mem_cons_self
    have slot := toNat_slot bounded (first :: rest)
    rw [Arrival.total] at ends slot
    have here : (UInt32.ofNat (count - (first.size + Arrival.total rest))).toNat = register := by
      omega
    have inside : register < count := by omega
    have written := stored.set (here ▸ inside) first.occupant
    simp only [here] at written
    have others : ∀ arrival ∈ rest, 0 < arrival.size :=
      fun arrival member => sized arrival (List.mem_cons_of_mem _ member)
    have next : register + first.size + Arrival.total rest = count := by omega
    obtain ⟨filled, entered, holds⟩ := ih others next written
    refine ⟨filled, ?_, ?_⟩
    · rw [Arrival.enter, dif_pos inside]
      exact entered
    · rw [Arrival.slots, List.map_cons, Std.ExtTreeMap.insertMany_cons, Arrival.total]
      exact holds

end writes

section frame

variable {frame : Frame} {arrivals : List Arrival}

theorem exists_enter_atEntry (known : frame.arrivals? = some arrivals)
    (fits : frame.insSize ≤ frame.registerCount.toNat) :
    ∃ filled : Vector (Option Occupant) frame.registerCount.toNat,
      Arrival.enter (Vector.replicate _ none) (frame.registerCount.toNat - frame.insSize) arrivals =
        some (filled, frame.registerCount.toNat) ∧
      Stored filled (Live.atEntry frame.registerCount arrivals) := by
  have total := total_arrivals known
  have ends : frame.registerCount.toNat - frame.insSize + Arrival.total arrivals =
      frame.registerCount.toNat := by
    omega
  have entered := exists_enter frame.registerCount.toNat_lt (size_pos_of_arrivals known) ends
    stored_empty
  rwa [← Std.ExtTreeMap.ofList_eq_insertMany_empty] at entered

/-- What lives on entry stands in calling order, which is the order of the registers. -/
theorem toList_atEntry (known : frame.arrivals? = some arrivals)
    (fits : frame.insSize ≤ frame.registerCount.toNat) :
    (Live.atEntry frame.registerCount arrivals).toList =
      (Arrival.slots frame.registerCount.toNat arrivals).map fun (register, arrival) =>
        (register, arrival.occupant) := by
  have ordered : (Live.atEntry frame.registerCount arrivals).toList.Pairwise (·.1 < ·.1) := by
    apply Std.ExtTreeMap.ordered_keys_toList.imp
    intro first second before
    exact compareOfLessAndEq_eq_lt.mp before
  rw [← entered_eq_slots known]
  apply List.Perm.eq_of_pairwise _ ordered (entered_increasing known fits)
    (toList_atEntry_perm known fits)
  intro first second _ _ before after
  exact absurd after (UInt32.lt_asymm before)

/-- The event neither touches a register nor changes the source file. -/
def Event.Passes (event : Event) : Prop :=
  event.register? = none ∧ ∀ name offset, event ≠ .setSourceFile name offset

theorem closings_of_passes {events : List Event} (passes : ∀ event ∈ events, event.Passes)
    (live : Live) (count : UInt32) :
    live.closings count events = .ok [] ∧ live.after events = live := by
  induction events with
  | nil => exact ⟨rfl, rfl⟩
  | cons event rest ih =>
    obtain ⟨⟨quiet, supported⟩, later⟩ := List.forall_mem_cons.mp passes
    have placed : event.Placed count := by
      constructor
      · exact supported
      · rw [quiet]
        exact nofun
    have closing : live.closing count event = .ok [] :=
      closing_eq_ok_iff.mpr ⟨placed, closedBy_of_no_register quiet⟩
    have same : live.next event = live := by
      cases event with
      | startLocal register info offset => cases quiet
      | restartLocal register info offset => cases quiet
      | endLocal register offset => cases quiet
      | _ => rfl
    have others := ih later
    constructor
    · apply closings_cons_iff.mpr ⟨[], [], closing, _, rfl⟩
      rw [same]
      exact others.1
    · change (live.next event).after rest = live
      rw [same]
      exact others.2

/-- The variable of an arrival that lives throughout the code. -/
def Arrival.throughout (codeSize : UInt32) (entry : UInt32 × Arrival) : LocalVariable :=
  ⟨0, codeSize, entry.2.name, entry.2.descriptor, entry.1⟩

theorem close_occupant (codeSize : UInt32) (entry : UInt32 × Arrival) :
    entry.2.occupant.close entry.1 codeSize = .ok (Arrival.throughout codeSize entry) := by
  have forward : ¬codeSize < 0 := UInt32.not_lt.mpr UInt32.zero_le
  rw [Occupant.close, Arrival.occupant, if_neg forward, UInt32.sub_zero]
  rfl

theorem locals_of_passes (known : frame.arrivals? = some arrivals)
    (fits : frame.insSize ≤ frame.registerCount.toNat) {events : List Event}
    (passes : ∀ event ∈ events, event.Passes) : frame.locals events =
      .ok ((Arrival.slots frame.registerCount.toNat arrivals).map
        (Arrival.throughout frame.codeSize)) := by
  obtain ⟨closings, same⟩ := closings_of_passes passes
    (Live.atEntry frame.registerCount arrivals) frame.registerCount
  apply (locals_eq_ok_iff known).mpr ⟨fits, [], _, closings, _, rfl⟩
  rw [same, Live.finish, toList_atEntry known fits, mapM_eq_ok_iff, List.forall₂_map_left_iff,
    List.forall₂_map_right_iff]
  apply List.forall₂_same.mpr
  intro entry _
  exact close_occupant frame.codeSize entry

/-- How the registers of a frame are laid out for what a method is entered with. -/
structure Frame.LaidOut (frame : Frame) (placed : List (UInt32 × Arrival)) : Prop where
  length : placed.length = frame.receiver.toList.length + frame.parameters.length
  receiver : ∀ descriptor ∈ frame.receiver, ∃ register,
    placed.head? = some (register, ⟨"this", descriptor, 1⟩) ∧
      register.toNat + frame.insSize = frame.registerCount.toNat
  /-- A parameter is so far from the end as it and the parameters after it take. -/
  parameter : ∀ before parameter after, frame.parameters = before ++ parameter :: after →
    ∃ name register, parameter.name = some name ∧
      placed[frame.receiver.toList.length + before.length]? =
        some (register, ⟨name, parameter.descriptor, typeSize parameter.descriptor⟩) ∧
      register.toNat + ((parameter :: after).map fun other => typeSize other.descriptor).sum =
        frame.registerCount.toNat
  adjacent : placed.IsChain fun first second => first.1.toNat + first.2.size = second.1.toNat
  apart : placed.Pairwise fun first second =>
    (Arrival.registers first).Disjoint (Arrival.registers second)
  /-- Together they are the last registers of the frame. -/
  window : placed.flatMap Arrival.registers =
    List.range' (frame.registerCount.toNat - frame.insSize) frame.insSize

theorem length_of_mapM {parameters : List Parameter} {arrivals : List Arrival}
    (found : parameters.mapM Parameter.arrival? = some arrivals) :
    arrivals.length = parameters.length := by
  induction parameters generalizing arrivals with
  | nil =>
    cases found
    rfl
  | cons parameter rest ih =>
    rw [List.mapM_cons] at found
    obtain ⟨first, -, found⟩ := Option.bind_eq_some_iff.mp found
    obtain ⟨others, later, same⟩ := Option.bind_eq_some_iff.mp found
    cases same
    rw [List.length_cons, List.length_cons, ih later]

theorem exists_split_of_mapM {before after : List Parameter} {parameter : Parameter}
    {arrivals : List Arrival}
    (found : (before ++ parameter :: after).mapM Parameter.arrival? = some arrivals) :
    ∃ first arrival rest, arrivals = first ++ arrival :: rest ∧ first.length = before.length ∧
      parameter.arrival? = some arrival ∧ after.mapM Parameter.arrival? = some rest := by
  rw [List.mapM_append, List.mapM_cons] at found
  obtain ⟨first, earlier, found⟩ := Option.bind_eq_some_iff.mp found
  obtain ⟨others, following, same⟩ := Option.bind_eq_some_iff.mp found
  obtain ⟨arrival, known, following⟩ := Option.bind_eq_some_iff.mp following
  obtain ⟨rest, later, made⟩ := Option.bind_eq_some_iff.mp following
  cases made
  cases same
  exact ⟨first, arrival, rest, rfl, length_of_mapM earlier, known, later⟩

theorem length_receiverArrivals (frame : Frame) :
    frame.receiverArrivals.length = frame.receiver.toList.length :=
  List.length_map _

theorem slot_of_receiver (known : frame.arrivals? = some arrivals)
    (fits : frame.insSize ≤ frame.registerCount.toNat) {descriptor : String}
    (receives : frame.receiver = some descriptor) : ∃ register,
      (Arrival.slots frame.registerCount.toNat arrivals).head? =
        some (register, ⟨"this", descriptor, 1⟩) ∧
      register.toNat + frame.insSize = frame.registerCount.toNat := by
  have slot := toNat_slot frame.registerCount.toNat_lt arrivals
  have total := total_arrivals known
  obtain ⟨parameters, found, made⟩ := arrivals?_eq_some_iff.mp known
  have first : frame.receiverArrivals = [⟨"this", descriptor, 1⟩] := by
    rw [Frame.receiverArrivals, receives]
    rfl
  refine ⟨UInt32.ofNat (frame.registerCount.toNat - Arrival.total arrivals), ?_, by omega⟩
  rw [made, first]
  rfl

theorem slot_of_parameter (known : frame.arrivals? = some arrivals)
    (fits : frame.insSize ≤ frame.registerCount.toNat) {before after : List Parameter}
    {parameter : Parameter} (split : frame.parameters = before ++ parameter :: after) :
    ∃ name register, parameter.name = some name ∧
      (Arrival.slots frame.registerCount.toNat arrivals)[frame.receiver.toList.length +
          before.length]? =
        some (register, ⟨name, parameter.descriptor, typeSize parameter.descriptor⟩) ∧
      register.toNat + ((parameter :: after).map fun other => typeSize other.descriptor).sum =
        frame.registerCount.toNat := by
  have total := total_arrivals known
  obtain ⟨parameters, found, made⟩ := arrivals?_eq_some_iff.mp known
  rw [split] at found
  obtain ⟨first, arrival, rest, rfl, length, arrives, later⟩ := exists_split_of_mapM found
  obtain ⟨name, named, rfl⟩ := Option.map_eq_some_iff.mp arrives
  rw [← List.append_assoc] at made
  have place : (frame.receiverArrivals ++ first).length =
      frame.receiver.toList.length + before.length := by
    rw [List.length_append, length_receiverArrivals, length]
  have here := getElem?_slots frame.registerCount.toNat (frame.receiverArrivals ++ first)
    ⟨name, parameter.descriptor, typeSize parameter.descriptor⟩ rest
  rw [← made, place] at here
  have part := congrArg Arrival.total made
  rw [Arrival.total_append, total] at part
  have remaining := (total_of_mapM later).1
  rw [Parameter.total_eq_sum] at remaining
  refine ⟨name, _, named, here, ?_⟩
  rw [toNat_slot frame.registerCount.toNat_lt, List.map_cons, List.sum_cons]
  simp only [Arrival.total] at part ⊢
  omega

theorem laidOut_slots (known : frame.arrivals? = some arrivals)
    (fits : frame.insSize ≤ frame.registerCount.toNat) :
    frame.LaidOut (Arrival.slots frame.registerCount.toNat arrivals) := by
  have bounded : frame.registerCount.toNat < 0x100000000 := frame.registerCount.toNat_lt
  have total := total_arrivals known
  have inside : Arrival.total arrivals ≤ frame.registerCount.toNat := total ▸ fits
  have window := registers_slots bounded inside
  rw [total] at window
  obtain ⟨parameters, found, made⟩ := arrivals?_eq_some_iff.mp known
  constructor
  case length =>
    rw [length_slots, made, List.length_append, length_receiverArrivals, length_of_mapM found]
  case receiver => exact fun descriptor receives => slot_of_receiver known fits receives
  case parameter => exact fun before parameter after split => slot_of_parameter known fits split
  case adjacent => exact slots_adjacent bounded inside
  case apart =>
    have distinct : ((Arrival.slots frame.registerCount.toNat arrivals).flatMap
        Arrival.registers).Nodup := by
      rw [window]
      exact List.nodup_range' 1
    exact (List.nodup_flatMap.mp distinct).2
  case window => exact window

end frame

/-- In a frame that is large enough, what a method is entered with is written inside the frame and
takes its last registers in calling order, side by side. Where no event touches a register, the
variables of the method are these values throughout the code, in the order of their registers. A
frame that is too small has no variables, and the error says so. -/
theorem entry_window_laid_out (frame : Frame)
    (named : ∀ parameter ∈ frame.parameters, parameter.name.isSome)
    (word : frame.insSize < 0x100000000) :
    ∃ arrivals, frame.arrivals? = some arrivals ∧
      (frame.insSize ≤ frame.registerCount.toNat →
        let placed := Arrival.slots frame.registerCount.toNat arrivals
        (∃ filled : Vector (Option Occupant) frame.registerCount.toNat,
          Arrival.enter (Vector.replicate _ none) (frame.registerCount.toNat - frame.insSize)
              arrivals = some (filled, frame.registerCount.toNat) ∧
            Stored filled (Live.atEntry frame.registerCount arrivals)) ∧
        frame.LaidOut placed ∧
        ∀ events, (∀ event ∈ events, event.Passes) → ∃ entries,
          frame.locals events = .ok entries ∧
          entries = placed.map (Arrival.throughout frame.codeSize) ∧
          entries.Pairwise (·.slot < ·.slot)) ∧
      (frame.registerCount.toNat < frame.insSize → ∀ events, ∃ ins : UInt32,
        ins.toNat = frame.insSize ∧
        frame.locals events = .error (.parameterWindow ins.toNat frame.registerCount)) := by
  obtain ⟨arrivals, known⟩ := exists_arrivals named
  refine ⟨arrivals, known, ?_, ?_⟩
  · intro fits placed
    refine ⟨exists_enter_atEntry known fits, laidOut_slots known fits, ?_⟩
    intro events passes
    have increasing := slots_increasing frame.registerCount.toNat_lt
      (total_arrivals known ▸ fits) (size_pos_of_arrivals known)
    exact ⟨_, locals_of_passes known fits passes, rfl, List.pairwise_map.mpr increasing⟩
  · intro narrow events
    exact locals_of_narrow named word narrow

/-- A receiver between unused registers and wide and narrow parameters, and a frame without room for
its one parameter. -/
theorem entry_window_laid_out_mixed :
    let frame : Frame :=
      ⟨8, some "LA;", [⟨"J", some "a", none⟩, ⟨"I", some "b", none⟩, ⟨"D", some "c", none⟩], 9⟩
    let narrow : Frame := ⟨1, none, [⟨"J", some "a", none⟩], 9⟩
    let events : List Event := [.prologueEnd 0, .lineNumber 7 3]
    ((∀ parameter ∈ frame.parameters, parameter.name.isSome) ∧ frame.insSize < 0x100000000 ∧
      frame.insSize ≤ frame.registerCount.toNat ∧ ∀ event ∈ events, event.Passes) ∧
    (frame.LaidOut [(2, ⟨"this", "LA;", 1⟩), (3, ⟨"a", "J", 2⟩), (5, ⟨"b", "I", 1⟩),
      (6, ⟨"c", "D", 2⟩)] ∧
      frame.locals events = .ok [⟨0, 9, "this", "LA;", 2⟩, ⟨0, 9, "a", "J", 3⟩, ⟨0, 9, "b", "I", 5⟩,
        ⟨0, 9, "c", "D", 6⟩]) ∧
    narrow.locals events = .error (.parameterWindow 2 1) := by
  intro frame narrow events
  have named : ∀ parameter ∈ frame.parameters, parameter.name.isSome := by decide
  have fits : frame.insSize ≤ frame.registerCount.toNat := by decide
  have passes : ∀ event ∈ events, event.Passes := by simp [events, Event.Passes, Event.register?]
  obtain ⟨arrivals, known, laid, -⟩ := entry_window_laid_out frame named (by decide)
  have given : frame.arrivals? = some [⟨"this", "LA;", 1⟩, ⟨"a", "J", 2⟩, ⟨"b", "I", 1⟩,
      ⟨"c", "D", 2⟩] := by
    cbv
  cases known.symm.trans given
  obtain ⟨-, window, alive⟩ := laid fits
  obtain ⟨entries, found, made, -⟩ := alive events passes
  obtain ⟨-, -, -, refused⟩ := entry_window_laid_out narrow (by decide) (by decide)
  obtain ⟨ins, two, error⟩ := refused (by decide) events
  refine ⟨⟨named, by decide, fits, passes⟩, ⟨window, ?_⟩, ?_⟩
  · rw [found, made]
    rfl
  · rw [error, two]
    rfl

end DebugTables.Dex
