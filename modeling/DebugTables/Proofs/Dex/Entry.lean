import Mathlib
import DebugTables.Dex.Locals
import DebugTables.Proofs.TreeMap

/-! The registers that a method is entered with: which of them holds the receiver and which holds
which parameter. The arrivals of a frame take as many registers as the frame reserves for them, and
where those fit, each arrival has a first register of its own, the registers follow the calling
order, and what lives on entry is in them. -/

namespace DebugTables.Dex

def Parameter.arrival? (parameter : Parameter) : Option Arrival :=
  parameter.name.map fun name => ⟨name, parameter.descriptor, typeSize parameter.descriptor⟩

/-- Where a parameter is in a frame of `count` registers, and what it puts there. It comes first in
the list and those after it follow. Its first register is so far from the end of the frame as all of
them take. -/
def Parameter.entered? (count : UInt32) : List Parameter → Option (UInt32 × Occupant)
  | [] => none
  | parameter :: after => parameter.name.map fun name =>
      (UInt32.ofNat
          (count.toNat - ((parameter :: after).map fun other => typeSize other.descriptor).sum),
        ⟨0, name, parameter.descriptor⟩)

/-- What a method is entered with, and where. The receiver is in the first of the registers that
receiver and parameters take, which are the last ones of the frame. -/
def Frame.entered (frame : Frame) : List (UInt32 × Occupant) :=
  (frame.receiver.toList.map fun descriptor =>
      (UInt32.ofNat (frame.registerCount.toNat - frame.insSize), ⟨0, "this", descriptor⟩)) ++
    frame.parameters.tails.filterMap (Parameter.entered? frame.registerCount)

/-- The register is that of the receiver or the first one of a parameter. -/
def Frame.Enters (frame : Frame) (register : UInt32) : Prop :=
  register ∈ frame.entered.map Prod.fst

def Frame.receiverArrivals (frame : Frame) : List Arrival :=
  frame.receiver.toList.map fun descriptor => ⟨"this", descriptor, 1⟩

theorem arrivals?_eq_some_iff {frame : Frame} {arrivals : List Arrival} :
    frame.arrivals? = some arrivals ↔ ∃ parameters,
      frame.parameters.mapM Parameter.arrival? = some parameters ∧
        arrivals = frame.receiverArrivals ++ parameters := by
  constructor
  · intro known
    obtain ⟨parameters, found, same⟩ := Option.bind_eq_some_iff.mp known
    cases same
    exact ⟨parameters, found, rfl⟩
  · intro parts
    obtain ⟨parameters, found, rfl⟩ := parts
    exact Option.bind_eq_some_iff.mpr ⟨parameters, found, rfl⟩

theorem exists_mapM {α β : Type} {f : α → Option β} {list : List α}
    (each : ∀ a ∈ list, (f a).isSome) : ∃ found, list.mapM f = some found := by
  induction list with
  | nil => exact ⟨[], rfl⟩
  | cons a rest ih =>
    rcases Option.isSome_iff_exists.mp (each a (List.mem_cons_self ..)) with ⟨b, known⟩
    rcases ih fun a member => each a (List.mem_cons_of_mem _ member) with ⟨others, found⟩
    rw [List.mapM_cons, known, found]
    exact ⟨_, rfl⟩

theorem isSome_of_mapM {α β : Type} {f : α → Option β} {list : List α} {results : List β}
    (found : list.mapM f = some results) : ∀ a ∈ list, (f a).isSome := by
  induction list generalizing results with
  | nil => simp
  | cons a rest ih =>
    rw [List.mapM_cons] at found
    obtain ⟨b, known, found⟩ := Option.bind_eq_some_iff.mp found
    obtain ⟨others, found, -⟩ := Option.bind_eq_some_iff.mp found
    exact List.forall_mem_cons.mpr ⟨Option.isSome_iff_exists.mpr ⟨b, known⟩, ih found⟩

theorem exists_arrivals {frame : Frame}
    (named : ∀ parameter ∈ frame.parameters, parameter.name.isSome) :
    ∃ arrivals, frame.arrivals? = some arrivals := by
  have each : ∀ parameter ∈ frame.parameters, parameter.arrival?.isSome := by
    intro parameter member
    rw [Parameter.arrival?, Option.isSome_map]
    exact named parameter member
  obtain ⟨parameters, found⟩ := exists_mapM each
  exact ⟨_, arrivals?_eq_some_iff.mpr ⟨parameters, found, rfl⟩⟩

theorem named_of_arrivals {frame : Frame} {arrivals : List Arrival}
    (known : frame.arrivals? = some arrivals) :
    ∀ parameter ∈ frame.parameters, parameter.name.isSome := by
  obtain ⟨parameters, found, -⟩ := arrivals?_eq_some_iff.mp known
  intro parameter member
  have arrives := isSome_of_mapM found parameter member
  rwa [Parameter.arrival?, Option.isSome_map] at arrives

theorem Parameter.total_eq_sum (parameters : List Parameter) :
    Parameter.total parameters = (parameters.map fun other => typeSize other.descriptor).sum := by
  induction parameters with
  | nil => rfl
  | cons parameter rest ih => rw [Parameter.total, ih, List.map_cons, List.sum_cons]

theorem typeSize_pos (descriptor : String) : 0 < typeSize descriptor := by
  unfold typeSize
  split <;> decide

theorem Arrival.total_append (first second : List Arrival) :
    Arrival.total (first ++ second) = Arrival.total first + Arrival.total second := by
  induction first with
  | nil => simp [Arrival.total]
  | cons arrival rest ih => rw [List.cons_append, Arrival.total, Arrival.total, ih, Nat.add_assoc]

theorem total_of_mapM {parameters : List Parameter} {arrivals : List Arrival}
    (found : parameters.mapM Parameter.arrival? = some arrivals) :
    Arrival.total arrivals = Parameter.total parameters ∧
      ∀ arrival ∈ arrivals, arrival.size = typeSize arrival.descriptor := by
  induction parameters generalizing arrivals with
  | nil =>
    cases found
    exact ⟨rfl, by simp⟩
  | cons parameter rest ih =>
    rw [List.mapM_cons] at found
    obtain ⟨first, known, found⟩ := Option.bind_eq_some_iff.mp found
    obtain ⟨others, foundOthers, same⟩ := Option.bind_eq_some_iff.mp found
    obtain ⟨name, -, rfl⟩ := Option.map_eq_some_iff.mp known
    cases same
    obtain ⟨total, sized⟩ := ih foundOthers
    constructor
    · rw [Arrival.total, Parameter.total, total]
    · intro arrival member
      rcases List.mem_cons.mp member with same | member
      · rw [same]
      · exact sized arrival member

theorem total_arrivals {frame : Frame} {arrivals : List Arrival}
    (known : frame.arrivals? = some arrivals) : Arrival.total arrivals = frame.insSize := by
  obtain ⟨parameters, found, rfl⟩ := arrivals?_eq_some_iff.mp known
  rw [Arrival.total_append, (total_of_mapM found).1, Frame.insSize, Frame.receiverArrivals]
  cases frame.receiver <;> rfl

theorem size_pos_of_arrivals {frame : Frame} {arrivals : List Arrival}
    (known : frame.arrivals? = some arrivals) : ∀ arrival ∈ arrivals, 0 < arrival.size := by
  obtain ⟨parameters, found, rfl⟩ := arrivals?_eq_some_iff.mp known
  intro arrival member
  rcases List.mem_append.mp member with receiver | parameter
  · obtain ⟨descriptor, -, rfl⟩ := List.mem_map.mp receiver
    exact Nat.one_pos
  · rw [(total_of_mapM found).2 arrival parameter]
    exact typeSize_pos arrival.descriptor

/-- The receiver always takes one register, and every parameter takes those of its type. -/
theorem size_of_arrivals {frame : Frame} {arrivals : List Arrival}
    (known : frame.arrivals? = some arrivals)
    (narrow : ∀ descriptor ∈ frame.receiver, typeSize descriptor = 1) :
    ∀ arrival ∈ arrivals, arrival.size = typeSize arrival.descriptor := by
  obtain ⟨parameters, found, rfl⟩ := arrivals?_eq_some_iff.mp known
  intro arrival member
  rcases List.mem_append.mp member with receiver | parameter
  · obtain ⟨descriptor, isReceiver, rfl⟩ := List.mem_map.mp receiver
    exact (narrow descriptor (Option.mem_toList.mp isReceiver)).symm
  · exact (total_of_mapM found).2 arrival parameter

section slots

variable {count : Nat} {arrivals : List Arrival}

theorem mem_of_mem_slots {entry : UInt32 × Arrival} (member : entry ∈ Arrival.slots count arrivals) :
    entry.2 ∈ arrivals := by
  induction arrivals with
  | nil => cases member
  | cons first rest ih =>
    rw [Arrival.slots] at member
    rcases List.mem_cons.mp member with same | member
    · rw [same]
      exact List.mem_cons_self
    · exact List.mem_cons_of_mem _ (ih member)

theorem le_of_mem_slots (bounded : count < 0x100000000) {entry : UInt32 × Arrival}
    (member : entry ∈ Arrival.slots count arrivals) :
    count - Arrival.total arrivals ≤ entry.1.toNat := by
  induction arrivals with
  | nil => cases member
  | cons first rest ih =>
    rw [Arrival.slots] at member
    rcases List.mem_cons.mp member with same | member
    · have fits : count - Arrival.total (first :: rest) < 0x100000000 := by omega
      rw [same, UInt32.toNat_ofNat_of_lt' fits]
    · have later := ih member
      rw [Arrival.total]
      omega

/-- Arrivals keep out of each other's registers. -/
theorem slots_apart (bounded : count < 0x100000000) (fits : Arrival.total arrivals ≤ count) :
    (Arrival.slots count arrivals).Pairwise fun first second =>
      first.1.toNat + first.2.size ≤ second.1.toNat := by
  induction arrivals with
  | nil => exact .nil
  | cons first rest ih =>
    rw [Arrival.total] at fits
    apply List.pairwise_cons.mpr ⟨_, ih (by omega)⟩
    intro entry member
    have later := le_of_mem_slots bounded member
    have here : count - Arrival.total (first :: rest) < 0x100000000 := by omega
    change (UInt32.ofNat _).toNat + first.size ≤ entry.1.toNat
    rw [UInt32.toNat_ofNat_of_lt' here, Arrival.total]
    omega

theorem size_le_of_mem_slots (bounded : count < 0x100000000)
    (fits : Arrival.total arrivals ≤ count) {first second : UInt32 × Arrival}
    (memberFirst : first ∈ Arrival.slots count arrivals)
    (memberSecond : second ∈ Arrival.slots count arrivals)
    (below : first.1.toNat < second.1.toNat) : first.1.toNat + first.2.size ≤ second.1.toNat := by
  have apart := List.pairwise_iff_getElem.mp (slots_apart bounded fits)
  obtain ⟨i, before, rfl⟩ := List.getElem_of_mem memberFirst
  obtain ⟨j, after, rfl⟩ := List.getElem_of_mem memberSecond
  rcases Nat.lt_trichotomy i j with first | same | second
  · exact apart i j before after first
  · simp only [same, Nat.lt_irrefl] at below
  · have backwards := apart j i after before second
    omega

/-- No two arrivals share a first register, since each takes at least one. -/
theorem slots_increasing (bounded : count < 0x100000000) (fits : Arrival.total arrivals ≤ count)
    (sized : ∀ arrival ∈ arrivals, 0 < arrival.size) :
    (Arrival.slots count arrivals).Pairwise (·.1 < ·.1) := by
  apply (slots_apart bounded fits).imp_of_mem
  intro first second member _ apart
  have positive := sized first.2 (mem_of_mem_slots member)
  rw [UInt32.lt_iff_toNat_lt]
  omega

end slots

/-- What an arrival puts into its first register. -/
def Arrival.occupant (arrival : Arrival) : Occupant :=
  ⟨0, arrival.name, arrival.descriptor⟩

theorem entered_parameters {parameters : List Parameter} {arrivals : List Arrival} (count : UInt32)
    (found : parameters.mapM Parameter.arrival? = some arrivals) :
    parameters.tails.filterMap (Parameter.entered? count) =
      (Arrival.slots count.toNat arrivals).map fun (register, arrival) =>
        (register, arrival.occupant) := by
  induction parameters generalizing arrivals with
  | nil =>
    cases found
    rfl
  | cons parameter rest ih =>
    have total := (total_of_mapM found).1
    rw [List.mapM_cons] at found
    obtain ⟨first, known, found⟩ := Option.bind_eq_some_iff.mp found
    obtain ⟨others, later, same⟩ := Option.bind_eq_some_iff.mp found
    obtain ⟨name, named, rfl⟩ := Option.map_eq_some_iff.mp known
    cases same
    have here : Parameter.entered? count (parameter :: rest) =
        some (UInt32.ofNat (count.toNat - Parameter.total (parameter :: rest)),
          ⟨0, name, parameter.descriptor⟩) := by
      rw [Parameter.entered?, named, Parameter.total_eq_sum]
      rfl
    rw [List.tails_cons, List.filterMap_cons, here, ih later, Arrival.slots, List.map_cons, total]
    rfl

/-- The arrivals are in the registers that the method is entered with. -/
theorem entered_eq_slots {frame : Frame} {arrivals : List Arrival}
    (known : frame.arrivals? = some arrivals) : frame.entered =
      (Arrival.slots frame.registerCount.toNat arrivals).map fun (register, arrival) =>
        (register, arrival.occupant) := by
  have total := total_arrivals known
  obtain ⟨parameters, found, rfl⟩ := arrivals?_eq_some_iff.mp known
  rw [Frame.entered, entered_parameters frame.registerCount found]
  cases receives : frame.receiver with
  | none =>
    rw [Frame.receiverArrivals, receives]
    rfl
  | some descriptor =>
    rw [Frame.receiverArrivals, receives] at total ⊢
    rw [← total]
    rfl

section frame

variable {frame : Frame} {arrivals : List Arrival}

theorem atEntry_eq_ofList (known : frame.arrivals? = some arrivals) :
    Live.atEntry frame.registerCount arrivals = Std.ExtTreeMap.ofList frame.entered := by
  rw [entered_eq_slots known]
  rfl

theorem entered_increasing (known : frame.arrivals? = some arrivals)
    (fits : frame.insSize ≤ frame.registerCount.toNat) :
    frame.entered.Pairwise (·.1 < ·.1) := by
  rw [entered_eq_slots known]
  exact List.pairwise_map.mpr (slots_increasing frame.registerCount.toNat_lt
    (total_arrivals known ▸ fits) (size_pos_of_arrivals known))

theorem nodup_entered (known : frame.arrivals? = some arrivals)
    (fits : frame.insSize ≤ frame.registerCount.toNat) : (frame.entered.map Prod.fst).Nodup := by
  apply List.pairwise_map.mpr
  apply (entered_increasing known fits).imp
  intro first second before
  exact UInt32.ne_of_lt before

/-- On entry a register holds what the method is entered with there. -/
theorem getElem?_atEntry (known : frame.arrivals? = some arrivals)
    (fits : frame.insSize ≤ frame.registerCount.toNat) (register : UInt32) :
    (Live.atEntry frame.registerCount arrivals)[register]? = frame.entered.lookup register := by
  rw [atEntry_eq_ofList known, TreeMap.getElem?_ofList_eq_lookup (nodup_entered known fits)]

theorem isSome_atEntry_iff {register : UInt32} (known : frame.arrivals? = some arrivals) :
    (Live.atEntry frame.registerCount arrivals)[register]?.isSome ↔ frame.Enters register := by
  rw [← Std.ExtTreeMap.mem_iff_isSome_getElem?, atEntry_eq_ofList known,
    Std.ExtTreeMap.mem_ofList, List.contains_iff_mem, Frame.Enters]

/-- On entry exactly the arrivals live, each in its first register. -/
theorem toList_atEntry_perm (known : frame.arrivals? = some arrivals)
    (fits : frame.insSize ≤ frame.registerCount.toNat) :
    (Live.atEntry frame.registerCount arrivals).toList.Perm frame.entered := by
  rw [atEntry_eq_ofList known]
  exact TreeMap.toList_ofList_perm (nodup_entered known fits)

end frame

theorem start_atEntry {count : UInt32} {arrivals : List Arrival} {register : UInt32}
    {occupant : Occupant} (found : (Live.atEntry count arrivals)[register]? = some occupant) :
    occupant.start = 0 := by
  rw [Live.atEntry, TreeMap.getElem?_ofList, Option.map_eq_some_iff] at found
  rcases found with ⟨entry, found, same⟩
  have member := List.mem_reverse.mp (List.mem_of_find?_eq_some found)
  rcases List.mem_map.mp member with ⟨⟨slot, arrival⟩, -, made⟩
  rw [← same, ← made]

end DebugTables.Dex
