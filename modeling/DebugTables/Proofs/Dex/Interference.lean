import Mathlib
import DebugTables.Proofs.Dex.Liveness
import DebugTables.Proofs.Dex.Openings
import DebugTables.Proofs.Dex.Overlap
import DebugTables.Proofs.Throughout

/-! When two variables are in one register. A long or a double takes the register after its slot as
well, but an event only gives up what stands in its own register. So a local that comes into the
second register of a live long, or a long that comes in below a live local, shares a register with
it, and nothing else does. -/

namespace DebugTables

/-- The variable takes the register where the code has got to the offset. -/
structure LocalVariable.TakesAt (entry : LocalVariable) (register offset : UInt32) : Prop where
  first : entry.slot.toNat ≤ register.toNat
  last : register.toNat < entry.slot.toNat + Dex.typeSize entry.descriptor
  lives : entry.LivesAt entry.slot offset

/-- Two variables take no register at the same offset. -/
def LocalVariable.Apart (first second : LocalVariable) : Prop :=
  ∀ register offset, ¬(first.TakesAt register offset ∧ second.TakesAt register offset)

instance : Std.Symm LocalVariable.Apart where
  symm _ _ apart register offset both := apart register offset both.symm

namespace Dex

theorem typeSize_cases (descriptor : String) :
    typeSize descriptor = 1 ∨ typeSize descriptor = 2 := by
  unfold typeSize
  split
  · exact Or.inr rfl
  · exact Or.inl rfl

/-- Two variables of different slots meet in the second register of the lower one. -/
theorem wide_of_takesAt {lower upper : LocalVariable} {register offset : UInt32}
    (below : lower.slot.toNat < upper.slot.toNat) (lowerTakes : lower.TakesAt register offset)
    (upperTakes : upper.TakesAt register offset) :
    typeSize lower.descriptor = 2 ∧ upper.slot.toNat = lower.slot.toNat + 1 := by
  have size := typeSize_cases lower.descriptor
  have last := lowerTakes.last
  have first := upperTakes.first
  omega

/-- What a register of the frame carries at an offset. -/
def Frame.carried (frame : Frame) (arrivals : List Arrival) (events : List Event)
    (register offset : UInt32) : Option Occupant :=
  carriedAt register offset frame.codeSize (Live.atEntry frame.registerCount arrivals)[register]?
    events

/-- Nothing live has anything in its second register. -/
def Live.Apart (live : Live) : Prop :=
  ∀ (lower upper : UInt32) (occupant : Occupant), live[lower]? = some occupant →
    typeSize occupant.descriptor = 2 → upper.toNat = lower.toNat + 1 → live[upper]? = none

/-- The event puts something into the second register of what is live there, or something that takes
two registers below what is live. -/
def Event.Crosses (live : Live) (event : Event) : Prop :=
  ∃ (lower upper : UInt32) (below above : Occupant), upper.toNat = lower.toNat + 1 ∧
    typeSize below.descriptor = 2 ∧
    (live[lower]? = some below ∧ event.opens? (live[·]?) = some (upper, above) ∨
      event.opens? (live[·]?) = some (lower, below) ∧ live[upper]? = some above)

section states

variable {live : Live} {event : Event} {events : List Event}

/-- What lives after an event lived before or came in by it. -/
theorem getElem?_next_cases {register : UInt32} {occupant : Occupant}
    (held : (live.next event)[register]? = some occupant) : live[register]? = some occupant ∨
      event.opens? (live[·]?) = some (register, occupant) := by
  rw [getElem?_next] at held
  by_cases own : event.register? = some register
  · cases event with
    | startLocal slot info offset =>
      cases own
      rw [heldAfter, if_pos rfl] at held
      cases held
      exact Or.inr rfl
    | restartLocal slot info offset =>
      cases own
      rw [heldAfter, if_pos rfl] at held
      cases before : live[register]? with
      | none =>
        rw [before] at held
        cases held
        exact Or.inr (if_pos before)
      | some other =>
        rw [before] at held
        exact Or.inl held
    | endLocal slot offset =>
      cases own
      rw [heldAfter, if_pos rfl] at held
      cases held
    | _ => cases own
  · rw [heldAfter_other own] at held
    exact Or.inl held

/-- An event that does not cross what lives keeps everything apart. -/
theorem Live.Apart.next (apart : live.Apart) (keeps : ¬event.Crosses live) :
    (live.next event).Apart := by
  intro lower upper below heldLower wide above
  by_contra occupied
  obtain ⟨other, heldUpper⟩ := Option.ne_none_iff_exists'.mp occupied
  -- What comes in crosses what stood there before, and no event brings in two at once.
  rcases getElem?_next_cases heldLower with stoodBelow | cameBelow
  · rcases getElem?_next_cases heldUpper with stoodAbove | cameAbove
    · rw [apart lower upper below stoodBelow wide above] at stoodAbove
      cases stoodAbove
    · exact keeps ⟨lower, upper, below, other, above, wide, Or.inl ⟨stoodBelow, cameAbove⟩⟩
  · rcases getElem?_next_cases heldUpper with stoodAbove | cameAbove
    · exact keeps ⟨lower, upper, below, other, above, wide, Or.inr ⟨cameBelow, stoodAbove⟩⟩
    · rw [cameBelow] at cameAbove
      cases cameAbove
      omega

/-- A run of events that cross nothing keeps everything apart. -/
theorem Live.Apart.after (apart : live.Apart)
    (keeps : Throughout (fun before event => ¬event.Crosses (live.after before)) events) :
    (live.after events).Apart := by
  induction events using List.reverseRecOn with
  | nil => exact apart
  | append_singleton events event ih =>
    obtain ⟨earlier, last⟩ := throughout_concat_iff.mp keeps
    rw [Live.after, List.foldl_concat]
    exact (ih earlier).next last

/-- Of events in the order of their offsets a first part is reached at an offset. -/
theorem filter_reached_eq_takeWhile (offset : UInt32)
    (ordered : events.Pairwise (·.offset ≤ ·.offset)) :
    events.filter (·.offset ≤ offset) = events.takeWhile (·.offset ≤ offset) := by
  induction events with
  | nil => rfl
  | cons event rest ih =>
    obtain ⟨first, ordered⟩ := List.pairwise_cons.mp ordered
    by_cases reached : event.offset ≤ offset
    · simp [reached, ih ordered]
    · have later : ∀ other ∈ rest, ¬other.offset ≤ offset :=
        fun other member past => reached (UInt32.le_trans (first other member) past)
      simpa [reached] using later

theorem exists_prefix_heldAt (live : Live) (offset : UInt32)
    (ordered : events.Pairwise (·.offset ≤ ·.offset)) : ∃ first, first <+: events ∧
      ∀ register, heldAt register offset live[register]? events =
        (live.after first)[register]? := by
  refine ⟨events.takeWhile (·.offset ≤ offset), List.takeWhile_prefix _, ?_⟩
  intro register
  rw [heldAt, filter_reached_eq_takeWhile offset ordered, getElem?_after]

end states

section frame

variable {frame : Frame} {arrivals : List Arrival} {events : List Event}
  {entries : List LocalVariable}

/-- The arrivals of a method are apart where its receiver is no long or double. -/
theorem apart_atEntry (known : frame.arrivals? = some arrivals)
    (fits : frame.insSize ≤ frame.registerCount.toNat)
    (narrow : ∀ descriptor ∈ frame.receiver, typeSize descriptor = 1) :
    (Live.atEntry frame.registerCount arrivals).Apart := by
  have held_iff (register : UInt32) (occupant : Occupant) :
      (Live.atEntry frame.registerCount arrivals)[register]? = some occupant ↔
        ∃ arrival, (register, arrival) ∈ Arrival.slots frame.registerCount.toNat arrivals ∧
          (⟨0, arrival.name, arrival.descriptor⟩ : Occupant) = occupant := by
    rw [← Std.ExtTreeMap.mem_toList_iff_getElem?_eq_some,
      (toList_atEntry_perm known fits).mem_iff, entered_eq_slots known, List.mem_map]
    simp [Arrival.occupant]
  intro lower upper below heldLower wide above
  by_contra occupied
  obtain ⟨other, heldUpper⟩ := Option.ne_none_iff_exists'.mp occupied
  obtain ⟨first, memberFirst, rfl⟩ := (held_iff lower below).mp heldLower
  obtain ⟨second, memberSecond, rfl⟩ := (held_iff upper other).mp heldUpper
  have size : first.size = 2 :=
    (size_of_arrivals known narrow first (mem_of_mem_slots memberFirst)).trans wide
  have room : lower.toNat + first.size ≤ upper.toNat :=
    size_le_of_mem_slots frame.registerCount.toNat_lt (total_arrivals known ▸ fits) memberFirst
      memberSecond (above ▸ Nat.lt_succ_self _)
  omega

theorem carried_eq_some_iff (known : frame.arrivals? = some arrivals)
    (ordered : events.Pairwise (·.offset ≤ ·.offset)) (found : frame.locals events = .ok entries)
    {register offset : UInt32} {occupant : Occupant} :
    frame.carried arrivals events register offset = some occupant ↔
      ∃ entry ∈ entries, entry.LivesAt register offset ∧
        (⟨entry.start, entry.name, entry.descriptor⟩ : Occupant) = occupant := by
  rw [← Option.mem_toList, Frame.carried, ← living_locals_carried register offset known ordered
    found, living, List.mem_map]
  simp [and_assoc]

theorem apart_of_same_slot (ordered : events.Pairwise (·.offset ≤ ·.offset))
    (found : frame.locals events = .ok entries) : entries.Pairwise fun first second =>
      first.slot = second.slot → first.Apart second := by
  cases known : frame.arrivals? with
  | none =>
    rw [Frame.locals, known] at found
    cases found
    exact .nil
  | some arrivals =>
    have turns : events.Pairwise Event.InTurn := by
      apply ordered.imp
      intro earlier later before
      cases earlier with
      | endLocal register stop => exact fun _ => before
      | _ => trivial
    have chained : entries.Pairwise fun first second =>
        first.slot = second.slot → first.stop ≤ second.start.toNat :=
      pairwise_of_slots fun register => (rangesOf_chained turns (rangesOf_locals known found)).1
    apply chained.imp
    intro first second follows same register offset both
    have stop := follows same
    have inside := both.1.lives.2.2
    have start := UInt32.le_iff_toNat_le.mp both.2.lives.2.1
    omega

/-- The lower of two variables that meet is carried below the upper one. -/
theorem not_carried_of_takesAt (known : frame.arrivals? = some arrivals)
    (ordered : events.Pairwise (·.offset ≤ ·.offset)) (found : frame.locals events = .ok entries)
    (clear : ∀ lower upper offset below, frame.carried arrivals events lower offset = some below →
      typeSize below.descriptor = 2 → upper.toNat = lower.toNat + 1 →
      frame.carried arrivals events upper offset = none)
    {first second : LocalVariable} (memberFirst : first ∈ entries) (memberSecond : second ∈ entries)
    (below : first.slot.toNat < second.slot.toNat) {register offset : UInt32}
    (takesFirst : first.TakesAt register offset) : ¬second.TakesAt register offset := by
  intro takesSecond
  obtain ⟨wide, above⟩ := wide_of_takesAt below takesFirst takesSecond
  have lower := (carried_eq_some_iff known ordered found).mpr
    ⟨first, memberFirst, takesFirst.lives, rfl⟩
  have upper := (carried_eq_some_iff known ordered found).mpr
    ⟨second, memberSecond, takesSecond.lives, rfl⟩
  rw [clear _ _ _ _ lower wide above] at upper
  cases upper

/-- The variables are apart exactly if nothing is ever carried in the second register of what is
carried below. -/
theorem pairwise_apart_iff (known : frame.arrivals? = some arrivals)
    (ordered : events.Pairwise (·.offset ≤ ·.offset)) (found : frame.locals events = .ok entries) :
    entries.Pairwise LocalVariable.Apart ↔
      ∀ lower upper offset below, frame.carried arrivals events lower offset = some below →
        typeSize below.descriptor = 2 → upper.toNat = lower.toNat + 1 →
        frame.carried arrivals events upper offset = none := by
  have carried := @carried_eq_some_iff _ _ _ _ known ordered found
  constructor
  · intro apart lower upper offset below carriedBelow wide above
    by_contra occupied
    obtain ⟨other, carriedAbove⟩ := Option.ne_none_iff_exists'.mp occupied
    obtain ⟨first, memberFirst, livesFirst, rfl⟩ := carried.mp carriedBelow
    obtain ⟨second, memberSecond, livesSecond, rfl⟩ := carried.mp carriedAbove
    have slotFirst : first.slot = lower := livesFirst.1
    have slotSecond : second.slot = upper := livesSecond.1
    have differ : first ≠ second := by
      intro same
      rw [← slotFirst, ← slotSecond, same] at above
      omega
    have positive := typeSize_pos second.descriptor
    have meet := apart.forall memberFirst memberSecond differ upper offset
    subst slotFirst slotSecond
    exact meet ⟨⟨by omega, by simp only at wide; omega, livesFirst⟩,
      ⟨Nat.le_refl _, by omega, livesSecond⟩⟩
  · intro clear
    -- Variables of one slot are apart anyway, and of two slots the lower one has to be wide to meet
    -- the other.
    apply (apart_of_same_slot ordered found).imp_of_mem
    intro first second memberFirst memberSecond follows register offset both
    rcases Nat.lt_trichotomy first.slot.toNat second.slot.toNat with below | same | above
    · exact not_carried_of_takesAt known ordered found clear memberFirst memberSecond below both.1
        both.2
    · exact follows (UInt32.toNat.inj same) register offset both
    · exact not_carried_of_takesAt known ordered found clear memberSecond memberFirst above both.2
        both.1

/-- Events that cross nothing leave the second register of what is carried empty. -/
theorem clear_of_not_crosses (known : frame.arrivals? = some arrivals)
    (fits : frame.insSize ≤ frame.registerCount.toNat)
    (ordered : events.Pairwise (·.offset ≤ ·.offset))
    (narrow : ∀ descriptor ∈ frame.receiver, typeSize descriptor = 1)
    (keeps : Throughout (fun before event =>
      ¬event.Crosses ((Live.atEntry frame.registerCount arrivals).after before)) events) :
    ∀ lower upper offset below, frame.carried arrivals events lower offset = some below →
      typeSize below.descriptor = 2 → upper.toNat = lower.toNat + 1 →
      frame.carried arrivals events upper offset = none := by
  intro lower upper offset below carried wide above
  obtain ⟨first, ⟨rest, rfl⟩, held⟩ :=
    exists_prefix_heldAt (Live.atEntry frame.registerCount arrivals) offset ordered
  have apart := (apart_atEntry known fits narrow).after (Throughout.of_append keeps)
  rw [Frame.carried, carriedAt, held] at carried ⊢
  obtain ⟨-, heldLower⟩ := Option.ite_none_right_eq_some.mp carried
  rw [apart lower upper below heldLower wide above]
  exact ite_self none

end frame

/-- Which variables of decoded debug info share a register while they live. Those of one slot never
do. All of them are apart exactly if the second register of a long or a double never carries
anything, and that is so if no event puts something into such a register or a long or a double below
something. -/
theorem locals_apart_iff_second_register_free (pools : Pools) (bytes : Bytes) (info : DebugInfo)
    (decoded : DebugInfo.decode pools bytes = .ok info) (frame : Frame)
    (named : ∀ parameter ∈ frame.parameters, parameter.name.isSome) :
    ∃ arrivals, frame.arrivals? = some arrivals ∧
      ∀ entries, frame.locals info.events = .ok entries →
        (entries.Pairwise fun first second => first.slot = second.slot → first.Apart second) ∧
        (entries.Pairwise LocalVariable.Apart ↔
          ∀ lower upper offset below,
            frame.carried arrivals info.events lower offset = some below →
            typeSize below.descriptor = 2 → upper.toNat = lower.toNat + 1 →
            frame.carried arrivals info.events upper offset = none) ∧
        ((∀ descriptor ∈ frame.receiver, typeSize descriptor = 1) →
          Throughout (fun before event =>
            ¬event.Crosses ((Live.atEntry frame.registerCount arrivals).after before))
            info.events →
          entries.Pairwise LocalVariable.Apart) := by
  have ordered := ordered_of_decode decoded
  obtain ⟨arrivals, known⟩ := exists_arrivals named
  refine ⟨arrivals, known, ?_⟩
  intro entries found
  have apart_iff := pairwise_apart_iff known ordered found
  refine ⟨apart_of_same_slot ordered found, apart_iff, ?_⟩
  intro narrow keeps
  have fits := ((locals_eq_ok_iff known).mp found).1
  exact apart_iff.mpr (clear_of_not_crosses known fits ordered narrow keeps)

/-- A long that is ended before a local of its second register starts. -/
theorem locals_apart_iff_second_register_free_after_end :
    let pools : Pools := ⟨["x", "y"], ["J", "I"]⟩
    let bytes : Bytes := [0, 0, 1, 1, 3, 0, 1, 1, 1, 4, 5, 0, 1, 1, 3, 1, 2, 2, 0]
    let frame : Frame := ⟨5, some "LA;", [⟨"J", some "n", none⟩], 9⟩
    let start : Event := .startLocal 0 ⟨"x", "J", none⟩ 1
    let next : Event := .startLocal 1 ⟨"y", "I", none⟩ 6
    let events : List Event := [start, .endLocal 0 5, next]
    let entries : List LocalVariable := [⟨1, 4, "x", "J", 0⟩, ⟨6, 3, "y", "I", 1⟩,
      ⟨0, 9, "this", "LA;", 2⟩, ⟨0, 9, "n", "J", 3⟩]
    (DebugInfo.decode pools bytes = .ok ⟨0, [], events⟩ ∧ frame.locals events = .ok entries) ∧
    entries.Pairwise LocalVariable.Apart := by
  intro pools bytes frame start next events entries
  have decoded : DebugInfo.decode pools bytes = .ok ⟨0, [], events⟩ := by cbv
  have found : frame.locals events = .ok entries := by cbv
  refine ⟨⟨decoded, found⟩, ?_⟩
  obtain ⟨arrivals, known, apart⟩ :=
    locals_apart_iff_second_register_free pools bytes _ decoded frame (by decide)
  have given : frame.arrivals? = some [⟨"this", "LA;", 1⟩, ⟨"n", "J", 2⟩] := by cbv
  rw [given] at known
  cases known
  apply (apart entries found).2.2 (by decide)
  change Throughout _ ([] ++ [start] ++ [.endLocal 0 5] ++ [next])
  refine throughout_concat_iff.mpr ⟨throughout_concat_iff.mpr
    ⟨throughout_concat_iff.mpr ⟨throughout_nil, ?_⟩, ?_⟩, ?_⟩
  · rintro ⟨lower, upper, below, above, second, wide, ⟨stands, comes⟩ | ⟨comes, stands⟩⟩
    · cases comes
      cases second
    · cases comes
      cases UInt32.toNat.inj (b := 1) second
      have empty : (Live.atEntry 5 [⟨"this", "LA;", 1⟩, ⟨"n", "J", 2⟩])[(1 : UInt32)]? = none := by
        cbv
      cases empty.symm.trans stands
  · rintro ⟨lower, upper, below, above, second, wide, ⟨stands, comes⟩ | ⟨comes, stands⟩⟩ <;>
      cases comes
  · rintro ⟨lower, upper, below, above, second, wide, ⟨stands, comes⟩ | ⟨comes, stands⟩⟩
    · cases comes
      cases UInt32.toNat.inj (a := 0) (Nat.succ.inj second)
      have empty : ((Live.atEntry 5 [⟨"this", "LA;", 1⟩, ⟨"n", "J", 2⟩]).after
          [start, .endLocal 0 5])[(0 : UInt32)]? = none := by
        cbv
      cases empty.symm.trans stands
    · cases comes
      cases wide

/-- A local that starts in the second register of a live long: both are in it at offset 8. -/
theorem long_and_local_share_register :
    let pools : Pools := ⟨["w", "x"], ["J", "I"]⟩
    let bytes : Bytes := [0, 0, 3, 0, 1, 1, 1, 5, 3, 1, 2, 2, 0]
    let frame : Frame := ⟨2, none, [], 20⟩
    ∃ info entries, DebugInfo.decode pools bytes = .ok info ∧
      frame.locals info.events = .ok entries ∧ ¬entries.Pairwise LocalVariable.Apart := by
  intro pools bytes frame
  have decoded : DebugInfo.decode pools bytes =
      .ok ⟨0, [], [.startLocal 0 ⟨"w", "J", none⟩ 0, .startLocal 1 ⟨"x", "I", none⟩ 5]⟩ := by cbv
  have found : frame.locals
      [.startLocal 0 ⟨"w", "J", none⟩ 0, .startLocal 1 ⟨"x", "I", none⟩ 5] =
      .ok [⟨0, 20, "w", "J", 0⟩, ⟨5, 15, "x", "I", 1⟩] := by
    cbv
  refine ⟨_, _, decoded, found, ?_⟩
  intro apart
  have separate := (List.pairwise_cons.mp apart).1 _ (List.mem_cons_self ..) 1 8
  exact separate ⟨⟨by decide, by decide, by decide⟩, ⟨by decide, by decide, by decide⟩⟩

end Dex

end DebugTables
