import Mathlib
import DebugTables.FlatMethod

/-! The tables of a flat method, one use after the other. What is used for the first time goes to the
end of its table, and each use gets the place of what it uses. So a table has the uses without the
later ones of anything, and the numbers reach its entries one after the other. -/

namespace DebugTables

section interning

variable {α : Type} [DecidableEq α] {uses table : List α} {numbers : List Nat} {item : α}

/-- The items that are where they have not been before. -/
def firstUses (uses : List α) : List α :=
  (uses.zipIdx.filter fun (item, place) => item ∉ uses.take place).map Prod.fst

/-- The table and the numbers are those of the uses and of nothing else: the table has every first
use, each number is the place of its use, and no entry is there that is not reached, or that is
reached before the entry in front of it. -/
structure Interned (uses table : List α) (numbers : List Nat) : Prop where
  firsts : table = firstUses uses
  distinct : table.Nodup
  means : numbers.map (table[·]?) = uses.map some
  reached : ∀ number < table.length, number ∈ numbers
  increasing : ∀ number, number + 1 < table.length →
    numbers.idxOf number < numbers.idxOf (number + 1)

theorem firstUses_concat : firstUses (uses ++ [item]) =
    if item ∈ uses then firstUses uses else firstUses uses ++ [item] := by
  have earlier : (uses.zipIdx.filter fun (other, place) => other ∉ (uses ++ [item]).take place) =
      uses.zipIdx.filter fun (other, place) => other ∉ uses.take place := by
    apply List.filter_congr
    intro entry member
    have inside : entry.2 < uses.length := by simpa using List.snd_lt_of_mem_zipIdx member
    simp only [List.take_append_of_le_length (Nat.le_of_lt inside)]
  rw [firstUses, List.zipIdx_append, List.filter_append, earlier, firstUses, List.map_append]
  by_cases used : item ∈ uses <;> simp [used]

theorem mem_firstUses : item ∈ firstUses uses ↔ item ∈ uses := by
  induction uses using List.reverseRecOn with
  | nil => exact Iff.rfl
  | append_singleton uses last ih =>
    rw [firstUses_concat, List.mem_append, List.mem_singleton]
    by_cases used : last ∈ uses
    · rw [if_pos used, ih]
      exact ⟨Or.inl, fun either => either.elim id fun same => same ▸ used⟩
    · rw [if_neg used, List.mem_append, List.mem_singleton, ih]

theorem interned_nil : Interned ([] : List α) [] [] :=
  ⟨rfl, .nil, rfl, nofun, nofun⟩

namespace Interned

variable (interned : Interned uses table numbers)
include interned

theorem mem_iff : item ∈ table ↔ item ∈ uses := by
  rw [interned.firsts, mem_firstUses]

theorem lt_length : ∀ number ∈ numbers, number < table.length := by
  intro number member
  have looked : table[number]? ∈ uses.map some :=
    interned.means ▸ List.mem_map_of_mem (f := (table[·]?)) member
  obtain ⟨use, -, found⟩ := List.mem_map.mp looked
  exact (List.getElem?_eq_some_iff.mp found.symm).choose

theorem length_numbers : numbers.length = uses.length := by
  have lengths := congrArg List.length interned.means
  rwa [List.length_map, List.length_map] at lengths

/-- The number of a use leads back to what is used. -/
theorem exists_number {place : Nat} (used : uses[place]? = some item) :
    ∃ number, numbers[place]? = some number ∧ table[number]? = some item := by
  have means : numbers[place]?.map (table[·]?) = uses[place]?.map some := by
    rw [← List.getElem?_map, ← List.getElem?_map, interned.means]
  rw [used, Option.map_some] at means
  exact Option.map_eq_some_iff.mp means

theorem length_le : table.length ≤ uses.length :=
  (List.subperm_of_subset interned.distinct fun _ member => interned.mem_iff.mp member).length_le

/-- Numbers are words where there are no more uses than words. -/
theorem toNat_number (few : uses.length < 0x100000000) {number : Nat} (member : number ∈ numbers) :
    (UInt32.ofNat number).toNat = number := by
  have inside := interned.lt_length number member
  have fewer := interned.length_le
  exact UInt32.toNat_ofNat_of_lt (show number < 0x100000000 by omega)

theorem toNat_numbers (few : uses.length < 0x100000000) :
    (numbers.map UInt32.ofNat).map UInt32.toNat = numbers := by
  rw [List.map_map]
  refine (List.map_congr_left ?_).trans (List.map_id numbers)
  intro number member
  exact interned.toNat_number few member

/-- One more use of what the table has changes nothing in the table. -/
theorem again (used : item ∈ table) :
    Interned (uses ++ [item]) table (numbers ++ [table.idxOf item]) where
  firsts := by rw [firstUses_concat, if_pos (interned.mem_iff.mp used), ← interned.firsts]
  distinct := interned.distinct
  means := by
    rw [List.map_append, List.map_append, interned.means, List.map_singleton, List.map_singleton,
      List.getElem?_idxOf used]
  reached number inside := List.mem_append_left _ (interned.reached number inside)
  increasing number inside := by
    rw [List.idxOf_append_of_mem (interned.reached _ inside),
      List.idxOf_append_of_mem (interned.reached _ (Nat.lt_of_succ_lt inside))]
    exact interned.increasing number inside

/-- The first use of an item is the last in the table, and its number is new. -/
theorem fresh (unused : item ∉ table) :
    Interned (uses ++ [item]) (table ++ [item]) (numbers ++ [table.length]) where
  firsts := by
    rw [firstUses_concat, if_neg (fun used => unused (interned.mem_iff.mpr used)),
      ← interned.firsts]
  distinct := List.nodup_append.mpr ⟨interned.distinct, List.nodup_singleton item, by
    intro other member _ last
    rw [List.mem_singleton.mp last]
    exact fun same => unused (same ▸ member)⟩
  means := by
    have earlier : numbers.map ((table ++ [item])[·]?) = numbers.map (table[·]?) := by
      apply List.map_congr_left
      intro number member
      exact List.getElem?_append_left (interned.lt_length number member)
    rw [List.map_append, List.map_append, earlier, interned.means, List.map_singleton,
      List.map_singleton, List.getElem?_concat_length]
  reached number inside := by
    rw [List.length_append, List.length_singleton] at inside
    rcases Nat.lt_succ_iff_lt_or_eq.mp inside with before | last
    · exact List.mem_append_left _ (interned.reached number before)
    · rw [last]
      exact List.mem_append_right _ (List.mem_singleton_self _)
  increasing number inside := by
    rw [List.length_append, List.length_singleton] at inside
    have member := interned.reached number (Nat.lt_of_succ_lt_succ inside)
    rw [List.idxOf_append_of_mem member]
    -- The last number has not been there before, so it is first used after all others.
    by_cases before : number + 1 < table.length
    · rw [List.idxOf_append_of_mem (interned.reached _ before)]
      exact interned.increasing number before
    · have new : number + 1 ∉ numbers := fun member => before (interned.lt_length _ member)
      rw [List.idxOf_append_of_notMem new]
      exact Nat.lt_add_right _ (List.idxOf_lt_length_of_mem member)

theorem next :
    Interned (uses ++ [item]) (intern table item).1 (numbers ++ [(intern table item).2]) := by
  unfold intern
  by_cases used : item ∈ table
  · rw [if_pos used]
    exact interned.again used
  · rw [if_neg used]
    exact interned.fresh used

end Interned

theorem internAll_concat : internAll (uses ++ [item]) =
    ((intern (internAll uses).1 item).1, (internAll uses).2 ++ [(intern (internAll uses).1 item).2]) :=
  List.foldl_concat ..

theorem interned_internAll (uses : List α) :
    Interned uses (internAll uses).1 (internAll uses).2 := by
  induction uses using List.reverseRecOn with
  | nil => exact interned_nil
  | append_singleton uses item ih =>
    rw [internAll_concat]
    exact ih.next

example : internAll ["b", "a", "b", "c", "a"] = (["b", "a", "c"], [0, 1, 0, 2, 1]) := by decide

/-- Two uses have one number exactly if they are uses of one item. -/
theorem Interned.number_inj (interned : Interned uses table numbers) {i j : Nat} {first second : α}
    (here : uses[i]? = some first) (there : uses[j]? = some second) :
    numbers[i]? = numbers[j]? ↔ first = second := by
  obtain ⟨number, isFirst, found⟩ := interned.exists_number here
  obtain ⟨other, isSecond, foundOther⟩ := interned.exists_number there
  have inside := interned.lt_length number (List.mem_of_getElem? isFirst)
  rw [isFirst, isSecond, Option.some_inj, ← List.getElem?_inj inside interned.distinct, found,
    foundOther, Option.some_inj]

end interning

end DebugTables
