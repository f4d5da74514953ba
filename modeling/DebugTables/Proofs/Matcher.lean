import Mathlib
import DebugTables.Matcher
import DebugTables.Proofs.Text.Order
import DebugTables.Proofs.TreeMap

/-! What a matcher holds after any methods were added, in whatever order the two sides take turns.
For each key that is the last method of either side, so only the order within a side matters. -/

namespace DebugTables

/-- A method that is added on one side. -/
structure Insertion where
  side : Side
  method : Method

namespace Insertion

/-- The methods that are added on a side, in their order. -/
def added (side : Side) (insertions : List Insertion) : List Method :=
  (insertions.filter (·.side = side)).map (·.method)

def keys (insertions : List Insertion) : List String :=
  insertions.map (·.method.key)

/-- The insertions that add methods on one side one after the other. -/
def allOn (side : Side) (methods : List Method) : List Insertion :=
  methods.map fun method => ⟨side, method⟩

variable {insertions : List Insertion} {side : Side} {key : String}

theorem added_append (first second : List Insertion) :
    added side (first ++ second) = added side first ++ added side second := by
  rw [added, List.filter_append, List.map_append]
  rfl

theorem added_allOn (methods : List Method) : added side (allOn side methods) = methods := by
  simp [added, allOn, List.filter_map, Function.comp_def]

theorem added_allOn_other {other : Side} (different : other ≠ side) (methods : List Method) :
    added side (allOn other methods) = [] := by
  simp [added, allOn, List.filter_map, Function.comp_def, different]

theorem mem_keys_iff : key ∈ keys insertions ↔
    ∃ side, ∃ method ∈ added side insertions, method.key = key := by
  constructor
  · intro present
    obtain ⟨insertion, member, same⟩ := List.mem_map.mp present
    refine ⟨insertion.side, insertion.method, ?_, same⟩
    exact List.mem_map_of_mem (List.mem_filter.mpr ⟨member, decide_eq_true rfl⟩)
  · intro present
    obtain ⟨side, method, isAdded, same⟩ := present
    obtain ⟨insertion, member, rfl⟩ := List.mem_map.mp isAdded
    exact List.mem_map.mpr ⟨insertion, List.mem_of_mem_filter member, same⟩

end Insertion

/-- The last of the methods that have a key. -/
def lastOf (key : String) (methods : List Method) : Option Method :=
  (methods.filter (·.key = key)).getLast?

section lastOf

variable {key : String} {methods : List Method}

theorem lastOf_eq_none_iff : lastOf key methods = none ↔ ∀ method ∈ methods, method.key ≠ key := by
  simp [lastOf]

theorem exists_lastOf_iff :
    (∃ method, lastOf key methods = some method) ↔ ∃ method ∈ methods, method.key = key := by
  rw [← Option.isSome_iff_exists, ← Option.ne_none_iff_isSome, Ne, lastOf_eq_none_iff]
  simp

theorem lastOf_append_cons {method : Method} {before after : List Method}
    (others : ∀ later ∈ after, later.key ≠ method.key) :
    lastOf method.key (before ++ method :: after) = some method := by
  have none : after.filter (·.key = method.key) = [] := by simpa using others
  rw [lastOf, List.filter_append, List.filter_cons_of_pos (by simp), none,
    List.getLast?_concat]

end lastOf

namespace Matcher

open Insertion

/-- The matcher after insertions in their order. -/
def ofInsertions (insertions : List Insertion) : Matcher :=
  insertions.foldl (fun matcher insertion => matcher.add insertion.side insertion.method) empty

/-- The last methods of a key on both sides. -/
def lastSides (key : String) (insertions : List Insertion) : Sides :=
  ⟨lastOf key (added .jvm insertions), lastOf key (added .dex insertions)⟩

variable {insertions : List Insertion} {key : String}

theorem lastSides_of_not_mem (absent : key ∉ keys insertions) :
    lastSides key insertions = .empty := by
  have none (side : Side) : lastOf key (added side insertions) = none := by
    apply lastOf_eq_none_iff.mpr
    intro method member same
    exact absent (mem_keys_iff.mpr ⟨side, method, member, same⟩)
  rw [lastSides, none, none]
  rfl

theorem lastSides_concat_self (insertions : List Insertion) (insertion : Insertion) :
    lastSides insertion.method.key (insertions ++ [insertion]) =
      (lastSides insertion.method.key insertions).put insertion.method insertion.side := by
  rcases insertion with ⟨side, method⟩
  cases side <;> simp [lastSides, added, lastOf, Sides.put]

theorem lastSides_concat_other {insertion : Insertion} (other : insertion.method.key ≠ key) :
    lastSides key (insertions ++ [insertion]) = lastSides key insertions := by
  rcases insertion with ⟨side, method⟩
  cases side <;> simp [lastSides, added, lastOf, other]

theorem sides_of_getElem? {matcher : Matcher} (held : matcher.pairs[key]? =
    if key ∈ keys insertions then some (lastSides key insertions) else none) :
    matcher.sides key = lastSides key insertions := by
  rw [sides, held]
  split
  · rfl
  · next absent => exact (lastSides_of_not_mem absent).symm

/-- A matcher holds the last methods of exactly the keys that were added. -/
theorem getElem?_ofInsertions (insertions : List Insertion) (key : String) :
    (ofInsertions insertions).pairs[key]? =
      if key ∈ keys insertions then some (lastSides key insertions) else none := by
  induction insertions using List.reverseRecOn generalizing key with
  | nil => exact Std.ExtTreeMap.getElem?_empty
  | append_singleton insertions insertion ih =>
    have step : ofInsertions (insertions ++ [insertion]) =
        (ofInsertions insertions).add insertion.side insertion.method := by
      rw [ofInsertions, List.foldl_append]
      rfl
    rw [step, add, sides_of_getElem? (ih insertion.method.key)]
    by_cases same : insertion.method.key = key
    · subst same
      have member : insertion.method.key ∈ keys (insertions ++ [insertion]) := by simp [keys]
      rw [Std.ExtTreeMap.getElem?_insert_self, if_pos member, lastSides_concat_self]
    · have member : key ∈ keys (insertions ++ [insertion]) ↔ key ∈ keys insertions := by
        simp [keys, Ne.symm same]
      rw [Std.ExtTreeMap.getElem?_insert, if_neg (mt Std.LawfulEqOrd.eq_of_compare same), ih,
        lastSides_concat_other same]
      simp only [member]

theorem get_sides_ofInsertions (insertions : List Insertion) (key : String) (side : Side) :
    ((ofInsertions insertions).sides key).get side = lastOf key (added side insertions) := by
  rw [sides_of_getElem? (getElem?_ofInsertions insertions key)]
  cases side <;> rfl

theorem size_ofInsertions (insertions : List Insertion) :
    (ofInsertions insertions).size = (keys insertions).toFinset.card := by
  have distinct := TreeMap.nodup_keys (ofInsertions insertions).pairs
  have same : ((ofInsertions insertions).pairs.toList.map Prod.fst).toFinset =
      (keys insertions).toFinset := by
    ext key
    rw [List.mem_toFinset, List.mem_toFinset, Std.ExtTreeMap.map_fst_toList_eq_keys,
      Std.ExtTreeMap.mem_keys, Std.ExtTreeMap.mem_iff_isSome_getElem?, getElem?_ofInsertions]
    split <;> simp [*]
  rw [← same, List.toFinset_card_of_nodup distinct, List.length_map,
    Std.ExtTreeMap.length_toList]
  rfl

theorem isEmpty_iff (matcher : Matcher) : matcher.isEmpty = true ↔ matcher.size = 0 := by
  rw [isEmpty, size, Std.ExtTreeMap.isEmpty_iff, Std.ExtTreeMap.eq_empty_iff_size_eq_zero]

theorem mem_pairsOf_iff {matcher : Matcher} {pair : MatchedPair} : pair ∈ matcher.pairsOf ↔
    matcher.pairs[pair.key]? = some ⟨some pair.jvm, some pair.dex⟩ := by
  rw [← Std.ExtTreeMap.mem_toList_iff_getElem?_eq_some, pairsOf, List.mem_filterMap]
  constructor
  · intro made
    obtain ⟨⟨key, ⟨jvm, dex⟩⟩, member, made⟩ := made
    obtain ⟨first, rfl, made⟩ := Option.bind_eq_some_iff.mp made
    obtain ⟨second, rfl, made⟩ := Option.bind_eq_some_iff.mp made
    cases made
    exact member
  · intro member
    exact ⟨_, member, rfl⟩

theorem mem_pairsOf_ofInsertions_iff {pair : MatchedPair} :
    pair ∈ (ofInsertions insertions).pairsOf ↔
      lastOf pair.key (added .jvm insertions) = some pair.jvm ∧
        lastOf pair.key (added .dex insertions) = some pair.dex := by
  rw [mem_pairsOf_iff, getElem?_ofInsertions]
  split
  · rw [Option.some.injEq, lastSides, Sides.mk.injEq]
  · next absent =>
    have none := lastSides_of_not_mem absent
    rw [lastSides, Sides.empty, Sides.mk.injEq] at none
    simp [none.1]

/-- A key is matched exactly if both sides have methods of it. -/
theorem exists_pair_iff : (∃ pair ∈ (ofInsertions insertions).pairsOf, pair.key = key) ↔
    ∀ side, ∃ method ∈ added side insertions, method.key = key := by
  simp only [mem_pairsOf_ofInsertions_iff, ← exists_lastOf_iff]
  constructor
  · intro matched side
    obtain ⟨pair, lasts, rfl⟩ := matched
    cases side with
    | jvm => exact ⟨_, lasts.1⟩
    | dex => exact ⟨_, lasts.2⟩
  · intro both
    obtain ⟨jvm, lastJvm⟩ := both .jvm
    obtain ⟨dex, lastDex⟩ := both .dex
    exact ⟨⟨key, jvm, dex⟩, ⟨lastJvm, lastDex⟩, rfl⟩

theorem pairsOf_increasing (matcher : Matcher) : matcher.pairsOf.Pairwise
    fun first second => Utf8.encode first.key < Utf8.encode second.key := by
  have key_of_made {entry : String × Sides} {pair : MatchedPair}
      (made : (do return ⟨entry.1, ← entry.2.jvm, ← entry.2.dex⟩) = some pair) :
      pair.key = entry.1 := by
    obtain ⟨jvm, -, made⟩ := Option.bind_eq_some_iff.mp made
    obtain ⟨dex, -, made⟩ := Option.bind_eq_some_iff.mp made
    cases made
    rfl
  apply List.pairwise_filterMap.mpr
  apply Std.ExtTreeMap.ordered_keys_toList.imp
  intro entry other ordered pair made later madeLater
  rw [key_of_made made, key_of_made madeLater]
  exact Utf8.encode_lt (compareOfLessAndEq_eq_lt.mp ordered)

/-- The order in which the sides take turns makes no difference. -/
theorem ofInsertions_congr {first second : List Insertion}
    (same : ∀ side, added side first = added side second) :
    ofInsertions first = ofInsertions second := by
  have pairs : (ofInsertions first).pairs = (ofInsertions second).pairs := by
    apply Std.ExtTreeMap.ext_getElem?
    intro key
    have present : key ∈ keys first ↔ key ∈ keys second := by simp only [mem_keys_iff, same]
    simp only [getElem?_ofInsertions, lastSides, same, present]
  exact congrArg Matcher.mk pairs

theorem value_addAll (matcher : Matcher) (side : Side) (methods : List Method) :
    (matcher.addAll side methods).value =
      (allOn side methods).foldl (fun m insertion => m.add insertion.side insertion.method)
        matcher := by
  induction methods generalizing matcher with
  | nil => rfl
  | cons first rest ih => exact ih (matcher.add side first)

theorem value_matchMethods (jvm dex : List Method) : (matchMethods jvm dex).value =
    (ofInsertions (allOn .jvm jvm ++ allOn .dex dex)).pairsOf := by
  rw [ofInsertions, List.foldl_append, ← value_addAll, ← value_addAll]
  rfl

/-- A matcher joins its two sides on the keys of their methods. After any insertions it counts the
distinct keys of both sides, and it matches the keys that both sides have, in the order of their
bytes, each with the last method of either side. How the sides take turns makes no difference. -/
theorem matched_joins_last_methods :
    (∀ insertions : List Insertion,
      (ofInsertions insertions).size = (keys insertions).toFinset.card ∧
      ((ofInsertions insertions).isEmpty = true ↔ (ofInsertions insertions).size = 0) ∧
      (ofInsertions insertions).matched.value.Pairwise
        (fun first second => Utf8.encode first.key < Utf8.encode second.key) ∧
      (∀ key, (∃ pair ∈ (ofInsertions insertions).matched.value, pair.key = key) ↔
        ∀ side, ∃ method ∈ added side insertions, method.key = key) ∧
      ∀ pair ∈ (ofInsertions insertions).matched.value,
        lastOf pair.key (added .jvm insertions) = some pair.jvm ∧
          lastOf pair.key (added .dex insertions) = some pair.dex) ∧
    (∀ first second : List Insertion, (∀ side, added side first = added side second) →
      (ofInsertions first).size = (ofInsertions second).size ∧
        (ofInsertions first).matched.value = (ofInsertions second).matched.value) ∧
    ∀ insertions : List Insertion,
      (matchMethods (added .jvm insertions) (added .dex insertions)).value =
        (ofInsertions insertions).matched.value := by
  refine ⟨?_, ?_, ?_⟩
  · intro insertions
    refine ⟨size_ofInsertions insertions, isEmpty_iff _, pairsOf_increasing _,
      fun key => exists_pair_iff, ?_⟩
    intro pair member
    exact mem_pairsOf_ofInsertions_iff.mp member
  · intro first second same
    rw [ofInsertions_congr same]
    exact ⟨rfl, rfl⟩
  · intro insertions
    rw [value_matchMethods]
    apply congrArg pairsOf
    apply ofInsertions_congr
    intro side
    rw [added_append]
    cases side with
    | jvm => rw [added_allOn, added_allOn_other (by decide), List.append_nil]
    | dex => rw [added_allOn, added_allOn_other (by decide), List.nil_append]

/-- Two interleavings of the same methods, with two methods of one key on one side and a key that
only the other side has. -/
theorem matched_joins_last_methods_interleaved :
    let method (name : String) (line : UInt32) : Method :=
      ⟨name, "()V", 0, [⟨0, line⟩], [], ⟨"A", none, none⟩⟩
    let first : List Insertion :=
      [⟨.jvm, method "m" 1⟩, ⟨.dex, method "m" 2⟩, ⟨.jvm, method "m" 3⟩, ⟨.dex, method "n" 4⟩]
    let second : List Insertion :=
      [⟨.dex, method "m" 2⟩, ⟨.dex, method "n" 4⟩, ⟨.jvm, method "m" 1⟩, ⟨.jvm, method "m" 3⟩]
    (∀ side, added side first = added side second) ∧
      (ofInsertions second).size = 2 ∧
      (ofInsertions second).matched.value = [⟨"A.m()V", method "m" 3, method "m" 2⟩] := by
  intro method first second
  obtain ⟨joins, congruent, -⟩ := matched_joins_last_methods
  have same (side : Side) : added side first = added side second := by
    cases side <;> decide +kernel
  obtain ⟨size, matched⟩ := congruent first second same
  refine ⟨same, ?_, ?_⟩
  · rw [← size, (joins first).1]
    decide +kernel
  · rw [← matched]
    cbv

end Matcher

end DebugTables
