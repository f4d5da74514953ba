import Mathlib

/-! Tree maps as lists of pairs: what a map made of pairs holds, and what the pairs of a map are. -/

namespace DebugTables.TreeMap

variable {α β : Type} [Ord α] [Std.TransOrd α] [Std.LawfulEqOrd α]

theorem nodup_keys (map : Std.ExtTreeMap α β) : (map.toList.map Prod.fst).Nodup := by
  refine List.pairwise_map.mpr (Std.ExtTreeMap.distinct_keys_toList.imp ?_)
  intro first second differ same
  exact differ (Std.LawfulEqOrd.compare_eq_iff_eq.mpr same)

/-- Pairs with distinct keys that say the same as a map are the pairs of the map. -/
theorem toList_perm {map : Std.ExtTreeMap α β} {pairs : List (α × β)}
    (distinct : (pairs.map Prod.fst).Nodup)
    (same : ∀ key value, map[key]? = some value ↔ (key, value) ∈ pairs) :
    map.toList.Perm pairs := by
  apply (List.perm_ext_iff_of_nodup (nodup_keys map).of_map distinct.of_map).mpr
  intro entry
  rw [Std.ExtTreeMap.mem_toList_iff_getElem?_eq_some]
  exact same entry.1 entry.2

/-- The pairs of a map are that of one key, if the map has it, and those of all other keys. -/
theorem toList_perm_erase (map : Std.ExtTreeMap α β) (key : α) :
    map.toList.Perm
      ((map[key]?.toList.map fun value => (key, value)) ++ (map.erase key).toList) := by
  have absent : (map.erase key)[key]? = none := Std.ExtTreeMap.getElem?_erase_self
  apply toList_perm
  · rw [List.map_append, List.map_map]
    apply List.Nodup.append _ (nodup_keys _) _
    · cases map[key]? <;> simp
    · intro other first second
      obtain ⟨value, -, rfl⟩ := List.mem_map.mp first
      obtain ⟨entry, member, same⟩ := List.mem_map.mp second
      have present := Std.ExtTreeMap.mem_toList_iff_getElem?_eq_some.mp member
      rw [same, Function.comp_apply, absent] at present
      cases present
  · intro other value
    rw [List.mem_append, Std.ExtTreeMap.mem_toList_iff_getElem?_eq_some]
    by_cases same : key = other
    · subst same
      simp
    · rw [Std.ExtTreeMap.getElem?_erase, if_neg (mt Std.LawfulEqOrd.eq_of_compare same)]
      simp [same]

theorem toList_insert_perm (map : Std.ExtTreeMap α β) (key : α) (value : β) :
    (map.insert key value).toList.Perm ((key, value) :: (map.erase key).toList) := by
  have rest : (map.insert key value).erase key = map.erase key := by
    apply Std.ExtTreeMap.ext_getElem?
    intro other
    rw [Std.ExtTreeMap.getElem?_erase, Std.ExtTreeMap.getElem?_erase,
      Std.ExtTreeMap.getElem?_insert]
    split <;> rfl
  have split := toList_perm_erase (map.insert key value) key
  rw [rest, Std.ExtTreeMap.getElem?_insert_self] at split
  exact split

variable [DecidableEq α]

/-- Of the pairs with one key a map keeps the last. -/
theorem getElem?_ofList (pairs : List (α × β)) (key : α) :
    (Std.ExtTreeMap.ofList pairs)[key]? = (pairs.reverse.find? (·.1 = key)).map (·.2) := by
  rw [Std.ExtTreeMap.ofList_eq_insertMany_empty, Std.ExtTreeMap.getElem?_insertMany_list,
    List.findSomeRev?_eq_findSome?_reverse, Std.ExtTreeMap.getElem?_empty, Option.or_none]
  simp only [Std.LawfulEqOrd.compare_eq_iff_eq]
  induction pairs.reverse with
  | nil => rfl
  | cons pair rest ih =>
    by_cases same : pair.1 = key
    · simp [same]
    · simp only [List.findSome?_cons, if_neg same, ih, List.find?_cons, decide_eq_false same]

theorem getElem?_ofList_of_nodup {pairs : List (α × β)}
    (distinct : (pairs.map Prod.fst).Nodup) {key : α} {value : β} :
    (Std.ExtTreeMap.ofList pairs)[key]? = some value ↔ (key, value) ∈ pairs := by
  refine ⟨?_, ?_⟩
  · intro found
    rw [getElem?_ofList, Option.map_eq_some_iff] at found
    obtain ⟨⟨other, last⟩, found, rfl⟩ := found
    have same := List.find?_some found
    have member := List.mem_of_find?_eq_some found
    rw [decide_eq_true_eq] at same
    subst same
    exact List.mem_reverse.mp member
  · intro member
    refine Std.ExtTreeMap.getElem?_ofList_of_mem Std.ReflOrd.compare_self ?_ member
    refine (List.pairwise_map.mp distinct).imp ?_
    intro first second differ equal
    exact differ (Std.LawfulEqOrd.eq_of_compare equal)

/-- Where no two pairs share a key, the map answers as the list does. -/
theorem getElem?_ofList_eq_lookup {pairs : List (α × β)}
    (distinct : (pairs.map Prod.fst).Nodup) (key : α) :
    (Std.ExtTreeMap.ofList pairs)[key]? = pairs.lookup key := by
  refine Option.ext fun value => ?_
  rw [getElem?_ofList_of_nodup distinct, List.lookup_eq_some_iff]
  constructor
  · intro member
    obtain ⟨before, after, rfl⟩ := List.append_of_mem member
    refine ⟨before, after, rfl, ?_⟩
    intro entry earlier
    rw [List.map_append, List.map_cons] at distinct
    have differ := (List.nodup_append.mp distinct).2.2 entry.1
      (List.mem_map_of_mem earlier) key List.mem_cons_self
    exact bne_iff_ne.mpr differ.symm
  · rintro ⟨before, after, rfl, -⟩
    exact List.mem_append_cons_self

theorem toList_ofList_perm {pairs : List (α × β)} (distinct : (pairs.map Prod.fst).Nodup) :
    (Std.ExtTreeMap.ofList pairs).toList.Perm pairs :=
  toList_perm distinct fun _ _ => getElem?_ofList_of_nodup distinct

theorem ofList_toList (map : Std.ExtTreeMap α β) : Std.ExtTreeMap.ofList map.toList = map := by
  refine Std.ExtTreeMap.ext_getElem? fun {key} => Option.ext fun value => ?_
  rw [getElem?_ofList_of_nodup (nodup_keys map), Std.ExtTreeMap.mem_toList_iff_getElem?_eq_some]

/-- The pairs of one key are the value that the map holds for it. -/
theorem filter_toList (map : Std.ExtTreeMap α β) (key : α) :
    map.toList.filter (·.1 = key) = map[key]?.toList.map fun value => (key, value) := by
  cases found : map[key]? with
  | none =>
    rw [Option.toList_none, List.map_nil, List.filter_eq_nil_iff]
    intro entry member same
    have present := Std.ExtTreeMap.mem_toList_iff_getElem?_eq_some.mp member
    rw [decide_eq_true_eq] at same
    rw [same, found] at present
    cases present
  | some value =>
    have distinct := (nodup_keys map).of_map
    apply List.perm_singleton.mp
    apply (List.perm_ext_iff_of_nodup (distinct.filter _) (List.nodup_singleton _)).mpr
    intro entry
    rw [List.mem_filter, Std.ExtTreeMap.mem_toList_iff_getElem?_eq_some, decide_eq_true_eq,
      List.mem_singleton]
    refine ⟨?_, ?_⟩
    · intro both
      rcases entry with ⟨other, held⟩
      rcases both with ⟨present, same⟩
      rw [same, found] at present
      cases same
      cases present
      rfl
    · intro same
      cases same
      exact ⟨found, rfl⟩

end DebugTables.TreeMap
