import Mathlib
import DebugTables.Proofs.SourceMap.Grammar
import DebugTables.Proofs.TreeMap

/-! What sections and items stand for is unique, and it is what the reader builds from them. -/

namespace DebugTables.Grammar
open TreeMap

theorem getElem?_files (entries : List FileEntry) (id : UInt32) :
    (Std.ExtTreeMap.ofList (entries.map fun entry => (entry.id, entry.file)))[id]? =
      declaredFile entries id := by
  rw [getElem?_ofList, declaredFile, ← List.map_reverse, List.find?_map, Option.map_map]
  rfl

/-- A mapping has the last file id up to it, or the one that ran in from before. -/
theorem getElem?_mappings (entries : List LineEntry) (running : UInt32) (i : Nat) :
    (LineEntry.mappings running entries)[i]? = (entries[i]?).map fun entry =>
      ⟨entry.inputStart, ((entries.take (i + 1)).reverse.findSome? (·.fileId)).getD running,
        entry.outputStart, entry.repeatCount, entry.increment⟩ := by
  induction entries generalizing running i with
  | nil => rfl
  | cons entry rest ih =>
    cases i with
    | zero => cases id : entry.fileId <;> simp [LineEntry.mappings, LineEntry.mapping, id]
    | succ i =>
      rw [LineEntry.mappings, List.getElem?_cons_succ, ih, List.getElem?_cons_succ,
        List.take_succ_cons, List.reverse_cons, List.findSome?_append]
      cases (rest.take (i + 1)).reverse.findSome? (·.fileId) with
      | none => cases id : entry.fileId <;> simp [LineEntry.mapping, id]
      | some last => rfl

theorem writtenFiles_eq_flatMap (sections : List Section) :
    writtenFiles sections = sections.flatMap (·.declaredFiles) := by
  induction sections with
  | nil => rfl
  | cons part rest ih =>
    rw [List.flatMap_cons, ← ih]
    cases part <;> rfl

theorem writtenLines_eq_flatMap (sections : List Section) :
    writtenLines sections = sections.flatMap (·.declaredLines) := by
  induction sections with
  | nil => rfl
  | cons part rest ih =>
    rw [List.flatMap_cons, ← ih]
    cases part <;> rfl

/-- What is built from sections is what they describe, if no file is missing. -/
theorem describes_iff {sections : List Section} {stratum : Stratum} :
    Describes sections stratum ↔
      stratum = Stratum.ofSections sections ∧ stratum.undeclared? = none := by
  have undeclared : stratum.undeclared? = none ↔
      ∀ mapping ∈ stratum.lines, ∃ file, stratum.files[mapping.fileId]? = some file := by
    simp [Stratum.undeclared?, ← Option.isSome_iff_exists]
  rw [undeclared]
  refine ⟨?_, ?_⟩
  · intro parts
    rcases parts with ⟨files, lines, declared⟩
    refine ⟨?_, declared⟩
    obtain ⟨declaredFiles, mappings⟩ := stratum
    rw [Stratum.ofSections, ← writtenFiles_eq_flatMap, ← writtenLines_eq_flatMap,
      Stratum.mk.injEq]
    refine ⟨?_, ?_⟩
    · apply Std.ExtTreeMap.ext_getElem?
      intro id
      rw [files id, getElem?_files]
    · apply List.ext_getElem?
      intro i
      rw [lines i, getElem?_mappings]
      rfl
  · intro parts
    rcases parts with ⟨rfl, declared⟩
    refine ⟨?_, ?_, declared⟩
    · intro id
      rw [writtenFiles_eq_flatMap]
      exact getElem?_files _ id
    · intro i
      rw [writtenLines_eq_flatMap]
      exact getElem?_mappings _ 0 i

theorem untilTaken_eq_none_iff {taken : List String} {named : List (String × Stratum)} :
    (SourceMap.untilTaken taken named).2 = none ↔
      (named.map Prod.fst).Nodup ∧ ∀ name ∈ taken, name ∉ named.map Prod.fst := by
  induction named generalizing taken with
  | nil => simp [SourceMap.untilTaken]
  | cons first rest ih =>
    rw [SourceMap.untilTaken]
    split
    · next repeated =>
      refine ⟨?_, ?_⟩
      · intro absent
        cases absent
      · intro parts
        rcases parts with ⟨-, free⟩
        exact absurd (List.mem_cons_self ..) (free _ repeated)
    · next fresh =>
      simp only [ih, List.map_cons, List.nodup_cons, List.mem_cons, forall_eq_or_imp, not_or]
      refine ⟨?_, ?_⟩
      · intro parts
        rcases parts with ⟨distinct, new, free⟩
        exact ⟨⟨new, distinct⟩, fun name member =>
          ⟨fun same => fresh (same ▸ member), free name member⟩⟩
      · intro parts
        rcases parts with ⟨⟨new, distinct⟩, free⟩
        exact ⟨distinct, new, fun name member => (free name member).2⟩

theorem untilTaken_fst {taken : List String} {named : List (String × Stratum)}
    (distinct : (SourceMap.untilTaken taken named).2 = none) :
    (SourceMap.untilTaken taken named).1 = named := by
  induction named generalizing taken with
  | nil => rfl
  | cons first rest ih =>
    rw [SourceMap.untilTaken] at distinct ⊢
    split at distinct
    · cases distinct
    · next fresh =>
      rw [if_neg fresh]
      exact congrArg (first :: ·) (ih distinct)

theorem mem_strata_iff {items : List SourceMap.Item} {name : String} {stratum : Stratum} :
    (name, stratum) ∈ items.filterMap (·.stratum?) ↔ .stratum name stratum ∈ items := by
  rw [List.mem_filterMap]
  refine ⟨?_, ?_⟩
  · intro parts
    rcases parts with ⟨item, member, same⟩
    cases item with
    | stratum other found => cases same; exact member
    | trailer => cases same
  · intro member
    exact ⟨_, member, rfl⟩

theorem distinct_iff {items : List SourceMap.Item} :
    (items.Pairwise fun first second =>
      ∀ name one other, first = .stratum name one → second ≠ .stratum name other) ↔
      ((items.filterMap (·.stratum?)).map Prod.fst).Nodup := by
  rw [List.nodup_iff_pairwise_ne, List.pairwise_map, List.pairwise_filterMap]
  apply List.Pairwise.iff
  intro first second
  cases first with
  | trailer => simp [SourceMap.Item.stratum?]
  | stratum name found =>
    cases second with
    | trailer => simp [SourceMap.Item.stratum?]
    | stratum other later =>
      have differ : (∀ shared one two, SourceMap.Item.stratum name found = .stratum shared one →
          SourceMap.Item.stratum other later ≠ .stratum shared two) ↔ name ≠ other := by
        constructor
        · rintro apart rfl
          exact apart name found later rfl rfl
        · rintro differ shared one two first second
          cases first
          cases second
          exact differ rfl
      rw [differ]
      simp [SourceMap.Item.stratum?]

theorem collects_iff {items : List SourceMap.Item} {strata : Std.ExtTreeMap String Stratum} :
    Collects items strata ↔ ((items.filterMap (·.stratum?)).map Prod.fst).Nodup ∧
      strata = .ofList (items.filterMap (·.stratum?)) := by
  refine ⟨?_, ?_⟩
  · intro parts
    rcases parts with ⟨apart, found⟩
    have distinct := distinct_iff.mp apart
    refine ⟨distinct, Std.ExtTreeMap.ext_getElem? fun {name} => Option.ext fun stratum => ?_⟩
    rw [found, getElem?_ofList_of_nodup distinct, mem_strata_iff]
  · intro parts
    rcases parts with ⟨distinct, rfl⟩
    refine ⟨distinct_iff.mpr distinct, fun name stratum => ?_⟩
    rw [getElem?_ofList_of_nodup distinct, mem_strata_iff]

end DebugTables.Grammar
