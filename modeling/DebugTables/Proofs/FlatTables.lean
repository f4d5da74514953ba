import Mathlib
import DebugTables.Proofs.Flattening
import DebugTables.Proofs.Keys

/-! The tables of a flat method are canonical: what is used has one entry, in the order of its first
use, and the numbers in the lists are those uses, column by column. -/

namespace DebugTables

namespace FlatMethod

/-- The numbers that all groups have in one place. -/
def column (width place : Nat) (numbers : List UInt32) : List UInt32 :=
  (List.range (numbers.length / width)).filterMap fun row => (group width numbers row)[place]?

theorem filterMap_range_getElem? {α : Type} (items : List α) :
    (List.range items.length).filterMap (items[·]?) = items := by
  induction items with
  | nil => rfl
  | cons item rest ih =>
    rw [List.length_cons, List.range_succ_eq_map, List.filterMap_cons, List.filterMap_map]
    exact congrArg (item :: ·) ih

/-- The numbers that rows are listed with, where all of them are in one place. -/
theorem column_zip_flatMap {α : Type} {width place : Nat} {print : α × Nat → List UInt32}
    {items : List α} {numbers : List Nat} (positive : 0 < width)
    (enough : items.length ≤ numbers.length) (wide : ∀ entry, (print entry).length = width)
    (each : ∀ entry, (print entry)[place]? = some (UInt32.ofNat entry.2)) :
    column width place ((items.zip numbers).flatMap print) =
      (numbers.take items.length).map UInt32.ofNat := by
  have rows : (List.range (items.zip numbers).length).filterMap
        (fun row => (group width ((items.zip numbers).flatMap print) row)[place]?) =
      (List.range (items.zip numbers).length).filterMap fun row =>
        (items.zip numbers)[row]?.map fun entry => UInt32.ofNat entry.2 := by
    apply List.filterMap_congr
    intro row member
    have found := List.getElem?_eq_getElem (List.mem_range.mp member)
    rw [group_flatMap wide found, each, found, Option.map_some]
  have second : (items.zip numbers).map Prod.snd = numbers.take items.length := by
    rw [List.zip_eq_zip_take_min, Nat.min_eq_left enough, List.take_length]
    exact List.map_snd_zip (List.length_take_le _ _)
  rw [column, length_flatMap_of_width wide, Nat.mul_div_cancel_left _ positive, rows,
    ← List.map_filterMap, filterMap_range_getElem?, ← second, List.map_map]
  rfl

end FlatMethod

namespace Method

variable {method : Method}

/-- Which files are used: line by line that of the line or the declared one, and then that of every
line that is called from somewhere. -/
theorem usedFiles_eq (method : Method) : method.usedFiles =
    (method.locations.map fun location =>
      ((method.owner.sourceMap.bind (·.remap location.line)).map (·.file)).getD
        ⟨method.owner.sourceFile.getD "<missing source>", none⟩) ++
    method.locations.filterMap fun location =>
      (method.owner.sourceMap.bind (·.remapIn "KotlinDebug" location.line)).map (·.file) := by
  have sites : method.callSites.map (·.2.file) =
      (method.locations.zipIdx.map Prod.fst).filterMap fun location =>
        (method.callSite? location.line).map (·.file) := by
    rw [callSites, List.map_filterMap, List.filterMap_map]
    simp only [Option.map_map]
    rfl
  have line (line : UInt32) : (method.sourceLine line).file =
      ((method.owner.sourceMap.bind (·.remap line)).map (·.file)).getD
        ⟨method.owner.sourceFile.getD "<missing source>", none⟩ := by
    rw [sourceLine]
    cases method.owner.sourceMap.bind (·.remap line) <;> rfl
  rw [List.zipIdx_map_fst] at sites
  simp only [usedFiles, line, sites]
  rfl

theorem sourceNumbers_eq (method : Method) :
    FlatMethod.column 4 3 method.flatten.lineLocations ++
        FlatMethod.column 3 2 method.flatten.callSites =
      (internAll method.usedFiles).2.map UInt32.ofNat := by
  have lines : FlatMethod.column 4 3 method.flatten.lineLocations =
      ((internAll method.usedFiles).2.take method.locations.length).map UInt32.ofNat :=
    FlatMethod.column_zip_flatMap (by decide) (length_locations_le method) (fun _ => rfl)
      fun _ => rfl
  have sites : FlatMethod.column 3 2 method.flatten.callSites =
      (((internAll method.usedFiles).2.drop method.locations.length).take
        method.callSites.length).map UInt32.ofNat :=
    FlatMethod.column_zip_flatMap (by decide) (length_siteNumbers method).ge (fun _ => rfl)
      fun _ => rfl
  rw [lines, sites, ← length_siteNumbers, List.take_length, ← List.map_append,
    List.take_append_drop]

theorem variableNumbers_eq (method : Method) :
    FlatMethod.column 4 3 method.flatten.localVariables =
      (internAll (method.locals.map variableName)).2.map UInt32.ofNat := by
  have entries : FlatMethod.column 4 3 method.flatten.localVariables =
      ((internAll (method.locals.map variableName)).2.take method.locals.length).map UInt32.ofNat :=
    FlatMethod.column_zip_flatMap (by decide) (length_nameNumbers method).ge (fun _ => rfl)
      fun _ => rfl
  rw [entries, ← length_nameNumbers, List.take_length]

/-- Descriptors without a colon let the last colon end the name. -/
theorem variableName_inj {first second : LocalVariable}
    (plain : ':' ∉ first.descriptor.toList) (plain' : ':' ∉ second.descriptor.toList) :
    variableName first = variableName second ↔
      first.name = second.name ∧ first.descriptor = second.descriptor := by
  have letters (entry : LocalVariable) :
      (variableName entry).toList = entry.name.toList ++ ':' :: entry.descriptor.toList := by
    simp [variableName]
  rw [← String.toList_inj, letters, letters, append_last_mark_inj plain plain', String.toList_inj,
    String.toList_inj]

theorem interned_sources (few : method.locations.length < 0x80000000) :
    Interned method.usedFiles
      (List.zipWith SourceFile.mk method.flatten.sourceNames method.flatten.sourcePaths)
      ((FlatMethod.column 4 3 method.flatten.lineLocations ++
        FlatMethod.column 3 2 method.flatten.callSites).map UInt32.toNat) := by
  have interned := interned_internAll method.usedFiles
  have table : List.zipWith SourceFile.mk method.flatten.sourceNames method.flatten.sourcePaths =
      (internAll method.usedFiles).1 := by
    simp only [flatten, List.zipWith_map, List.zipWith_self]
    exact List.map_id _
  rwa [table, sourceNumbers_eq, interned.toNat_numbers (length_usedFiles_lt few)]

theorem interned_variables (few : method.locals.length < 0x80000000) :
    Interned (method.locals.map variableName) method.flatten.variableNames
      ((FlatMethod.column 4 3 method.flatten.localVariables).map UInt32.toNat) := by
  have interned := interned_internAll (method.locals.map variableName)
  have bounded : (method.locals.map variableName).length < 0x100000000 := by
    rw [List.length_map]
    omega
  rwa [variableNumbers_eq, interned.toNat_numbers bounded]

/-- The tables of a flat method are canonical. The files are those that the lines and then the call
sites use, without the later uses of each, and the numbers of both lists together reach them one
after the other. The same holds of the variables and their list, where two variables have one number
exactly if they have one name and one descriptor, provided that no descriptor has a colon. -/
theorem flat_tables_interned (method : Method) (lines : method.locations.length < 0x80000000)
    (locals : method.locals.length < 0x80000000) :
    (method.flatten.sourceNames.length = method.flatten.sourcePaths.length ∧
      Interned
        ((method.locations.map fun location =>
          ((method.owner.sourceMap.bind (·.remap location.line)).map (·.file)).getD
            ⟨method.owner.sourceFile.getD "<missing source>", none⟩) ++
        method.locations.filterMap fun location =>
          (method.owner.sourceMap.bind (·.remapIn "KotlinDebug" location.line)).map (·.file))
        (List.zipWith SourceFile.mk method.flatten.sourceNames method.flatten.sourcePaths)
        ((FlatMethod.column 4 3 method.flatten.lineLocations ++
          FlatMethod.column 3 2 method.flatten.callSites).map UInt32.toNat)) ∧
    Interned (method.locals.map fun entry => entry.name ++ ":" ++ entry.descriptor)
      method.flatten.variableNames
      ((FlatMethod.column 4 3 method.flatten.localVariables).map UInt32.toNat) ∧
    ((∀ entry ∈ method.locals, ':' ∉ entry.descriptor.toList) →
      ∀ (i j : Nat) (first second : LocalVariable), method.locals[i]? = some first →
        method.locals[j]? = some second →
        ((FlatMethod.column 4 3 method.flatten.localVariables)[i]? =
            (FlatMethod.column 4 3 method.flatten.localVariables)[j]? ↔
          first.name = second.name ∧ first.descriptor = second.descriptor)) := by
  have named := interned_variables locals
  refine ⟨⟨?_, usedFiles_eq method ▸ interned_sources lines⟩, named, ?_⟩
  · rw [flatten, List.length_map, List.length_map]
  · intro plain i j first second here there
    have numbers (place : Nat) :
        ((FlatMethod.column 4 3 method.flatten.localVariables).map UInt32.toNat)[place]? =
          (FlatMethod.column 4 3 method.flatten.localVariables)[place]?.map UInt32.toNat :=
      List.getElem?_map
    have injective := Option.map_injective (fun _ _ => UInt32.toNat.inj)
    rw [← injective.eq_iff, ← numbers, ← numbers,
      named.number_inj (by rw [List.getElem?_map, here]; rfl)
        (by rw [List.getElem?_map, there]; rfl)]
    exact variableName_inj (plain first (List.mem_of_getElem? here))
      (plain second (List.mem_of_getElem? there))

/-- Two files of one name with different paths, one of them first used by a call site, and a name
with two types. -/
theorem flat_tables_interned_homonyms :
    let own : SourceFile := ⟨"A.kt", some "p/A.kt"⟩
    let other : SourceFile := ⟨"A.kt", some "q/A.kt"⟩
    let map : SourceMap := ⟨"A.kt", "Kotlin", .ofList [
      ("Kotlin", Stratum.mk (.ofList [((1 : UInt32), own)]) [⟨1, 1, 1, 3, 1⟩]),
      ("KotlinDebug", Stratum.mk (.ofList [((1 : UInt32), other)]) [⟨7, 1, 3, 1, 1⟩])]⟩
    let method : Method := ⟨"m", "()V", 0, [⟨0, 1⟩, ⟨4, 3⟩, ⟨6, 9⟩],
      [⟨0, 2, "x", "I", 0⟩, ⟨2, 2, "x", "S", 0⟩, ⟨4, 3, "x", "I", 1⟩], ⟨"A", some "A.kt", some map⟩⟩
    (method.locations.length < 0x80000000 ∧ method.locals.length < 0x80000000 ∧
      ∀ entry ∈ method.locals, ':' ∉ entry.descriptor.toList) ∧
    (Interned [own, own, ⟨"A.kt", none⟩, other] [own, ⟨"A.kt", none⟩, other] [0, 0, 1, 2] ∧
      Interned ["x:I", "x:S", "x:I"] ["x:I", "x:S"] [0, 1, 0]) ∧
    (FlatMethod.column 4 3 method.flatten.localVariables)[0]? ≠
      (FlatMethod.column 4 3 method.flatten.localVariables)[1]? := by
  intro own other map method
  have few : method.locations.length < 0x80000000 ∧ method.locals.length < 0x80000000 := by decide
  have plain : ∀ entry ∈ method.locals, ':' ∉ entry.descriptor.toList := by decide
  obtain ⟨⟨-, sources⟩, named, numbers⟩ := flat_tables_interned method few.1 few.2
  refine ⟨⟨few.1, few.2, plain⟩, ⟨?_, ?_⟩, ?_⟩
  · convert sources using 1 <;> decide +kernel
  · convert named using 1 <;> decide +kernel
  · intro same
    have alike := (numbers plain 0 1 _ _ rfl rfl).mp same
    exact absurd alike.2 (by decide)

end Method

end DebugTables
