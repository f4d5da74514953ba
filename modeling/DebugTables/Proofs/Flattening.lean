import Mathlib
import DebugTables.Proofs.Interning

/-! What the numbers of a flat method stand for. The lists are groups of one width, a group for each
row they were made of, and the number of a file or a variable leads back to it in its table. So
numbering the texts loses nothing: the groups say what the rows say. -/

namespace DebugTables

namespace FlatMethod

/-- The numbers of one row, in a list of rows of `width` numbers each. -/
def group (width : Nat) (numbers : List UInt32) (row : Nat) : List UInt32 :=
  (numbers.drop (width * row)).take width

/-- One group of `width` numbers for each item, each meaning what it should for its item, and no
numbers besides. -/
structure Grouped {α : Type} (width : Nat) (numbers : List UInt32) (items : List α)
    (means : α → List UInt32 → Prop) : Prop where
  size : numbers.length = width * items.length
  rows : ∀ (row : Nat) (item : α), items[row]? = some item → means item (group width numbers row)

/-- The file of a number: its name and its path stand side by side. -/
def file? (flat : FlatMethod) (number : UInt32) : Option SourceFile := do
  let name ← flat.sourceNames[number.toNat]?
  let path ← flat.sourcePaths[number.toNat]?
  return ⟨name, path⟩

theorem length_flatMap_of_width {α : Type} {width : Nat} {print : α → List UInt32} {items : List α}
    (wide : ∀ item, (print item).length = width) :
    (items.flatMap print).length = width * items.length := by
  induction items with
  | nil => rfl
  | cons item rest ih =>
    rw [List.flatMap_cons, List.length_append, wide, ih, List.length_cons, Nat.mul_succ,
      Nat.add_comm]

theorem group_flatMap {α : Type} {width row : Nat} {print : α → List UInt32} {items : List α}
    {item : α} (wide : ∀ item, (print item).length = width) (found : items[row]? = some item) :
    group width (items.flatMap print) row = print item := by
  induction items generalizing row with
  | nil => cases found
  | cons first rest ih =>
    rw [List.flatMap_cons, group]
    cases row with
    | zero =>
      cases found
      rw [Nat.mul_zero, List.drop_zero, List.take_left' (wide item)]
    | succ row =>
      rw [Nat.mul_succ, Nat.add_comm, ← List.drop_drop, List.drop_left' (wide first)]
      exact ih found

/-- Rows that are listed with a number each are groups. -/
theorem grouped_zip_flatMap {α : Type} {width : Nat} {print : α × Nat → List UInt32}
    {items : List α} {numbers : List Nat} {means : α → List UInt32 → Prop}
    (enough : items.length ≤ numbers.length) (wide : ∀ entry, (print entry).length = width)
    (each : ∀ (row : Nat) (item : α) (number : Nat), items[row]? = some item →
      numbers[row]? = some number → means item (print (item, number))) :
    Grouped width ((items.zip numbers).flatMap print) items means := by
  constructor
  case size => rw [length_flatMap_of_width wide, List.length_zip, Nat.min_eq_left enough]
  case rows =>
    intro row item found
    have inside := (List.getElem?_eq_some_iff.mp found).choose
    have numbered := List.getElem?_eq_getElem (Nat.lt_of_lt_of_le inside enough)
    have listed : (items.zip numbers)[row]? = some (item, numbers[row]) :=
      List.getElem?_zip_eq_some.mpr ⟨found, numbered⟩
    rw [group_flatMap wide listed]
    exact each row item _ found numbered

end FlatMethod

namespace Method

variable {method : Method}

theorem mem_callSites_iff {place : Nat} {site : SourceLine} :
    (place, site) ∈ method.callSites ↔ ∃ location, method.locations[place]? = some location ∧
      method.callSite? location.line = some site := by
  rw [callSites, List.mem_filterMap]
  constructor
  · intro listed
    obtain ⟨⟨location, found⟩, member, same⟩ := listed
    obtain ⟨answer, called, same⟩ := Option.map_eq_some_iff.mp same
    cases same
    exact ⟨location, List.mem_zipIdx_iff_getElem?.mp member, called⟩
  · intro listed
    obtain ⟨location, found, called⟩ := listed
    refine ⟨(location, place), List.mem_zipIdx_iff_getElem?.mpr found, ?_⟩
    exact Option.map_eq_some_iff.mpr ⟨site, called, rfl⟩

theorem callSites_increasing (method : Method) :
    method.callSites.Pairwise fun first second => first.1 < second.1 := by
  have places : method.locations.zipIdx.Pairwise fun first second => first.2 < second.2 := by
    rw [← List.pairwise_map (f := Prod.snd), List.zipIdx_map_snd]
    exact List.pairwise_lt_range'
  apply List.Pairwise.filterMap _ _ places
  intro first second before site found other foundOther
  obtain ⟨_, -, rfl⟩ := Option.map_eq_some_iff.mp found
  obtain ⟨_, -, rfl⟩ := Option.map_eq_some_iff.mp foundOther
  exact before

theorem length_callSites_le (method : Method) :
    method.callSites.length ≤ method.locations.length := by
  have fewer := List.length_filterMap_le
    (fun entry : Location × Nat => (method.callSite? entry.1.line).map (entry.2, ·))
    method.locations.zipIdx
  rwa [List.length_zipIdx] at fewer

theorem length_usedFiles_lt (few : method.locations.length < 0x80000000) :
    method.usedFiles.length < 0x100000000 := by
  have sites := length_callSites_le method
  rw [usedFiles, List.length_append, List.length_map, List.length_map]
  omega

/-- The number of a file that is used leads back to it. -/
theorem file?_number {place number : Nat} {file : SourceFile}
    (few : method.locations.length < 0x80000000) (used : method.usedFiles[place]? = some file)
    (numbered : (internAll method.usedFiles).2[place]? = some number) :
    method.flatten.file? (UInt32.ofNat number) = some file := by
  have interned := interned_internAll method.usedFiles
  obtain ⟨other, same, found⟩ := interned.exists_number used
  cases numbered.symm.trans same
  have word := interned.toNat_number (length_usedFiles_lt few) (List.mem_of_getElem? numbered)
  simp only [FlatMethod.file?, flatten, List.getElem?_map, word, found]
  rfl

theorem getElem?_usedFiles_of_location {row : Nat} {location : Location}
    (found : method.locations[row]? = some location) :
    method.usedFiles[row]? = some (method.sourceLine location.line).file := by
  have inside := (List.getElem?_eq_some_iff.mp found).choose
  rw [usedFiles, List.getElem?_append_left (by rwa [List.length_map]), List.getElem?_map, found]
  rfl

theorem getElem?_usedFiles_of_callSite {row : Nat} {entry : Nat × SourceLine}
    (found : method.callSites[row]? = some entry) :
    method.usedFiles[method.locations.length + row]? = some entry.2.file := by
  rw [usedFiles, List.getElem?_append_right (by rw [List.length_map]; omega), List.length_map,
    Nat.add_sub_cancel_left, List.getElem?_map, found]
  rfl

theorem length_fileNumbers (method : Method) : (internAll method.usedFiles).2.length =
    method.locations.length + method.callSites.length := by
  rw [(interned_internAll method.usedFiles).length_numbers, usedFiles, List.length_append,
    List.length_map, List.length_map]

/-- The numbers of a line: where it starts, the line in the output, the line it comes from and the
number of that line's file. A line that no source map covers is one of the declared file. -/
def LineGroup (method : Method) (location : Location) (group : List UInt32) : Prop :=
  ∃ source number, group = [location.offset, location.line, source.line, number] ∧
    method.flatten.file? number = some source.file ∧
    match method.owner.sourceMap.bind (·.remap location.line) with
    | some covered => source = covered
    | none => source = ⟨⟨method.owner.sourceFile.getD "<missing source>", none⟩, location.line⟩

/-- The numbers of a variable: its range, its slot and the number of its name and descriptor. -/
def VariableGroup (method : Method) (entry : LocalVariable) (group : List UInt32) : Prop :=
  ∃ number, group = [entry.start, entry.length, entry.slot, number] ∧
    method.flatten.variableNames[number.toNat]? = some (entry.name ++ ":" ++ entry.descriptor)

/-- The numbers of a call site: its place in the line table, its line and the number of its file. -/
def SiteGroup (method : Method) (site : Nat × SourceLine) (group : List UInt32) : Prop :=
  ∃ place number, group = [place, site.2.line, number] ∧ place.toNat = site.1 ∧
    method.flatten.file? number = some site.2.file

theorem length_locations_le (method : Method) :
    method.locations.length ≤ (internAll method.usedFiles).2.length := by
  rw [length_fileNumbers]
  exact Nat.le_add_right ..

theorem length_siteNumbers (method : Method) :
    ((internAll method.usedFiles).2.drop method.locations.length).length =
      method.callSites.length := by
  rw [List.length_drop, length_fileNumbers, Nat.add_sub_cancel_left]

theorem length_nameNumbers (method : Method) :
    (internAll (method.locals.map variableName)).2.length = method.locals.length := by
  rw [(interned_internAll _).length_numbers, List.length_map]

theorem grouped_lineLocations (few : method.locations.length < 0x80000000) :
    FlatMethod.Grouped 4 method.flatten.lineLocations method.locations method.LineGroup := by
  refine FlatMethod.grouped_zip_flatMap (length_locations_le method) (fun _ => rfl) ?_
  intro row location number found numbered
  refine ⟨method.sourceLine location.line, _, rfl,
    file?_number few (getElem?_usedFiles_of_location found) numbered, ?_⟩
  rw [sourceLine]
  cases method.owner.sourceMap.bind (·.remap location.line) with
  | none => rfl
  | some covered => rfl

theorem grouped_localVariables (few : method.locals.length < 0x80000000) :
    FlatMethod.Grouped 4 method.flatten.localVariables method.locals method.VariableGroup := by
  refine FlatMethod.grouped_zip_flatMap (length_nameNumbers method).ge (fun _ => rfl) ?_
  intro row entry number found numbered
  have interned := interned_internAll (method.locals.map variableName)
  have used : (method.locals.map variableName)[row]? = some (variableName entry) := by
    rw [List.getElem?_map, found]
    rfl
  have bounded : (method.locals.map variableName).length < 0x100000000 := by
    rw [List.length_map]
    omega
  obtain ⟨other, same, means⟩ := interned.exists_number used
  cases numbered.symm.trans same
  refine ⟨UInt32.ofNat number, rfl, ?_⟩
  rw [interned.toNat_number bounded (List.mem_of_getElem? numbered)]
  exact means

theorem grouped_callSites (few : method.locations.length < 0x80000000) :
    FlatMethod.Grouped 3 method.flatten.callSites method.callSites method.SiteGroup := by
  refine FlatMethod.grouped_zip_flatMap (length_siteNumbers method).ge (fun _ => rfl) ?_
  intro row entry number found numbered
  rw [List.getElem?_drop] at numbered
  obtain ⟨place, site⟩ := entry
  obtain ⟨location, reached, -⟩ := mem_callSites_iff.mp (List.mem_of_getElem? found)
  have inside := (List.getElem?_eq_some_iff.mp reached).choose
  exact ⟨_, _, rfl, UInt32.toNat_ofNat_of_lt (show place < 0x100000000 by omega),
    file?_number few (getElem?_usedFiles_of_callSite found) numbered⟩

/-- Flattening loses nothing. Every line, every variable and every call site has one group of
numbers, in order, and each number of a text leads back to it. The call sites are those of the lines
that the call site stratum covers, each once. -/
theorem flat_groups_denote_rows (method : Method)
    (lines : method.locations.length < 0x80000000)
    (locals : method.locals.length < 0x80000000) :
    FlatMethod.Grouped 4 method.flatten.lineLocations method.locations method.LineGroup ∧
    FlatMethod.Grouped 4 method.flatten.localVariables method.locals method.VariableGroup ∧
    ∃ sites, FlatMethod.Grouped 3 method.flatten.callSites sites method.SiteGroup ∧
      sites.Pairwise (fun first second => first.1 < second.1) ∧
      ∀ place site, (place, site) ∈ sites ↔
        ∃ location, method.locations[place]? = some location ∧
          method.owner.sourceMap.bind (·.remapIn "KotlinDebug" location.line) = some site :=
  ⟨grouped_lineLocations lines, grouped_localVariables locals,
    method.callSites, grouped_callSites lines, callSites_increasing method,
    fun _ _ => mem_callSites_iff⟩

/-- A method with an inlined line, a line of its own and one that no mapping covers, and with a
variable that comes back. -/
theorem flat_groups_denote_rows_inlined :
    let own : SourceFile := ⟨"A.kt", some "p/A.kt"⟩
    let inlined : SourceFile := ⟨"B.kt", none⟩
    let map : SourceMap := ⟨"A.kt", "Kotlin", .ofList [
      ("Kotlin", Stratum.mk (.ofList [((1 : UInt32), own), (2, inlined)])
        [⟨1, 1, 1, 2, 1⟩, ⟨7, 2, 3, 1, 1⟩]),
      ("KotlinDebug", Stratum.mk (.ofList [((1 : UInt32), own)]) [⟨2, 1, 3, 1, 1⟩])]⟩
    let method : Method := ⟨"m", "()V", 0, [⟨0, 1⟩, ⟨4, 3⟩, ⟨6, 9⟩],
      [⟨0, 2, "x", "I", 0⟩, ⟨4, 3, "x", "I", 1⟩], ⟨"A", some "A.kt", some map⟩⟩
    method.locations.length < 0x80000000 ∧ method.locals.length < 0x80000000 ∧
      method.LineGroup ⟨4, 3⟩ (FlatMethod.group 4 method.flatten.lineLocations 1) ∧
      method.flatten.lineLocations = [0, 1, 1, 0, 4, 3, 7, 1, 6, 9, 9, 2] ∧
      method.VariableGroup ⟨4, 3, "x", "I", 1⟩
        (FlatMethod.group 4 method.flatten.localVariables 1) ∧
      method.flatten.variableNames = ["x:I"] ∧
      (∃ row, method.SiteGroup (1, ⟨own, 2⟩) (FlatMethod.group 3 method.flatten.callSites row)) ∧
      method.flatten.callSites = [1, 2, 0] := by
  intro own inlined map method
  obtain ⟨lines, locals, sites, grouped, -, covered⟩ :=
    flat_groups_denote_rows method (by decide) (by decide)
  have called : (1, ⟨own, 2⟩) ∈ sites := (covered _ _).mpr ⟨⟨4, 3⟩, rfl, by decide +kernel⟩
  obtain ⟨row, found⟩ := List.mem_iff_getElem?.mp called
  exact ⟨by decide, by decide, lines.rows 1 _ rfl, by decide +kernel,
    locals.rows 1 _ rfl, by decide +kernel,
    ⟨row, grouped.rows row _ found⟩, by decide +kernel⟩

end Method

end DebugTables
