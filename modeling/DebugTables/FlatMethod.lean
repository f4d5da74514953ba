import DebugTables.Method

/-! The tables of a method as flat lists of numbers. Files and variables are numbered by their first
use, and the numbers stand in the lists for the texts. -/

namespace DebugTables

structure FlatMethod where
  name : String
  sourceNames : List String
  /-- Side by side with `sourceNames`. -/
  sourcePaths : List (Option String)
  variableNames : List String
  /-- Four numbers a line: offset, output line, input line, file. -/
  lineLocations : List UInt32
  /-- Four numbers a variable: start, length, slot, name. -/
  localVariables : List UInt32
  /-- Three numbers a call site: place in the line table, line, file. -/
  callSites : List UInt32
  deriving DecidableEq, Repr

/-- The stratum that maps inlined lines to the lines they are called from. -/
def callSiteStratum : String := "KotlinDebug"

section interning

variable {α : Type} [DecidableEq α]

/-- The table after an item is used, and the number of this use. -/
def intern (table : List α) (item : α) : List α × Nat :=
  if item ∈ table then (table, table.idxOf item) else (table ++ [item], table.length)

/-- The table after all uses, and the number of each. -/
def internAll (uses : List α) : List α × List Nat :=
  uses.foldl (fun (table, numbers) item =>
    ((intern table item).1, numbers ++ [(intern table item).2])) ([], [])

end interning

namespace Method

/-- The file that lines belong to which no source map covers. -/
def declaredFile (method : Method) : SourceFile :=
  ⟨method.owner.sourceFile.getD "<missing source>", none⟩

/-- The input line of an output line, or the line itself in the declared file. -/
def sourceLine (method : Method) (line : UInt32) : SourceLine :=
  (method.owner.sourceMap.bind (·.remap line)).getD ⟨method.declaredFile, line⟩

/-- The line that an inlined line is called from. -/
def callSite? (method : Method) (line : UInt32) : Option SourceLine :=
  method.owner.sourceMap.bind (·.remapIn callSiteStratum line)

/-- The call sites of all lines of the line table that have one, with their places in it. -/
def callSites (method : Method) : List (Nat × SourceLine) :=
  method.locations.zipIdx.filterMap fun (location, place) =>
    (method.callSite? location.line).map (place, ·)

/-- All files in the order of their use, line by line and then call site by call site. -/
def usedFiles (method : Method) : List SourceFile :=
  (method.locations.map fun location => (method.sourceLine location.line).file) ++
    method.callSites.map fun (_, site) => site.file

/-- The name that a variable has in a flat method. -/
def variableName (entry : LocalVariable) : String :=
  entry.name ++ ":" ++ entry.descriptor

/-- Numbers what is used and lists the rows with their numbers. The numbers of the call sites come
after those of the lines. -/
def flatten (method : Method) : FlatMethod :=
  let (files, fileNumbers) := internAll method.usedFiles
  let (names, nameNumbers) := internAll (method.locals.map variableName)
  { name := method.name
    sourceNames := files.map (·.name)
    sourcePaths := files.map (·.path)
    variableNames := names
    lineLocations := (method.locations.zip fileNumbers).flatMap fun (location, number) =>
      [location.offset, location.line, (method.sourceLine location.line).line, UInt32.ofNat number]
    localVariables := (method.locals.zip nameNumbers).flatMap fun (entry, number) =>
      [entry.start, entry.length, entry.slot, UInt32.ofNat number]
    callSites := (method.callSites.zip (fileNumbers.drop method.locations.length)).flatMap
      fun ((place, site), number) => [UInt32.ofNat place, site.line, UInt32.ofNat number] }

end Method

end DebugTables
