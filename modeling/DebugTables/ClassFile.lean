import DebugTables.Extraction
import DebugTables.SourceMap.Parser

/-! Class files. Their methods carry line and variable tables as they are, so extraction copies
them. Class attributes are decoded by readers that are registered under the attribute's name. -/

namespace DebugTables

namespace ClassFile

structure LineNumber where
  startPc : UInt16
  line : UInt16
  deriving DecidableEq, Repr

structure VariableEntry where
  startPc : UInt16
  length : UInt16
  name : String
  descriptor : String
  index : UInt16
  deriving DecidableEq, Repr

/-- A method with its tables, each of which may be missing. -/
structure MethodEntry where
  name : String
  descriptor : String
  flags : UInt16
  lines : Option (List LineNumber)
  locals : Option (List VariableEntry)
  deriving DecidableEq, Repr

/-- An attribute with its bytes, not yet decoded. -/
structure Attribute where
  name : String
  info : Bytes
  deriving DecidableEq, Repr

/-- The attribute that holds the text of a source map. -/
def sourceDebugExtension : String := "SourceDebugExtension"

abbrev Reader := Bytes → Attempt FormatError SourceMap

/-- Readers by attribute name, of which the last registered counts. -/
structure Readers where
  latest : List (String × Reader)

namespace Readers

/-- Leaves every attribute as it is. -/
def empty : Readers := ⟨[]⟩

def register (readers : Readers) (name : String) (reader : Reader) : Readers :=
  ⟨(name, reader) :: readers.latest⟩

/-- Knows the attribute that holds a source map. -/
def standard : Readers := empty.register sourceDebugExtension SourceMap.read

def reader? (readers : Readers) (name : String) : Option Reader :=
  readers.latest.lookup name

theorem reader?_register (readers : Readers) (name other : String) (reader : Reader) :
    (readers.register name reader).reader? other =
      if other = name then some reader else readers.reader? other := by
  rw [reader?, register, List.lookup_cons]
  by_cases same : other = name
  · rw [if_pos same, beq_iff_eq.mpr same]
  · rw [if_neg same, beq_eq_false_iff_ne.mpr same]
    rfl

/-- Decodes an attribute, or gives nothing if no reader knows its name. -/
def read (readers : Readers) (raw : Attribute) : Attempt FormatError (Option SourceMap) :=
  match readers.reader? raw.name with
  | none => do
    Attempt.emit .trace ("No reader for attribute " ++ raw.name)
    return none
  | some reader => do
    let map ← reader raw.info
    return some map

end Readers

end ClassFile

/-- A class with dots in its name. -/
structure ClassFile where
  name : String
  sourceFile : Option String
  annotations : List String
  attributes : List ClassFile.Attribute
  methods : List ClassFile.MethodEntry

namespace ClassFile

def isKotlin (file : ClassFile) : Bool :=
  file.annotations.contains kotlinMetadata

/-- Decodes all attributes in order and keeps the first source map, where `found` is one that came
before. -/
def sourceMap (readers : Readers) (owner : String) (found : Option SourceMap) :
    List Attribute → Attempt ExtractError (Option SourceMap)
  | [] => return found
  | raw :: rest => do
    match ← (readers.read raw).mapError (.format owner), found with
    | none, _ => sourceMap readers owner found rest
    | some map, none => sourceMap readers owner (some map) rest
    | some _, some first =>
      Attempt.emit .trace ("Ignoring repeated attribute " ++ raw.name ++ " in " ++ owner)
      sourceMap readers owner (some first) rest

def info (file : ClassFile) (readers : Readers) : Attempt ExtractError ClassInfo := do
  let map ← sourceMap readers file.name none file.attributes
  return ⟨file.name, file.sourceFile, map⟩

/-- The method with its tables, missing ones being empty. -/
def MethodEntry.extract (entry : MethodEntry) (owner : ClassInfo) : Method where
  name := entry.name
  descriptor := entry.descriptor
  flags := entry.flags.toUInt32
  locations := (entry.lines.getD []).map fun line => ⟨line.startPc.toUInt32, line.line.toUInt32⟩
  locals := (entry.locals.getD []).map fun entry =>
    ⟨entry.startPc.toUInt32, entry.length.toUInt32, entry.name, entry.descriptor,
      entry.index.toUInt32⟩
  owner := owner

/-- All methods of a class. -/
def extract (options : Options) (readers : Readers) (file : ClassFile) :
    Attempt ExtractError (List Method) :=
  if options.kotlinOnly && !file.isKotlin then do
    Attempt.emit .trace ("Skipping non-Kotlin class " ++ file.name)
    return []
  else do
    let owner ← file.info readers
    return file.methods.map (·.extract owner)

/-- The methods of all classes but those that fail. -/
def extractAll (options : Options) (readers : Readers) (files : List ClassFile) :
    Logged (List Method) := do
  let methods ← keepEach
    (fun file => keepOrWarn "Skipping class: " (file.extract options readers)) files
  counted "jvm" methods

end ClassFile

end DebugTables
