import DebugTables.Extraction
import DebugTables.SourceMap.Parser

/-! Dex classes. The line table of a method stands in its debug info, its variables are
reconstructed, and the source map of a class is the value of one of its annotations. -/

namespace DebugTables.Dex

/-- An annotation with the string it holds, if it holds one. -/
structure AnnotationEntry where
  type : String
  value : Option String
  deriving DecidableEq, Repr

structure Code where
  registerCount : UInt32
  codeSize : UInt32
  debugInfo : Option DebugInfo
  deriving DecidableEq, Repr

structure MethodDef where
  name : String
  parameters : List Parameter
  returnType : String
  flags : UInt32
  code : Option Code
  deriving DecidableEq, Repr

structure ClassDef where
  /-- The descriptor of the class, such as `Lfoo/Bar;`. -/
  type : String
  sourceFile : Option String
  annotations : List AnnotationEntry
  methods : List MethodDef
  deriving DecidableEq, Repr

/-- The type of the annotation whose value is the text of a source map. -/
def sourceDebugExtension : String := "Ldalvik/annotation/SourceDebugExtension;"

/-- The flag of static methods. -/
def staticFlag : UInt32 := 0x0008

/-- The line table that events contain. -/
def lineTable (events : List Event) : List Location :=
  events.filterMap fun
    | .lineNumber line offset => some ⟨offset, line⟩
    | _ => none

namespace ClassDef

/-- The characters between `L` and `;`, or all of them if they do not stand there. -/
def stripped : List Char → List Char
  | 'L' :: rest => if rest.getLast? = some ';' then rest.dropLast else 'L' :: rest
  | other => other

/-- The name with dots, so that `Lfoo/Bar$Baz;` is `foo.Bar$Baz`. -/
def name (definition : ClassDef) : String :=
  String.ofList ((stripped definition.type.toList).map fun c => if c = '/' then '.' else c)

def entry? (definition : ClassDef) (type : String) : Option AnnotationEntry :=
  definition.annotations.find? (·.type = type)

def isKotlin (definition : ClassDef) : Bool :=
  (definition.entry? kotlinMetadata).isSome

def info (definition : ClassDef) : Attempt ExtractError ClassInfo := do
  match (definition.entry? sourceDebugExtension).bind (·.value) with
  | none => return ⟨definition.name, definition.sourceFile, none⟩
  | some text =>
    let map ← (SourceMap.read (Utf8.encode text)).mapError (.format definition.name)
    return ⟨definition.name, definition.sourceFile, some map⟩

end ClassDef

namespace MethodDef

def isStatic (method : MethodDef) : Bool :=
  method.flags &&& staticFlag ≠ 0

/-- The parameter types in parentheses and the return type. -/
def descriptor (method : MethodDef) : String :=
  "(" ++ String.join (method.parameters.map (·.descriptor)) ++ ")" ++ method.returnType

/-- How failures name the method. -/
def label (method : MethodDef) (owner : String) : String :=
  owner ++ "." ++ method.name ++ method.descriptor

/-- Gives nameless parameters the names at their places in the list. -/
def named : List (Option String) → List Parameter → List Parameter
  | _, [] => []
  | names, parameter :: rest =>
    { parameter with name := parameter.name <|> names.head?.join } :: named names.tail rest

/-- Replaces the debug info of a method by what bytes encode. -/
def readDebugInfo (method : MethodDef) (owner : String) (pools : Pools) (bytes : Bytes) :
    Attempt ExtractError MethodDef :=
  match method.code with
  | none => return method
  | some code => do
    let info ← (DebugInfo.read pools bytes).mapError (.debugInfo (method.label owner))
    return { method with code := some { code with debugInfo := some info } }

/-- The frame of a method of the class `type`. -/
def frame (method : MethodDef) (type : String) (code : Code) (info : DebugInfo) : Frame where
  registerCount := code.registerCount
  receiver := if method.isStatic then none else some type
  parameters := named info.parameterNames method.parameters
  codeSize := code.codeSize

/-- The method with its tables, which are empty without debug info. -/
def extract (method : MethodDef) (owner : ClassInfo) (type : String) :
    Attempt ExtractError Method := do
  let bare : Method := ⟨method.name, method.descriptor, method.flags, [], [], owner⟩
  match method.code with
  | none => return bare
  | some code =>
    match code.debugInfo with
    | none =>
      Attempt.emit .trace (owner.name ++ "." ++ method.name ++ " has no debug info")
      return bare
    | some info =>
      let locals ← ((method.frame type code info).readLocals info.events).mapError
        (.reconstruction (method.label owner.name))
      return { bare with locations := lineTable info.events, locals }

end MethodDef

namespace ClassDef

/-- All methods of a class, or the first failure. -/
def extract (options : Options) (definition : ClassDef) : Attempt ExtractError (List Method) :=
  if options.kotlinOnly && !definition.isKotlin then do
    Attempt.emit .trace ("Skipping non-Kotlin class " ++ definition.type)
    return []
  else do
    let owner ← definition.info
    definition.methods.mapM (·.extract owner definition.type)

/-- The methods of a class but those that fail, or a failure of the class itself. -/
def extractKept (options : Options) (definition : ClassDef) : Logged (List Method) := do
  if options.kotlinOnly && !definition.isKotlin then return []
  match ← definition.info.outcome with
  | .error fault =>
    Logged.emit .warn ("Skipping dex class: " ++ fault.message)
    return []
  | .ok owner =>
    keepEach (fun method => keepOrWarn "Skipping dex method: "
      ((fun extracted => [extracted]) <$> method.extract owner definition.type)) definition.methods

/-- The methods of all classes but those that fail. -/
def extractAll (options : Options) (definitions : List ClassDef) : Logged (List Method) := do
  let methods ← keepEach (extractKept options) definitions
  counted "dex" methods

end ClassDef

end DebugTables.Dex
