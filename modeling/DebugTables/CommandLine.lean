import DebugTables.SourceMap.Parser

/-! The command line: prints the source maps of files and answers line queries on them. The
arguments are checked before anything is printed, and a file that cannot be read does not stop the
others. -/

namespace DebugTables.CommandLine

structure Arguments where
  files : List String
  /-- Without one, queries go to the default stratum of each map. -/
  stratum : Option String
  lines : List UInt32
  canonical : Bool
  deriving DecidableEq, Repr

/-- A decimal number with an optional sign, as a 32-bit word. Zero may have either sign; no other
number below it is a line. -/
def lineNumber? (text : String) : Option UInt32 :=
  match Utf8.encode text with
  | 0x2B :: digits => unsigned? digits
  | 0x2D :: digits => (unsigned? digits).filter (· = 0)
  | digits => unsigned? digits
where
  unsigned? (digits : List UInt8) : Option UInt32 :=
    if digits ≠ [] ∧ digits.all Token.isDigit then Word.ofNat? (Token.digitsValue digits) else none

namespace Arguments

def empty : Arguments := ⟨[], none, [], false⟩

def addFile (arguments : Arguments) (file : String) : Arguments :=
  { arguments with files := arguments.files ++ [file] }

/-- The stratum may be given once. -/
def addStratum? (arguments : Arguments) (name : String) : Option Arguments :=
  if arguments.stratum.isSome then none else some { arguments with stratum := some name }

def addLine? (arguments : Arguments) (text : String) : Option Arguments :=
  (lineNumber? text).map fun line => { arguments with lines := arguments.lines ++ [line] }

/-- The canonical form may be asked for once. -/
def askCanonical? (arguments : Arguments) : Option Arguments :=
  if arguments.canonical then none else some { arguments with canonical := true }

/-- Whether a word is meant as an option. A lone dash is not. -/
def isOption (word : String) : Bool :=
  word.toList.head? = some '-' && word ≠ "-"

/-- The value that a word gives to an option after an equals sign. -/
def inlineValue? (option word : String) : Option String :=
  let start := (option ++ "=").toList
  if start <+: word.toList then some (String.ofList (word.toList.drop start.length)) else none

/-- Adds words one after the other. After a double dash all of them are files. -/
def add? (arguments : Arguments) : List String → Option Arguments
  | [] => some arguments
  | word :: rest =>
    if word = "--" then some (rest.foldl addFile arguments)
    else if word = "--canonical" then do (← arguments.askCanonical?).add? rest
    else if word = "--stratum" then
      match rest with
      | [] => none
      | value :: rest =>
        if isOption value then none else do (← arguments.addStratum? value).add? rest
    else if word = "--line" then
      match rest with
      | [] => none
      | value :: rest =>
        if isOption value then none else do (← arguments.addLine? value).add? rest
    else match inlineValue? "--stratum" word, inlineValue? "--line" word with
      | some value, _ => do (← arguments.addStratum? value).add? rest
      | none, some value => do (← arguments.addLine? value).add? rest
      | none, none =>
        if isOption word then none else (arguments.addFile word).add? rest

/-- The arguments that words stand for, unless they are refused or name no file. -/
def ofWords? (words : List String) : Option Arguments := do
  let arguments ← Arguments.empty.add? words
  if arguments.files = [] then none else return arguments

end Arguments

/-- The answer to one line query. -/
def answer (map : SourceMap) (stratum : String) (line : UInt32) : String :=
  stratum ++ ":" ++ Numeral.decimal line.toNat ++ " -> " ++
    match map.remapIn stratum line with
    | some source => source.file.name ++ ":" ++ Numeral.decimal source.line.toNat ++ "\n"
    | none => "unmapped\n"

/-- A map in the form that is asked for, and the answers to all queries. -/
def describe (arguments : Arguments) (map : SourceMap) : String :=
  let form := if arguments.canonical then map.text else map.outline.text ++ "\n"
  let stratum := arguments.stratum.getD map.defaultStratum
  form ++ String.join (arguments.lines.map (answer map stratum))

/-- What one file adds to the output, unless it is missing or holds no map. -/
def report? (arguments : Arguments) (contents : Option Bytes) : Option String := do
  let map ← (SourceMap.parse (← contents)).toOption
  return describe arguments map

structure Outcome where
  exit : UInt32
  output : String
  deriving DecidableEq, Repr

/-- Reports on all files in order. -/
def run (arguments : Arguments) (contents : String → Option Bytes) : Outcome :=
  let reports := arguments.files.map fun file => report? arguments (contents file)
  ⟨if reports.all (·.isSome) then 0 else 1, String.join (reports.filterMap id)⟩

/-- What the program does when its arguments are refused. -/
def refusal : Outcome := ⟨2, ""⟩

def respond (words : List String) (contents : String → Option Bytes) : Outcome :=
  match Arguments.ofWords? words with
  | none => refusal
  | some arguments => run arguments contents

end DebugTables.CommandLine
