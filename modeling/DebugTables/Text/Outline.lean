/-! Outlines: a value written over several lines, every part on lines of its own, four blanks deeper
than the whole. An outline is the list of its lines. -/

namespace DebugTables

abbrev Outline := List String

namespace Outline

def leaf (text : String) : Outline := [text]

/-- Puts `text` before the first line. -/
def before (text : String) : Outline → Outline
  | [] => [text]
  | line :: rest => (text ++ line) :: rest

/-- Puts `text` after the last line. -/
def after (text : String) : Outline → Outline
  | [] => [text]
  | [line] => [line ++ text]
  | line :: rest => line :: after text rest

def indent (outline : Outline) : Outline :=
  outline.map ("    " ++ ·)

/-- The parts between two delimiters, a comma after each. Without parts the delimiters touch. -/
def enclose (left right : String) (parts : List Outline) : Outline :=
  if parts.isEmpty then [left ++ right]
  else left :: (parts.flatMap fun part => indent (after "," part)) ++ [right]

/-- A record with its name and its named fields. -/
def record (name : String) (fields : List (String × Outline)) : Outline :=
  enclose (name ++ " \x7b") "\x7d" (fields.map fun (label, value) => before (label ++ ": ") value)

/-- A map as its entries, keys before values. -/
def entries (pairs : List (String × Outline)) : Outline :=
  enclose "\x7b" "\x7d" (pairs.map fun (key, value) => before (key ++ ": ") value)

def list (items : List Outline) : Outline :=
  enclose "[" "]" items

def option : Option Outline → Outline
  | none => leaf "None"
  | some value => enclose "Some(" ")" [value]

/-- The lines, separated by line feeds. -/
def text (outline : Outline) : String :=
  String.intercalate "\n" outline

end Outline

end DebugTables
