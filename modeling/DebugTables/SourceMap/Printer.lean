import DebugTables.SourceMap.Basic
import DebugTables.Text.Numeral
import DebugTables.Text.Outline
import DebugTables.Text.Quoted

/-! Two written forms of a source map. The canonical text is the format itself, one entry a line;
what a reader would supply is left out, save the file ids. The outline shows every field. -/

namespace DebugTables

/-- The value after its mark, or nothing for the value that a reader takes when it is missing. -/
def optionalPart (mark : String) (default value : UInt32) : String :=
  if value = default then "" else mark ++ Numeral.decimal value.toNat

namespace LineMapping

def text (mapping : LineMapping) : String :=
  Numeral.decimal mapping.inputStart.toNat ++ "#" ++ Numeral.decimal mapping.fileId.toNat ++
    optionalPart "," 1 mapping.repeatCount ++ ":" ++ Numeral.decimal mapping.outputStart.toNat ++
    optionalPart "," 1 mapping.increment

def outline (mapping : LineMapping) : Outline :=
  .record "LineMapping" [
    ("input_start", .leaf (Numeral.decimal mapping.inputStart.toNat)),
    ("file_id", .leaf (Numeral.decimal mapping.fileId.toNat)),
    ("output_start", .leaf (Numeral.decimal mapping.outputStart.toNat)),
    ("repeat_count", .leaf (Numeral.decimal mapping.repeatCount.toNat)),
    ("increment", .leaf (Numeral.decimal mapping.increment.toNat))]

end LineMapping

namespace SourceFile

/-- The entry of a file section, whose path stands on a line of its own. -/
def text (file : SourceFile) (id : UInt32) : String :=
  match file.path with
  | none => Numeral.decimal id.toNat ++ " " ++ file.name ++ "\n"
  | some path => "+ " ++ Numeral.decimal id.toNat ++ " " ++ file.name ++ "\n" ++ path ++ "\n"

def outline (file : SourceFile) : Outline :=
  .record "FileRef" [
    ("name", .leaf (Quoted.quote file.name)),
    ("path", .option (file.path.map fun path => .leaf (Quoted.quote path)))]

end SourceFile

namespace Stratum

def text (stratum : Stratum) (name : String) : String :=
  "*S " ++ name ++ "\n*F\n" ++
    String.join (stratum.files.toList.map fun (id, file) => file.text id) ++ "*L\n" ++
    String.join (stratum.lines.map fun mapping => mapping.text ++ "\n")

def outline (stratum : Stratum) (name : String) : Outline :=
  .record "Stratum" [
    ("name", .leaf (Quoted.quote name)),
    ("files", .entries (stratum.files.toList.map fun (id, file) =>
      (Numeral.decimal id.toNat, file.outline))),
    ("lines", .list (stratum.lines.map (·.outline)))]

end Stratum

namespace SourceMap

def text (map : SourceMap) : String :=
  "SMAP\n" ++ map.generatedFile ++ "\n" ++ map.defaultStratum ++ "\n" ++
    String.join (map.strata.toList.map fun (name, stratum) => stratum.text name) ++ "*E\n"

def outline (map : SourceMap) : Outline :=
  .record "LineRemapTable" [
    ("generated_file", .leaf (Quoted.quote map.generatedFile)),
    ("default_stratum", .leaf (Quoted.quote map.defaultStratum)),
    ("strata", .entries (map.strata.toList.map fun (name, stratum) =>
      (Quoted.quote name, stratum.outline name)))]

end SourceMap

end DebugTables
