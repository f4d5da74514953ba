import DebugTables.Text.Numeral
import DebugTables.Text.Quoted

/-! What can be wrong with the text of a source map. Offsets count bytes from the start of the text.
-/

namespace DebugTables

/-- The parts of the text that can be missing. -/
inductive Part where
  | generatedFile
  | defaultStratum
  | stratumName
  | fileId
  | fileName
  | absoluteFileName
  | inputStartLine
  | lineFileId
  | repeatCount
  | colon
  | outputStartLine
  | outputLineIncrement
  | stratumOrEnd
  deriving DecidableEq, Repr

def Part.name : Part → String
  | .generatedFile => "generated file name"
  | .defaultStratum => "default stratum name"
  | .stratumName => "stratum name"
  | .fileId => "file id"
  | .fileName => "file name"
  | .absoluteFileName => "absolute file name"
  | .inputStartLine => "input start line"
  | .lineFileId => "line file id"
  | .repeatCount => "repeat count"
  | .colon => "':'"
  | .outputStartLine => "output start line"
  | .outputLineIncrement => "output line increment"
  | .stratumOrEnd => "*S or *E"

inductive FormatError where
  | badHeader (header : String)
  | duplicateStratum (stratum : String)
  | unsupportedSection (stratum : String) (letter : Char)
  | missingTrailer
  | expected (part : Part) (offset : Nat)
  | invalidMapping (offset : Nat)
  | unknownFileId (stratum : String) (fileId : UInt32)
  deriving DecidableEq, Repr

def FormatError.message : FormatError → String
  | .badHeader header => "incorrect SMAP header: " ++ Quoted.quote header
  | .duplicateStratum stratum => "duplicate stratum " ++ Quoted.quote stratum
  | .unsupportedSection stratum letter =>
    "unsupported section *" ++ letter.toString ++ " in stratum " ++ Quoted.quote stratum
  | .missingTrailer => "missing *E trailer"
  | .expected part offset => "expected " ++ part.name ++ " at byte " ++ Numeral.decimal offset
  | .invalidMapping offset =>
    "line mapping at byte " ++ Numeral.decimal offset ++ " is empty or overflows its input lines"
  | .unknownFileId stratum fileId =>
    "stratum " ++ Quoted.quote stratum ++ " maps lines to undeclared file id " ++
      Numeral.decimal fileId.toNat

end DebugTables
