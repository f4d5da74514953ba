import Std.Data.ExtTreeMap
import DebugTables.Word

/-! Source maps: from the lines of a compiled output back to the lines of the files it was made of.
A map holds one stratum for each language or view, a stratum declares files and maps ranges of
output lines to them. On a line that several mappings cover the first of them counts. -/

namespace DebugTables

structure SourceFile where
  name : String
  path : Option String
  deriving DecidableEq, Repr

/-- Maps `repeatCount` input lines from `inputStart` on, each to `increment` output lines, in order
from `outputStart` on. -/
structure LineMapping where
  inputStart : UInt32
  fileId : UInt32
  outputStart : UInt32
  repeatCount : UInt32
  increment : UInt32
  deriving DecidableEq, Repr

/-- One coordinate system of a source map. -/
structure Stratum where
  files : Std.ExtTreeMap UInt32 SourceFile
  lines : List LineMapping
  deriving DecidableEq

structure SourceMap where
  generatedFile : String
  defaultStratum : String
  strata : Std.ExtTreeMap String Stratum
  deriving DecidableEq

/-- A line of an input file. -/
structure SourceLine where
  file : SourceFile
  line : UInt32
  deriving DecidableEq, Repr

/-- Why a mapping has no answer for a line. -/
inductive RemapFault where
  | zeroIncrement
  deriving DecidableEq, Repr

def RemapFault.message : RemapFault → String
  | .zeroIncrement => "attempt to divide by zero"

namespace LineMapping

/-- The first line past the output lines, which need not be a word. -/
def outputEnd (mapping : LineMapping) : Nat :=
  mapping.outputStart.toNat + mapping.increment.toNat * mapping.repeatCount.toNat

/-- There are input and output lines, and the last input line is a word. -/
def Proper (mapping : LineMapping) : Prop :=
  mapping.repeatCount ≠ 0 ∧ mapping.increment ≠ 0 ∧
    mapping.inputStart.toNat + (mapping.repeatCount.toNat - 1) < 0x100000000

instance (mapping : LineMapping) : Decidable mapping.Proper :=
  inferInstanceAs (Decidable (_ ∧ _ ∧ _))

def Covers (mapping : LineMapping) (line : UInt32) : Prop :=
  mapping.outputStart ≤ line ∧ line.toNat < mapping.outputEnd

instance (mapping : LineMapping) (line : UInt32) : Decidable (mapping.Covers line) :=
  inferInstanceAs (Decidable (_ ∧ _))

/-- The input line of an output line at or after the start, if it is a word. -/
def inputLine? (mapping : LineMapping) (line : UInt32) (_ : mapping.increment ≠ 0) :
    Option UInt32 :=
  Word.ofNat? (mapping.inputStart.toNat +
    (line.toNat - mapping.outputStart.toNat) / mapping.increment.toNat)

/-- Lines before the start have no input line whatever the increment, later ones need it. -/
def remap (mapping : LineMapping) (line : UInt32) : Except RemapFault (Option UInt32) :=
  if line < mapping.outputStart then .ok none
  else if increment : mapping.increment = 0 then .error .zeroIncrement
  else .ok (mapping.inputLine? line increment)

theorem Covers.increment_ne_zero {mapping : LineMapping} {line : UInt32}
    (covered : mapping.Covers line) : mapping.increment ≠ 0 := by
  intro zero
  have start := UInt32.le_iff_toNat_le.mp covered.1
  have stop := covered.2
  simp only [outputEnd, zero, UInt32.toNat_zero, Nat.zero_mul, Nat.add_zero] at stop
  omega

end LineMapping

namespace Stratum

def mapping? (stratum : Stratum) (line : UInt32) : Option LineMapping :=
  stratum.lines.find? (·.Covers line)

theorem covers_of_mapping? {stratum : Stratum} {line : UInt32} {mapping : LineMapping}
    (found : stratum.mapping? line = some mapping) : mapping.Covers line := by
  simpa using List.find?_some found

def remap (stratum : Stratum) (line : UInt32) : Option SourceLine :=
  match found : stratum.mapping? line with
  | none => none
  | some mapping => do
    let file ← stratum.files[mapping.fileId]?
    let input ← mapping.inputLine? line (covers_of_mapping? found).increment_ne_zero
    return ⟨file, input⟩

end Stratum

namespace SourceMap

def remapIn (map : SourceMap) (stratum : String) (line : UInt32) : Option SourceLine := do
  (← map.strata[stratum]?).remap line

def remap (map : SourceMap) (line : UInt32) : Option SourceLine :=
  map.remapIn map.defaultStratum line

end SourceMap

end DebugTables
