import DebugTables.SourceMap.Basic

/-! Source maps that their text determines: every name can stand as one word of the text, every
mapping is proper, and every file that a mapping names is declared. -/

namespace DebugTables

/-- A text that is read back as one word. -/
def IsWord (text : String) : Prop :=
  text ≠ "" ∧ ∀ c ∈ text.toList, c ≠ ' ' ∧ c ≠ '\r' ∧ c ≠ '\n'

instance (text : String) : Decidable (IsWord text) :=
  inferInstanceAs (Decidable (_ ∧ _))

def SourceFile.WellFormed (file : SourceFile) : Prop :=
  IsWord file.name ∧ ∀ path ∈ file.path, IsWord path

structure Stratum.WellFormed (stratum : Stratum) : Prop where
  files : ∀ (id : UInt32) (file : SourceFile), stratum.files[id]? = some file → file.WellFormed
  proper : ∀ mapping ∈ stratum.lines, mapping.Proper
  declared : ∀ mapping ∈ stratum.lines, mapping.fileId ∈ stratum.files

structure SourceMap.WellFormed (map : SourceMap) : Prop where
  generatedFile : IsWord map.generatedFile
  defaultStratum : IsWord map.defaultStratum
  names : ∀ name ∈ map.strata, IsWord name
  strata : ∀ (name : String) (stratum : Stratum), map.strata[name]? = some stratum →
    stratum.WellFormed

end DebugTables
