import Mathlib
import DebugTables.Proofs.Reading.Row
import DebugTables.SourceMap.Parser

/-! The format of a source map, said without a reader: which bytes make up an entry, a section, a
stratum and a whole text, and what they stand for. Each relation is about the bytes from some place
on, what is written there, and the bytes after it. Words, numbers and gaps are as long as they can
be, so the bytes after them are part of the condition. -/

namespace DebugTables.Grammar
open Reading (Row)

/-- As many blanks as there are before `rest`. -/
structure Gap (gap rest : Bytes) : Prop where
  blank : ∀ byte ∈ gap, Token.isBlank byte = true
  longest : ∀ byte ∈ rest.head?, Token.isBlank byte = false

/-- A longest run of bytes of one class, and the gap after it. -/
inductive Run (inside : UInt8 → Bool) : Bytes → Bytes → Bytes → Prop where
  | mk {run gap rest : Bytes} (nonempty : run ≠ []) (within : ∀ byte ∈ run, inside byte = true)
      (longest : ∀ byte ∈ (gap ++ rest).head?, inside byte = false) (separated : Gap gap rest) :
      Run inside (run ++ (gap ++ rest)) run rest

def Word (start word rest : Bytes) : Prop :=
  Run (!Token.isBlank ·) start word rest

/-- Decimal digits, leading zeros included, of a number that fits in a word. -/
def Number (start : Bytes) (value : UInt32) (rest : Bytes) : Prop :=
  ∃ digits, Run Token.isDigit start digits rest ∧ Token.digitsValue digits = value.toNat

inductive Marked (mark : Bytes) : Bytes → Bytes → Prop where
  | mk {gap rest : Bytes} (separated : Gap gap rest) : Marked mark (mark ++ (gap ++ rest)) rest

/-- A number after its mark, or neither of them. -/
inductive Optional (mark : Bytes) : Bytes → Option UInt32 → Bytes → Prop where
  | absent {start : Bytes} : Optional mark start none start
  | present {start middle rest : Bytes} {value : UInt32} (marked : Marked mark start middle)
      (number : Number middle value rest) : Optional mark start (some value) rest

inductive FileText : Bytes → FileEntry → Bytes → Prop where
  | plain {start afterId rest name : Bytes} {id : UInt32} (number : Number start id afterId)
      (named : Word afterId name rest) : FileText start ⟨id, Utf8.decode name, none⟩ rest
  | located {start afterMark afterId afterName rest name path : Bytes} {id : UInt32}
      (marked : Marked Mark.path start afterMark) (number : Number afterMark id afterId)
      (named : Word afterId name afterName) (placed : Word afterName path rest) :
      FileText start ⟨id, Utf8.decode name, some (Utf8.decode path)⟩ rest

/-- A missing count and a missing increment are one. -/
inductive LineText : Bytes → LineEntry → Bytes → Prop where
  | mk {start afterInput afterId afterCount afterColon afterOutput rest : Bytes}
      {inputStart outputStart : UInt32} {fileId repeatCount increment : Option UInt32}
      (input : Number start inputStart afterInput)
      (file : Optional Mark.fileId afterInput fileId afterId)
      (count : Optional Mark.count afterId repeatCount afterCount)
      (colon : Marked Mark.output afterCount afterColon)
      (output : Number afterColon outputStart afterOutput)
      (width : Optional Mark.count afterOutput increment rest)
      (repeats : 1 ≤ (repeatCount.getD 1).toNat) (widens : 1 ≤ (increment.getD 1).toNat)
      (fits : inputStart.toNat + (repeatCount.getD 1).toNat - 1 < 0x100000000) :
      LineText start ⟨inputStart, fileId, repeatCount.getD 1, outputStart, increment.getD 1⟩ rest

/-- Where the entries of a section end: before a `*`, or with the text. -/
def Closed (rest : Bytes) : Prop :=
  ∀ byte ∈ rest.head?, byte = 0x2A

inductive SectionText : Bytes → Section → Bytes → Prop where
  | files {start middle rest : Bytes} {entries : List FileEntry}
      (marked : Marked Mark.files start middle) (row : Row FileText middle entries rest)
      (closed : Closed rest) : SectionText start (.files entries) rest
  | lines {start middle rest : Bytes} {entries : List LineEntry}
      (marked : Marked Mark.lines start middle) (row : Row LineText middle entries rest)
      (closed : Closed rest) : SectionText start (.lines entries) rest

/-- The entries of all file sections, in the order of the text. -/
def writtenFiles : List Section → List FileEntry
  | [] => []
  | .files entries :: rest => entries ++ writtenFiles rest
  | .lines _ :: rest => writtenFiles rest

/-- The entries of all line sections, in the order of the text. -/
def writtenLines : List Section → List LineEntry
  | [] => []
  | .files _ :: rest => writtenLines rest
  | .lines entries :: rest => entries ++ writtenLines rest

/-- The file that the last entry of an id declares. -/
def declaredFile (entries : List FileEntry) (id : UInt32) : Option SourceFile :=
  (entries.reverse.find? (·.id = id)).map (·.file)

/-- The last file id that entries write down, zero if there is none. -/
def lastFileId (entries : List LineEntry) : UInt32 :=
  (entries.reverse.findSome? (·.fileId)).getD 0

/-- What sections say together. A mapping without a file id takes the last one before it, also
across sections, and every mapping needs a file. -/
structure Describes (sections : List Section) (stratum : Stratum) : Prop where
  files : ∀ id : UInt32, stratum.files[id]? = declaredFile (writtenFiles sections) id
  lines : ∀ i : Nat, stratum.lines[i]? = ((writtenLines sections)[i]?).map fun entry =>
    ⟨entry.inputStart, lastFileId ((writtenLines sections).take (i + 1)), entry.outputStart,
      entry.repeatCount, entry.increment⟩
  declared : ∀ mapping ∈ stratum.lines, ∃ file, stratum.files[mapping.fileId]? = some file

inductive StratumText : Bytes → String → Stratum → Bytes → Prop where
  | mk {start middle rest name : Bytes} {sections : List Section} {stratum : Stratum}
      (named : Word start name middle) (row : Row SectionText middle sections rest)
      (describes : Describes sections stratum) :
      StratumText start (Utf8.decode name) stratum rest

inductive ItemText : Bytes → SourceMap.Item → Bytes → Prop where
  | stratum {start middle rest : Bytes} {name : String} {stratum : Stratum}
      (marked : Marked Mark.stratum start middle) (text : StratumText middle name stratum rest) :
      ItemText start (.stratum name stratum) rest
  | trailer {start rest : Bytes} (marked : Marked Mark.trailer start rest)
      (continues : Mark.stratum <+: rest) : ItemText start .trailer rest

/-- The strata among the items, no two of one name. -/
structure Collects (items : List SourceMap.Item) (strata : Std.ExtTreeMap String Stratum) :
    Prop where
  distinct : items.Pairwise fun first second =>
    ∀ name one other, first = .stratum name one → second ≠ .stratum name other
  strata : ∀ (name : String) (stratum : Stratum),
    strata[name]? = some stratum ↔ .stratum name stratum ∈ items

/-- A whole text. After the last trailer anything may follow that starts no stratum. -/
inductive MapText : Bytes → SourceMap → Prop where
  | mk {gap start afterHeader afterFile afterDefault afterItems rest file default : Bytes}
      {items : List SourceMap.Item} {strata : Std.ExtTreeMap String Stratum}
      (separated : Gap gap start) (header : Word start [0x53, 0x4D, 0x41, 0x50] afterHeader)
      (generatedFile : Word afterHeader file afterFile)
      (defaultStratum : Word afterFile default afterDefault)
      (row : Row ItemText afterDefault items afterItems)
      (trailer : Marked Mark.trailer afterItems rest) (ends : ¬Mark.stratum <+: rest)
      (collects : Collects items strata) :
      MapText (gap ++ start) ⟨Utf8.decode file, Utf8.decode default, strata⟩

end DebugTables.Grammar
