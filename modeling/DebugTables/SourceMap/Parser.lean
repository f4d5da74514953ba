import DebugTables.Log
import DebugTables.SourceMap.Printer
import DebugTables.SourceMap.Section

/-! Reads the text of a source map. The strata are read one after the other, and a stratum is
complete before the next one starts, so the first thing that is wrong in the text is what is
reported. Texts that close every stratum with a trailer of its own are read as well. -/

namespace DebugTables

namespace Stratum

/-- What sections declare together. A later file takes the place of an earlier one of its id, and
file ids run on from section to section, starting with zero. -/
def ofSections (sections : List Section) : Stratum where
  files := .ofList ((sections.flatMap (·.declaredFiles)).map fun entry => (entry.id, entry.file))
  lines := LineEntry.mappings 0 (sections.flatMap (·.declaredLines))

/-- The first file id that a mapping uses and no file has. -/
def undeclared? (stratum : Stratum) : Option UInt32 :=
  (stratum.lines.find? (·.fileId ∉ stratum.files)).map (·.fileId)

/-- Reads a stratum from its name on. -/
def read (size : Nat) (start : Bytes) : Except FormatError ((String × Stratum) × Bytes) := do
  let (name, rest) ← Section.expect size .stratumName Token.name? start
  let (sections, rest) ← Section.readAll size name rest
  let stratum := ofSections sections
  match stratum.undeclared? with
  | some id => throw (.unknownFileId name id)
  | none => return ((name, stratum), rest)

theorem read_length_lt {size : Nat} {start rest : Bytes} {named : String × Stratum}
    (found : read size start = .ok (named, rest)) : rest.length < start.length := by
  obtain ⟨⟨name, afterName⟩, foundName, found⟩ := Reading.bind_eq_ok_iff.mp found
  obtain ⟨⟨sections, last⟩, foundSections, found⟩ := Reading.bind_eq_ok_iff.mp found
  have := Token.name?_length_lt (Section.expect_eq_ok_iff.mp foundName)
  have := Reading.all_rest_length_le foundSections
  dsimp only at found
  split at found
  · cases found
  · cases found
    omega

end Stratum

namespace SourceMap

/-- What a source map is made of after its names. -/
inductive Item where
  | stratum (name : String) (stratum : Stratum)
  /-- A trailer with another stratum right after it. -/
  | trailer
  deriving DecidableEq

def Item.stratum? : Item → Option (String × Stratum)
  | .stratum name found => some (name, found)
  | .trailer => none

/-- Reads one item, or the trailer that ends the map. -/
def step (size : Nat) : Reading.Step FormatError Item := fun start =>
  match Token.mark? Mark.stratum start, Token.mark? Mark.trailer start with
  | some rest, _ => do
    let ((name, found), rest) ← Stratum.read size rest
    return (some (.stratum name found), rest)
  | none, some rest =>
    if Mark.stratum <+: rest then .ok (some .trailer, rest) else .ok (none, rest)
  | none, none =>
    if start = [] then .error .missingTrailer
    else .error (.expected .stratumOrEnd (size - start.length))

theorem step_shrinks (size : Nat) : Reading.Shrinks (step size) where
  item := by
    intro start rest item read
    unfold step at read
    split at read
    · next after _ marked =>
      obtain ⟨⟨named, last⟩, found, same⟩ := Reading.bind_eq_ok_iff.mp read
      have := Token.mark?_length_le marked
      have := Stratum.read_length_lt found
      cases same
      omega
    · next after _ marked =>
      have := Token.mark?_length_le marked
      simp only [Mark.trailer, List.length_cons, List.length_nil] at this
      split at read
      · cases read
        omega
      · cases read
    · split at read <;> cases read
  stop := by
    intro start rest read
    unfold step at read
    split at read
    · obtain ⟨_, _, same⟩ := Reading.bind_eq_ok_iff.mp read
      cases same
    · next after _ marked =>
      have := Token.mark?_length_le marked
      split at read
      · cases read
      · cases read
        omega
    · split at read <;> cases read

def readItems (size : Nat) (start : Bytes) : Reading.Run FormatError Item :=
  Reading.many (step size) (step_shrinks size) start

/-- The strata up to the first whose name is taken, and that name. -/
def untilTaken (taken : List String) :
    List (String × Stratum) → List (String × Stratum) × Option String
  | [] => ([], none)
  | named :: rest =>
    if named.1 ∈ taken then ([named], some named.1)
    else
      let (others, repeated) := untilTaken (named.1 :: taken) rest
      (named :: others, repeated)

/-- The first word of the text, empty if there is none, and what follows it. -/
def header (payload : Bytes) : String × Bytes :=
  (Token.name? (Token.skipBlanks payload)).getD ("", [])

/-- A source map as far as its text could be read: the strata that were complete, and the fault that
came after them if there was one. -/
structure Draft where
  generatedFile : String
  defaultStratum : String
  strata : List (String × Stratum)
  ending : Except FormatError Unit

/-- The draft with the items of a run. A name that is taken ends it before any later fault. -/
def Draft.ofRun (generatedFile defaultStratum : String) (run : Reading.Run FormatError Item) :
    Draft :=
  let (strata, repeated) := untilTaken [] (run.items.filterMap (·.stratum?))
  ⟨generatedFile, defaultStratum, strata, match repeated with
    | some name => .error (.duplicateStratum name)
    | none => run.ending.map fun _ => ()⟩

def readDraft (payload : Bytes) : Except FormatError Draft := do
  let (first, rest) := header payload
  if first ≠ "SMAP" then throw (.badHeader first)
  let (generatedFile, rest) ←
    Section.expect payload.length .generatedFile Token.name? rest
  let (defaultStratum, rest) ←
    Section.expect payload.length .defaultStratum Token.name? rest
  return .ofRun generatedFile defaultStratum (readItems payload.length rest)

/-- The source map, if its text was read to the trailer. -/
def Draft.finish (draft : Draft) : Except FormatError SourceMap :=
  draft.ending.map fun _ => ⟨draft.generatedFile, draft.defaultStratum, .ofList draft.strata⟩

/-- The source map that a text stands for, or the first thing that is wrong with it. -/
def parse (payload : Bytes) : Except FormatError SourceMap := do
  (← readDraft payload).finish

def stratumRecord (named : String × Stratum) : Record :=
  ⟨.trace, "Parsed stratum " ++ named.1 ++ ": " ++ Numeral.decimal named.2.files.size ++
    " files, " ++ Numeral.decimal named.2.lines.length ++ " lines"⟩

/-- One record for each stratum that was read to its end, and one for the whole map. -/
def Draft.records (draft : Draft) : List Record :=
  draft.strata.map stratumRecord ++
    match draft.finish with
    | .error _ => []
    | .ok map => [⟨.debug, "Parsed SMAP: " ++ map.outline.text⟩]

/-- Reads a source map and records it. -/
def read (payload : Bytes) : Attempt FormatError SourceMap :=
  ExceptT.mk <| match readDraft payload with
    | .error fault => ⟨.error fault, []⟩
    | .ok draft => ⟨draft.finish, draft.records⟩

theorem value_read (payload : Bytes) : (read payload).run.value = parse payload := by
  unfold read parse
  cases readDraft payload <;> rfl

end SourceMap

end DebugTables
