import Mathlib
import DebugTables.Proofs.SourceMap.Acceptance
import DebugTables.Proofs.SourceMap.Printed
import DebugTables.Proofs.SourceMap.WellFormed

/-! The text of a well-formed source map reads as that map, so well-formed maps are exactly those
that some text stands for. Sections and items start with a `*`, which ends the entries before. -/

namespace DebugTables.Grammar
open Reading (Row row_flatMap)
open TreeMap

theorem Marked.closed {mark start rest : Bytes} (text : Marked mark start rest)
    (star : mark.head? = some 0x2A) : Closed start := by
  rcases text.starts with ⟨after, same⟩
  intro byte head
  rw [← same, List.head?_append, star, Option.some_or] at head
  cases head
  rfl

theorem SectionText.closed {start rest : Bytes} {part : Section}
    (text : SectionText start part rest) : Closed start := by
  cases text with
  | files marked row closed => exact marked.closed rfl
  | lines marked row closed => exact marked.closed rfl

theorem ItemText.closed {start rest : Bytes} {item : SourceMap.Item}
    (text : ItemText start item rest) : Closed start := by
  cases text with
  | stratum marked text => exact marked.closed rfl
  | trailer marked continues => exact marked.closed rfl

theorem Closed.solid {rest : Bytes} (closed : Closed rest) : Solid rest := by
  intro byte head
  rw [closed byte head]
  rfl

theorem filesText_encode {files : List (UInt32 × SourceFile)} {rest : Bytes}
    (formed : ∀ entry ∈ files, entry.2.WellFormed) (closed : Closed rest) :
    SectionText (Mark.files ++ ([0x0A] ++
        (files.flatMap (fun entry => Utf8.encode (entry.2.text entry.1)) ++ rest)))
      (.files (files.map fun entry => ⟨entry.1, entry.2⟩)) rest := by
  rcases @row_flatMap (UInt32 × SourceFile) FileEntry FileText Solid
    (fun entry => Utf8.encode (entry.2.text entry.1))
    (fun entry => ⟨entry.1, entry.2⟩) files rest closed.solid FileText.solid
    (fun entry member rest solid =>
      @fileText_encode entry.2 entry.1 rest (formed entry member) solid)
    with ⟨row, solid⟩
  exact .files (marked_blank Mark.files 0x0A rfl solid) row closed

theorem linesText_encode {lines : List LineMapping} {rest : Bytes}
    (proper : ∀ mapping ∈ lines, mapping.Proper) (closed : Closed rest) :
    SectionText (Mark.lines ++ ([0x0A] ++
        (lines.flatMap (fun mapping => Utf8.encode (mapping.text ++ "\n")) ++ rest)))
      (.lines (lines.map printedEntry)) rest := by
  rcases @row_flatMap LineMapping LineEntry LineText Solid
    (fun mapping => Utf8.encode (mapping.text ++ "\n"))
    printedEntry lines rest closed.solid LineText.solid
    (fun mapping member rest solid => @lineText_encode mapping rest (proper mapping member) solid)
    with ⟨row, solid⟩
  exact .lines (marked_blank Mark.lines 0x0A rfl solid) row closed

theorem mappings_printed (running : UInt32) (lines : List LineMapping) :
    LineEntry.mappings running (lines.map printedEntry) = lines := by
  induction lines generalizing running with
  | nil => rfl
  | cons mapping lines ih =>
    rw [List.map_cons, LineEntry.mappings, ih]
    rfl

/-- The sections that are printed for a stratum. -/
def printedSections (stratum : Stratum) : List Section :=
  [.files (stratum.files.toList.map fun entry => ⟨entry.1, entry.2⟩),
    .lines (stratum.lines.map printedEntry)]

theorem describes_printed {stratum : Stratum}
    (declared : ∀ mapping ∈ stratum.lines, mapping.fileId ∈ stratum.files) :
    Describes (printedSections stratum) stratum := by
  refine describes_iff.mpr ⟨?_, ?_⟩
  · cases stratum with
    | mk files lines =>
      simp only [Stratum.ofSections, printedSections, List.flatMap_cons, List.flatMap_nil,
        List.append_nil, List.nil_append, Section.declaredFiles, Section.declaredLines,
        mappings_printed, List.map_map, Function.comp_def, List.map_id', Prod.mk.eta,
        Stratum.mk.injEq, and_true]
      exact (ofList_toList _).symm
  · simpa [Stratum.undeclared?] using declared

theorem stratumText_encode {name : String} {stratum : Stratum} {rest : Bytes}
    (word : IsWord name) (formed : stratum.WellFormed) (closed : Closed rest) :
    ItemText (Utf8.encode (stratum.text name) ++ rest) (.stratum name stratum) rest := by
  have start : Utf8.encode "*S " = Mark.stratum ++ [0x20] := by decide
  have files : Utf8.encode "\n*F\n" = [0x0A] ++ (Mark.files ++ [0x0A]) := by decide
  have lines : Utf8.encode "*L\n" = Mark.lines ++ [0x0A] := by decide
  have entries (entry : UInt32 × SourceFile) (member : entry ∈ stratum.files.toList) :
      entry.2.WellFormed :=
    formed.files _ _ (Std.ExtTreeMap.mem_toList_iff_getElem?_eq_some.mp member)
  have second := linesText_encode formed.proper closed
  have first := filesText_encode entries second.closed
  have named := word_encode word 0x0A rfl first.closed.solid
  have text := ItemText.stratum (marked_blank Mark.stratum 0x20 rfl named.solid)
    (.mk named (.more first (.more second .done)) (describes_printed formed.declared))
  rw [Utf8.decode_encode] at text
  simpa only [Stratum.text, Utf8.encode_append, Utf8.encode_join, List.flatMap_map, start, files,
    lines, List.append_assoc] using text

theorem collects_printed (strata : Std.ExtTreeMap String Stratum) :
    Collects (strata.toList.map fun entry => .stratum entry.1 entry.2) strata := by
  have same : (strata.toList.map fun entry => SourceMap.Item.stratum entry.1 entry.2).filterMap
      (·.stratum?) = strata.toList := by
    rw [List.filterMap_map]
    exact List.filterMap_some
  refine collects_iff.mpr ⟨?_, ?_⟩
  · rw [same]
    exact nodup_keys strata
  · rw [same]
    exact (ofList_toList _).symm

/-- A text up to the trailer that ends it: its names, and the items before the trailer. -/
inductive BodyText : Bytes → String → String → List SourceMap.Item → Bytes → Prop where
  | mk {gap start afterHeader afterFile afterDefault rest file default : Bytes}
      {items : List SourceMap.Item} (separated : Gap gap start)
      (header : Word start [0x53, 0x4D, 0x41, 0x50] afterHeader)
      (generatedFile : Word afterHeader file afterFile)
      (defaultStratum : Word afterFile default afterDefault)
      (row : Row ItemText afterDefault items rest) :
      BodyText (gap ++ start) (Utf8.decode file) (Utf8.decode default) items rest

theorem BodyText.mapText {payload trailer rest : Bytes} {file default : String}
    {items : List SourceMap.Item} {strata : Std.ExtTreeMap String Stratum}
    (text : BodyText payload file default items trailer) (marked : Marked Mark.trailer trailer rest)
    (ends : ¬Mark.stratum <+: rest) (collects : Collects items strata) :
    MapText payload ⟨file, default, strata⟩ := by
  cases text with
  | mk separated header file default row =>
    exact .mk separated header file default row marked ends collects

theorem MapText.body {payload : Bytes} {map : SourceMap} (text : MapText payload map) :
    ∃ items trailer rest, BodyText payload map.generatedFile map.defaultStratum items trailer ∧
      Marked Mark.trailer trailer rest := by
  cases text with
  | mk separated header file default row marked ends collects =>
    exact ⟨_, _, _, .mk separated header file default row, marked⟩

/-- What is printed before the trailer. -/
def printedBody (map : SourceMap) : Bytes :=
  Utf8.encode ("SMAP\n" ++ map.generatedFile ++ "\n" ++ map.defaultStratum ++ "\n" ++
    String.join (map.strata.toList.map fun (name, stratum) => stratum.text name))

/-- The items that are printed for a map. -/
def printedItems (map : SourceMap) : List SourceMap.Item :=
  map.strata.toList.map fun entry => .stratum entry.1 entry.2

theorem encode_text (map : SourceMap) :
    Utf8.encode map.text = printedBody map ++ (Mark.trailer ++ [0x0A]) := by
  have trailer : Utf8.encode "*E\n" = Mark.trailer ++ [0x0A] := by decide
  rw [SourceMap.text, Utf8.encode_append, trailer]
  rfl

theorem bodyText_encode {map : SourceMap} (formed : map.WellFormed) {rest : Bytes}
    (closed : Closed rest) : BodyText (printedBody map ++ rest) map.generatedFile
      map.defaultStratum (printedItems map) rest := by
  have header : Utf8.encode "SMAP\n" = Utf8.encode "SMAP" ++ [0x0A] := by decide
  have smap : IsWord "SMAP" := by simp [IsWord]
  have feed : Utf8.encode "\n" = [0x0A] := by decide
  have words (entry : String × Stratum) (member : entry ∈ map.strata.toList) :
      IsWord entry.1 ∧ entry.2.WellFormed := by
    have found := Std.ExtTreeMap.mem_toList_iff_getElem?_eq_some.mp member
    refine ⟨formed.names _ ?_, formed.strata _ _ found⟩
    exact Std.ExtTreeMap.mem_iff_isSome_getElem?.mpr (by rw [found]; rfl)
  rcases @row_flatMap (String × Stratum) SourceMap.Item ItemText Closed
    (fun entry => Utf8.encode (entry.2.text entry.1))
    (fun entry => .stratum entry.1 entry.2) map.strata.toList rest closed ItemText.closed
    (fun entry member rest closed =>
      @stratumText_encode entry.1 entry.2 rest (words entry member).1 (words entry member).2 closed)
    with ⟨row, closed⟩
  -- From the last word to the first, since a word needs to know that no blank follows its blank.
  have default := word_encode formed.defaultStratum 0x0A rfl closed.solid
  have file := word_encode formed.generatedFile 0x0A rfl default.solid
  have opened := word_encode smap 0x0A rfl file.solid
  have text := BodyText.mk (gap_nil opened.solid) opened file default row
  rw [Utf8.decode_encode, Utf8.decode_encode] at text
  simpa only [printedBody, printedItems, Utf8.encode_append, Utf8.encode_join, List.flatMap_map,
    header, feed, List.append_assoc, List.nil_append] using text

/-- A printed map may end with any trailer that no stratum follows. -/
theorem mapText_printedBody {map : SourceMap} (formed : map.WellFormed) {trailer rest : Bytes}
    (marked : Marked Mark.trailer trailer rest) (ends : ¬Mark.stratum <+: rest) :
    MapText (printedBody map ++ trailer) map :=
  (bodyText_encode formed (marked.closed rfl)).mapText marked ends (collects_printed map.strata)

theorem mapText_encode {map : SourceMap} (formed : map.WellFormed) :
    MapText (Utf8.encode map.text) map := by
  rw [encode_text]
  exact mapText_printedBody formed (marked_blank Mark.trailer 0x0A rfl (by simp [Solid]))
    (by decide)

/-- The text of a map that was read is read as the same map. -/
theorem parse_encode_text_of_parse {payload : Bytes} {map : SourceMap}
    (read : SourceMap.parse payload = .ok map) :
    SourceMap.parse (Utf8.encode map.text) = .ok map :=
  parse_eq_ok (mapText_encode (mapText_of_parse read).wellFormed)

/-- What is read is well formed, and a well-formed map is read back from its text. So reading what
was printed for a map that was read changes nothing, and neither does printing it again. -/
theorem parse_text_round_trip :
    (∀ payload map, SourceMap.parse payload = .ok map → map.WellFormed) ∧
      (∀ map, map.WellFormed → SourceMap.parse (Utf8.encode map.text) = .ok map) ∧
      ∀ payload map, SourceMap.parse payload = .ok map →
        SourceMap.parse (Utf8.encode map.text) = .ok map ∧
          ∀ again, SourceMap.parse (Utf8.encode map.text) = .ok again → again.text = map.text := by
  have formed (payload : Bytes) (map : SourceMap) (read : SourceMap.parse payload = .ok map) :
      map.WellFormed :=
    (mapText_of_parse read).wellFormed
  have printed (map : SourceMap) (formed : map.WellFormed) :
      SourceMap.parse (Utf8.encode map.text) = .ok map :=
    parse_eq_ok (mapText_encode formed)
  refine ⟨formed, printed, ?_⟩
  intro payload map read
  have same := printed map (formed payload map read)
  refine ⟨same, ?_⟩
  intro again readAgain
  rw [same] at readAgain
  cases readAgain
  rfl

/-- A text that leaves out what a reader supplies, and the map that comes back from its print. -/
theorem parse_text_round_trip_short : ∃ map,
    SourceMap.parse (Utf8.encode
      "SMAP a.kt K\n*S K *F + 01 b.kt\np/b.kt 2 c.kt *L 3#1,2:7 5:9,4 *E") = .ok map ∧
    map.WellFormed ∧ SourceMap.parse (Utf8.encode map.text) = .ok map ∧
    map.text =
      "SMAP\na.kt\nK\n*S K\n*F\n+ 1 b.kt\np/b.kt\n2 c.kt\n*L\n3#1,2:7\n5#1:9,4\n*E\n" := by
  have read : SourceMap.parse (Utf8.encode
      "SMAP a.kt K\n*S K *F + 01 b.kt\np/b.kt 2 c.kt *L 3#1,2:7 5:9,4 *E") = .ok ⟨"a.kt", "K",
        .ofList [("K", Stratum.mk
          (.ofList [((1 : UInt32), SourceFile.mk "b.kt" (some "p/b.kt")), (2, ⟨"c.kt", none⟩)])
          [⟨3, 1, 7, 2, 1⟩, ⟨5, 1, 9, 1, 4⟩])]⟩ := by
    cbv
  have formed := parse_text_round_trip.1 _ _ read
  exact ⟨_, read, formed, parse_text_round_trip.2.1 _ formed, by cbv⟩

end DebugTables.Grammar
