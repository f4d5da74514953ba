import Mathlib
import DebugTables.Proofs.SourceMap.Denotation
import DebugTables.Proofs.SourceMap.Entries
import DebugTables.Proofs.Text.Utf8

/-! Reading a source map accepts exactly the format. The reader decides by the next two bytes which
section or item to read, and the format lets no other one start there; both directions go up from
sections to strata, to the items of the map, and to the whole text. -/

namespace DebugTables.Grammar
open Reading (Row)

theorem prefix_unique {first second start : Bytes} (one : first <+: start) (two : second <+: start)
    (size : first.length = second.length) : first = second :=
  (List.prefix_of_prefix_length_le one two size.le).eq_of_length size

theorem sectionStep_item_iff {size : Nat} {name : String} {start rest : Bytes} {part : Section} :
    Section.step size name start = .ok (some part, rest) ↔ SectionText start part rest := by
  refine ⟨?_, ?_⟩
  · intro read
    unfold Section.step at read
    split at read
    · next after _ marked =>
      obtain ⟨⟨entries, last⟩, found, same⟩ := Reading.bind_eq_ok_iff.mp read
      obtain ⟨row, closed⟩ := fileEntries_eq_ok_iff.mp found
      cases same
      exact .files (mark?_eq_some_iff.mp marked) row closed
    · next after _ marked =>
      obtain ⟨⟨entries, last⟩, found, same⟩ := Reading.bind_eq_ok_iff.mp read
      obtain ⟨row, closed⟩ := lineEntries_eq_ok_iff.mp found
      cases same
      exact .lines (mark?_eq_some_iff.mp marked) row closed
    · split at read
      · cases read
      · split at read <;> cases read
  · intro text
    cases text with
    | files marked row closed =>
      unfold Section.step
      rw [mark?_eq_some_iff.mpr marked]
      exact Reading.bind_eq_ok_iff.mpr ⟨_, fileEntries_eq_ok_iff.mpr ⟨row, closed⟩, rfl⟩
    | lines marked row closed =>
      have noFiles : ¬Mark.files <+: start := by
        intro starts
        cases prefix_unique starts marked.starts rfl
      unfold Section.step
      rw [mark?_eq_none_iff.mpr noFiles, mark?_eq_some_iff.mpr marked]
      exact Reading.bind_eq_ok_iff.mpr ⟨_, lineEntries_eq_ok_iff.mpr ⟨row, closed⟩, rfl⟩

theorem sectionStep_stop {size : Nat} {name : String} {start rest : Bytes}
    (read : Section.step size name start = .ok (none, rest)) : start = rest := by
  unfold Section.step at read
  split at read
  · obtain ⟨_, _, same⟩ := Reading.bind_eq_ok_iff.mp read
    cases same
  · obtain ⟨_, _, same⟩ := Reading.bind_eq_ok_iff.mp read
    cases same
  · split at read
    · cases read
      rfl
    · split at read <;> cases read
      rfl

/-- Where an item of the map starts, or the trailer that ends it. -/
def Bounded (rest : Bytes) : Prop :=
  Mark.stratum <+: rest ∨ Mark.trailer <+: rest

theorem sectionStep_bounded {size : Nat} {name : String} {rest : Bytes} (bounded : Bounded rest) :
    Section.step size name rest = .ok (none, rest) := by
  have noFiles : ¬Mark.files <+: rest := by
    intro starts
    rcases bounded with other | other <;> cases prefix_unique starts other rfl
  have noLines : ¬Mark.lines <+: rest := by
    intro starts
    rcases bounded with other | other <;> cases prefix_unique starts other rfl
  unfold Section.step
  rw [mark?_eq_none_iff.mpr noFiles, mark?_eq_none_iff.mpr noLines]
  exact if_pos bounded

theorem row_of_readAll {size : Nat} {name : String} {start rest : Bytes} {sections : List Section}
    (read : Section.readAll size name start = .ok (sections, rest)) :
    Row SectionText start sections rest := by
  obtain ⟨last, row, stop⟩ := Reading.many_all_eq_ok_iff.mp read
  cases sectionStep_stop stop
  exact row.mono sectionStep_item_iff.mp

theorem readAll_eq_ok {size : Nat} {name : String} {start rest : Bytes} {sections : List Section}
    (row : Row SectionText start sections rest) (bounded : Bounded rest) :
    Section.readAll size name start = .ok (sections, rest) :=
  Reading.many_all_eq_ok_iff.mpr
    ⟨rest, row.mono sectionStep_item_iff.mpr, sectionStep_bounded bounded⟩

theorem stratumText_of_read {size : Nat} {start rest : Bytes} {name : String} {stratum : Stratum}
    (read : Stratum.read size start = .ok ((name, stratum), rest)) :
    StratumText start name stratum rest := by
  obtain ⟨⟨found, afterName⟩, foundName, read⟩ := Reading.bind_eq_ok_iff.mp read
  obtain ⟨⟨sections, last⟩, foundSections, read⟩ := Reading.bind_eq_ok_iff.mp read
  obtain ⟨word, named, rfl⟩ := expect_name_iff.mp foundName
  dsimp only at read
  split at read
  · cases read
  · next declared =>
    cases read
    exact .mk named (row_of_readAll foundSections) (describes_iff.mpr ⟨rfl, declared⟩)

theorem read_eq_ok {size : Nat} {start rest : Bytes} {name : String} {stratum : Stratum}
    (text : StratumText start name stratum rest) (bounded : Bounded rest) :
    Stratum.read size start = .ok ((name, stratum), rest) := by
  obtain ⟨named, row, describes⟩ := text
  obtain ⟨rfl, declared⟩ := describes_iff.mp describes
  refine Reading.bind_eq_ok_iff.mpr ⟨_, expect_name_iff.mpr ⟨_, named, rfl⟩, ?_⟩
  refine Reading.bind_eq_ok_iff.mpr ⟨_, readAll_eq_ok row bounded, ?_⟩
  simp only [declared]
  rfl

theorem itemText_of_step {size : Nat} {start rest : Bytes} {item : SourceMap.Item}
    (read : SourceMap.step size start = .ok (some item, rest)) : ItemText start item rest := by
  unfold SourceMap.step at read
  split at read
  · next after _ marked =>
    obtain ⟨⟨⟨name, stratum⟩, last⟩, found, same⟩ := Reading.bind_eq_ok_iff.mp read
    cases same
    exact .stratum (mark?_eq_some_iff.mp marked) (stratumText_of_read found)
  · next after _ marked =>
    split at read
    · next continues =>
      cases read
      exact .trailer (mark?_eq_some_iff.mp marked) continues
    · cases read
  · split at read <;> cases read

theorem Marked.not_stratum {start rest : Bytes} (text : Marked Mark.trailer start rest) :
    Token.mark? Mark.stratum start = none := by
  rw [mark?_eq_none_iff]
  intro starts
  cases prefix_unique starts text.starts rfl

theorem step_eq_ok (size : Nat) {start rest : Bytes} {item : SourceMap.Item}
    (text : ItemText start item rest) (bounded : Bounded rest) :
    SourceMap.step size start = .ok (some item, rest) := by
  unfold SourceMap.step
  cases text with
  | stratum marked text =>
    rw [mark?_eq_some_iff.mpr marked]
    exact Reading.bind_eq_ok_iff.mpr ⟨_, read_eq_ok text bounded, rfl⟩
  | trailer marked continues =>
    rw [marked.not_stratum, mark?_eq_some_iff.mpr marked]
    exact if_pos continues

theorem ItemText.starts {start rest : Bytes} {item : SourceMap.Item}
    (text : ItemText start item rest) : Bounded start := by
  cases text with
  | stratum marked text => exact .inl marked.starts
  | trailer marked continues => exact .inr marked.starts

theorem step_stop_iff {size : Nat} {start rest : Bytes} :
    SourceMap.step size start = .ok (none, rest) ↔
      Marked Mark.trailer start rest ∧ ¬Mark.stratum <+: rest := by
  refine ⟨?_, ?_⟩
  · intro read
    unfold SourceMap.step at read
    split at read
    · obtain ⟨_, _, same⟩ := Reading.bind_eq_ok_iff.mp read
      cases same
    · next after _ marked =>
      split at read
      · cases read
      · next ends =>
        cases read
        exact ⟨mark?_eq_some_iff.mp marked, ends⟩
    · split at read <;> cases read
  · intro parts
    rcases parts with ⟨marked, ends⟩
    unfold SourceMap.step
    rw [marked.not_stratum, mark?_eq_some_iff.mpr marked]
    exact if_neg ends

theorem readItems_all_eq_ok_iff {size : Nat} {start rest : Bytes} {items : List SourceMap.Item} :
    (SourceMap.readItems size start).all = .ok (items, rest) ↔ ∃ last,
      Row ItemText start items last ∧ Marked Mark.trailer last rest ∧ ¬Mark.stratum <+: rest := by
  rw [SourceMap.readItems, Reading.many_all_eq_ok_iff]
  refine ⟨?_, ?_⟩
  · intro parts
    rcases parts with ⟨last, row, stop⟩
    exact ⟨last, row.mono itemText_of_step, step_stop_iff.mp stop⟩
  · intro parts
    rcases parts with ⟨last, row, trailer, ends⟩
    have steps := row.imp (.inr trailer.starts) ItemText.starts (step_eq_ok size)
    exact ⟨last, steps.1, step_stop_iff.mpr ⟨trailer, ends⟩⟩

/-- A draft is finished where no name was taken and the items were read to their trailer. -/
theorem finish_ofRun_iff {file default : String} {run : Reading.Run FormatError SourceMap.Item}
    {map : SourceMap} : (SourceMap.Draft.ofRun file default run).finish = .ok map ↔
      map.generatedFile = file ∧ map.defaultStratum = default ∧
        ∃ items rest, run.all = .ok (items, rest) ∧ Collects items map.strata := by
  have distinct : (SourceMap.untilTaken [] (run.items.filterMap (·.stratum?))).2 = none ↔
      ((run.items.filterMap (·.stratum?)).map Prod.fst).Nodup := by
    simp [untilTaken_eq_none_iff]
  obtain ⟨mapFile, mapDefault, strata⟩ := map
  simp only [collects_iff, Reading.Run.all_eq_ok_iff, SourceMap.Draft.finish,
    SourceMap.Draft.ofRun]
  cases repeated : (SourceMap.untilTaken [] (run.items.filterMap (·.stratum?))).2 with
  | some name =>
    have taken : ¬((run.items.filterMap (·.stratum?)).map Prod.fst).Nodup := by
      rw [← distinct, repeated]
      exact Option.some_ne_none name
    refine ⟨?_, ?_⟩
    · intro finished
      cases finished
    · intro parts
      rcases parts with ⟨-, -, items, rest, ⟨rfl, -⟩, free, -⟩
      exact absurd free taken
  | none =>
    rw [untilTaken_fst repeated]
    cases ended : run.ending with
    | error fault =>
      refine ⟨?_, ?_⟩
      · intro finished
        cases finished
      · intro parts
        rcases parts with ⟨-, -, items, rest, ⟨-, ended⟩, -⟩
        cases ended
    | ok rest =>
      refine ⟨?_, ?_⟩
      · intro finished
        cases finished
        exact ⟨rfl, rfl, _, rest, ⟨rfl, rfl⟩, distinct.mp repeated, rfl⟩
      · intro parts
        rcases parts with ⟨rfl, rfl, items, rest, ⟨rfl, -⟩, -, rfl⟩
        rfl

theorem header_eq_iff {payload rest : Bytes} : SourceMap.header payload = ("SMAP", rest) ↔
    ∃ gap start, payload = gap ++ start ∧ Gap gap start ∧
      Word start [0x53, 0x4D, 0x41, 0x50] rest := by
  have written : Utf8.encode "SMAP" = [0x53, 0x4D, 0x41, 0x50] := by decide
  refine ⟨?_, ?_⟩
  · intro read
    obtain ⟨gap, same, separated⟩ := gap_skipBlanks payload
    unfold SourceMap.header at read
    cases found : Token.name? (Token.skipBlanks payload) with
    | none =>
      rw [found] at read
      exact absurd (congrArg Prod.fst read) (show "" ≠ "SMAP" by decide)
    | some named =>
      rw [found, Option.getD_some] at read
      rw [read] at found
      obtain ⟨word, text, stands⟩ := name?_eq_some_iff.mp found
      have exact := @Utf8.encode_decode word (by rw [stands]; decide)
      rw [stands, written] at exact
      exact ⟨gap, _, same, separated, exact ▸ text⟩
  · intro parts
    rcases parts with ⟨gap, start, rfl, separated, text⟩
    have found : Token.name? start = some ("SMAP", rest) :=
      name?_eq_some_iff.mpr ⟨_, text, by rw [← written, Utf8.decode_encode]⟩
    rw [SourceMap.header, skipBlanks_append separated, found, Option.getD_some]

theorem readDraft_eq_ok_iff {payload : Bytes} {draft : SourceMap.Draft} :
    SourceMap.readDraft payload = .ok draft ↔ ∃ afterHeader file afterFile default afterDefault,
      SourceMap.header payload = ("SMAP", afterHeader) ∧ Word afterHeader file afterFile ∧
        Word afterFile default afterDefault ∧ draft = .ofRun (Utf8.decode file)
          (Utf8.decode default) (SourceMap.readItems payload.length afterDefault) := by
  unfold SourceMap.readDraft
  obtain ⟨first, afterHeader⟩ := SourceMap.header payload
  dsimp only
  refine ⟨?_, ?_⟩
  · intro read
    split at read
    · cases read
    · next known =>
      obtain ⟨⟨file, afterFile⟩, foundFile, read⟩ := Reading.bind_eq_ok_iff.mp read
      obtain ⟨⟨default, afterDefault⟩, foundDefault, same⟩ := Reading.bind_eq_ok_iff.mp read
      obtain ⟨fileWord, fileText, rfl⟩ := expect_name_iff.mp foundFile
      obtain ⟨defaultWord, defaultText, rfl⟩ := expect_name_iff.mp foundDefault
      cases same
      rw [not_not] at known
      exact ⟨_, _, _, _, _, by rw [known], fileText, defaultText, rfl⟩
  · intro parts
    rcases parts with
      ⟨_, file, afterFile, default, afterDefault, opened, fileText, defaultText, rfl⟩
    cases opened
    rw [if_neg (not_not.mpr rfl)]
    refine Reading.bind_eq_ok_iff.mpr ⟨_, expect_name_iff.mpr ⟨_, fileText, rfl⟩, ?_⟩
    exact Reading.bind_eq_ok_iff.mpr ⟨_, expect_name_iff.mpr ⟨_, defaultText, rfl⟩, rfl⟩

theorem mapText_of_parse {payload : Bytes} {map : SourceMap}
    (read : SourceMap.parse payload = .ok map) : MapText payload map := by
  obtain ⟨draft, read, finished⟩ := Reading.bind_eq_ok_iff.mp read
  rcases readDraft_eq_ok_iff.mp read with
    ⟨afterHeader, file, afterFile, default, afterDefault, opened, fileText, defaultText, rfl⟩
  obtain ⟨gap, start, rfl, separated, header⟩ := header_eq_iff.mp opened
  obtain ⟨sameFile, sameDefault, items, rest, all, collects⟩ := finish_ofRun_iff.mp finished
  obtain ⟨last, row, trailer, ends⟩ := readItems_all_eq_ok_iff.mp all
  obtain ⟨mapFile, mapDefault, strata⟩ := map
  cases sameFile
  cases sameDefault
  exact .mk separated header fileText defaultText row trailer ends collects

theorem parse_eq_ok {payload : Bytes} {map : SourceMap} (text : MapText payload map) :
    SourceMap.parse payload = .ok map := by
  obtain @⟨gap, start, afterHeader, afterFile, afterDefault, afterItems, rest, file, default, items,
    strata, separated, header, fileText, defaultText, row, trailer, ends, collects⟩ := text
  have opened := header_eq_iff.mpr ⟨gap, start, rfl, separated, header⟩
  refine Reading.bind_eq_ok_iff.mpr
    ⟨_, readDraft_eq_ok_iff.mpr ⟨_, _, _, _, _, opened, fileText, defaultText, rfl⟩, ?_⟩
  exact finish_ofRun_iff.mpr ⟨rfl, rfl, items, rest,
    readItems_all_eq_ok_iff.mpr ⟨_, row, trailer, ends⟩, collects⟩

/-- Reading accepts exactly the texts of the format, gives the map that a text stands for, and
reports a fault for all other bytes. -/
theorem parse_accepts_exactly (payload : Bytes) :
    (∀ map, SourceMap.parse payload = .ok map ↔ MapText payload map) ∧
      ((∃ fault, SourceMap.parse payload = .error fault) ↔ ¬∃ map, MapText payload map) := by
  have accepts (map : SourceMap) : SourceMap.parse payload = .ok map ↔ MapText payload map :=
    ⟨mapText_of_parse, parse_eq_ok⟩
  refine ⟨accepts, ?_⟩
  simp only [← accepts]
  cases SourceMap.parse payload <;> simp

/-- Two strata with all kinds of sections, where a tab is no blank. A mapping takes its file id from
the line section before, the last file of an id counts, and anything may follow the last trailer. But
without any file id before it a mapping needs a file zero. -/
theorem parse_accepts_exactly_across_sections :
    let text := Utf8.encode ("SMAP\r\n a.js\nK\n*S K *F\n007 b\n+ 2 é\nsrc/é\n*L\n1#7,3:10,2\r\n" ++
      "4:20 *F 3c\td 7 e\n*L 5:30,4\n6#2:40\n*E\n*S J *L*E f *S")
    let files : List (UInt32 × SourceFile) :=
      [(2, ⟨"é", some "src/é"⟩), (3, ⟨"c\td", none⟩), (7, ⟨"e", none⟩)]
    let lines : List LineMapping :=
      [⟨1, 7, 10, 3, 2⟩, ⟨4, 7, 20, 1, 1⟩, ⟨5, 7, 30, 1, 4⟩, ⟨6, 2, 40, 1, 1⟩]
    let strata : List (String × Stratum) := [("K", ⟨.ofList files, lines⟩), ("J", ⟨∅, []⟩)]
    let map : SourceMap := ⟨"a.js", "K", .ofList strata⟩
    let undeclared := Utf8.encode "SMAP a.js K *S K *F 1 b *L 1:10 *E"
    SourceMap.parse text = .ok map ∧ MapText text map ∧
      SourceMap.parse undeclared = .error (.unknownFileId "K" 0) ∧
      ¬∃ map, MapText undeclared map := by
  intro text files lines strata map undeclared
  have read : SourceMap.parse text = .ok map := by
    simp only [text, map, strata, files, lines]
    cbv
  have refused : SourceMap.parse undeclared = .error (.unknownFileId "K" 0) := by
    simp only [undeclared]
    cbv
  exact ⟨read, ((parse_accepts_exactly text).1 map).mp read, refused,
    (parse_accepts_exactly undeclared).2.mp ⟨_, refused⟩⟩

end DebugTables.Grammar
