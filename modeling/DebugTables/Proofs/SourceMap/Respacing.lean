import Mathlib
import DebugTables.Proofs.SourceMap.Respaced

/-! Blanks between the parts of a text only separate. Where each run of blanks may become another
one, two texts are read in step: each part of the one is read where the same part of the other is,
or both have the same thing wrong. So both stand for the same map, or neither stands for one. -/

namespace DebugTables.Grammar

/-- Space, carriage return and line feed as characters. -/
def IsBlankLetter (letter : Char) : Prop :=
  letter = ' ' ∨ letter = '\r' ∨ letter = '\n'

/-- Faults with the same contents, save for the place in the text, and save that a blank where the
letter of a section should be may be another blank. -/
inductive SameFault : FormatError → FormatError → Prop where
  | badHeader {header : String} : SameFault (.badHeader header) (.badHeader header)
  | duplicateStratum {stratum : String} :
      SameFault (.duplicateStratum stratum) (.duplicateStratum stratum)
  | unsupportedSection {stratum : String} {letter other : Char}
      (letters : letter = other ∨ IsBlankLetter letter ∧ IsBlankLetter other) :
      SameFault (.unsupportedSection stratum letter) (.unsupportedSection stratum other)
  | missingTrailer : SameFault .missingTrailer .missingTrailer
  | expected {part : Part} {offset other : Nat} :
      SameFault (.expected part offset) (.expected part other)
  | invalidMapping {offset other : Nat} :
      SameFault (.invalidMapping offset) (.invalidMapping other)
  | unknownFileId {stratum : String} {fileId : UInt32} :
      SameFault (.unknownFileId stratum fileId) (.unknownFileId stratum fileId)

/-- Two readings that give related results, or have the same thing wrong. -/
inductive Agree {α β : Type} (related : α → β → Prop) :
    Except FormatError α → Except FormatError β → Prop where
  | ok {a : α} {b : β} (same : related a b) : Agree related (.ok a) (.ok b)
  | error {fault other : FormatError} (same : SameFault fault other) :
      Agree related (.error fault) (.error other)

theorem Agree.bind {α β γ δ : Type} {related : α → β → Prop} {next : γ → δ → Prop}
    {first : Except FormatError α} {second : Except FormatError β}
    {continued : α → Except FormatError γ} {otherContinued : β → Except FormatError δ}
    (agree : Agree related first second)
    (each : ∀ a b, related a b → Agree next (continued a) (otherContinued b)) :
    Agree next (first >>= continued) (second >>= otherContinued) := by
  cases agree with
  | ok same => exact each _ _ same
  | error same => exact .error same

section agree

variable {α β : Type} {related : α → β → Prop} {second : Except FormatError β}

theorem Agree.of_ok {a : α} (agree : Agree related (.ok a) second) :
    ∃ b, second = .ok b ∧ related a b := by
  cases agree with
  | ok same => exact ⟨_, rfl, same⟩

theorem Agree.of_error {fault : FormatError} (agree : Agree related (.error fault) second) :
    ∃ other, second = .error other ∧ SameFault fault other := by
  cases agree with
  | error same => exact ⟨_, rfl, same⟩

end agree

section readers

variable {start other : Bytes} {size otherSize : Nat}

theorem expect_agree {α : Type} {read : Bytes → Option (α × Bytes)} (part : Part)
    (same : Option.Rel InStep (read start) (read other)) :
    Agree InStep (Section.expect size part read start)
      (Section.expect otherSize part read other) := by
  rw [Section.expect, Section.expect]
  generalize read start = first, read other = second at same
  cases same with
  | none => exact .error .expected
  | some same => exact .ok same

theorem announced_agree {mark : Bytes} (part : Part)
    (solid : mark.all (!Token.isBlank ·) = true) (respaced : Respaced start other) :
    Agree InStep (Section.announced size mark part start)
      (Section.announced otherSize mark part other) := by
  have marked := mark?_inStep solid respaced
  rw [Section.announced, Section.announced]
  generalize Token.mark? mark start = first, Token.mark? mark other = second at marked
  cases marked with
  | none => exact .ok ⟨rfl, respaced⟩
  | some marked =>
    refine (expect_agree part (number?_inStep marked)).bind ?_
    intro a b same
    exact .ok ⟨congrArg some same.value, same.rest⟩

theorem separator?_inStep (respaced : Respaced start other) :
    Option.Rel InStep (Section.separator? start) (Section.separator? other) := by
  have marked := mark?_inStep (show Mark.output.all _ = true from rfl) respaced
  rw [Section.separator?, Section.separator?]
  generalize Token.mark? Mark.output start = first, Token.mark? Mark.output other = second at marked
  cases marked with
  | none => exact .none
  | some marked => exact .some ⟨rfl, marked⟩

theorem fileEntry_agree (respaced : Respaced start other) :
    Agree InStep (Section.fileEntry size start) (Section.fileEntry otherSize other) := by
  have marked := mark?_inStep (show Mark.path.all _ = true from rfl) respaced
  rw [Section.fileEntry, Section.fileEntry]
  generalize Token.mark? Mark.path start = first, Token.mark? Mark.path other = second at marked
  cases marked with
  | none =>
    refine (expect_agree .fileId (number?_inStep respaced)).bind ?_
    intro id otherId ids
    refine (expect_agree .fileName (name?_inStep ids.rest)).bind ?_
    intro name otherName names
    exact .ok ⟨by rw [ids.value, names.value], names.rest⟩
  | some marked =>
    refine (expect_agree .fileId (number?_inStep marked)).bind ?_
    intro id otherId ids
    refine (expect_agree .fileName (name?_inStep ids.rest)).bind ?_
    intro name otherName names
    refine (expect_agree .absoluteFileName (name?_inStep names.rest)).bind ?_
    intro path otherPath paths
    exact .ok ⟨by rw [ids.value, names.value, paths.value], paths.rest⟩

theorem lineEntry_agree (respaced : Respaced start other) :
    Agree InStep (Section.lineEntry size start) (Section.lineEntry otherSize other) := by
  refine (expect_agree .inputStartLine (number?_inStep respaced)).bind ?_
  intro input otherInput inputs
  refine (announced_agree .lineFileId rfl inputs.rest).bind ?_
  intro file otherFile files
  refine (announced_agree .repeatCount rfl files.rest).bind ?_
  intro count otherCount counts
  refine (expect_agree .colon (separator?_inStep counts.rest)).bind ?_
  intro colon otherColon colons
  refine (expect_agree .outputStartLine (number?_inStep colons.rest)).bind ?_
  intro output otherOutput outputs
  refine (announced_agree .outputLineIncrement rfl outputs.rest).bind ?_
  intro ⟨width, rest⟩ ⟨otherWidth, otherRest⟩ widths
  cases widths.value
  rw [inputs.value, files.value, counts.value, outputs.value]
  dsimp only
  split
  · exact .ok ⟨rfl, widths.rest⟩
  · exact .error .invalidMapping

theorem Respaced.atEnd (respaced : Respaced start other) :
    Section.atEnd start = Section.atEnd other := by
  have end_of_head (bytes : Bytes) :
      Section.atEnd bytes = bytes.head?.elim true (decide <| · = 0x2A) := by
    cases bytes <;> rfl
  rw [end_of_head, end_of_head]
  rcases respaced.head with same | ⟨byte, otherByte, head, otherHead, blank, otherBlank⟩
  · rw [same]
  · rw [head, otherHead]
    have noStar (byte : UInt8) (blank : Token.isBlank byte = true) : byte ≠ 0x2A := by
      rintro rfl
      cases blank
    simp [noStar byte blank, noStar otherByte otherBlank]

theorem entryStep_agree {α : Type} {entry otherEntry : Bytes → Except FormatError (α × Bytes)}
    (agree : ∀ {start other}, Respaced start other → Agree InStep (entry start) (otherEntry other))
    (respaced : Respaced start other) :
    Agree InStep (Section.entryStep entry start) (Section.entryStep otherEntry other) := by
  rw [Section.entryStep, Section.entryStep, respaced.atEnd]
  split
  · exact .ok ⟨rfl, respaced⟩
  · refine (agree respaced).bind ?_
    intro a b same
    exact .ok ⟨congrArg some same.value, same.rest⟩

theorem fileEntry_steps (respaced : Respaced start other) :
    Agree InStep (Section.entryStep (Section.fileEntry size) start)
      (Section.entryStep (Section.fileEntry otherSize) other) :=
  entryStep_agree fileEntry_agree respaced

theorem lineEntry_steps (respaced : Respaced start other) :
    Agree InStep (Section.entryStep (Section.lineEntry size) start)
      (Section.entryStep (Section.lineEntry otherSize) other) :=
  entryStep_agree lineEntry_agree respaced

/-- Two runs of steps that agree read the same items, and end alike. -/
theorem many_agree {α : Type} {step otherStep : Reading.Step FormatError α}
    {shrinks : Reading.Shrinks step} {otherShrinks : Reading.Shrinks otherStep}
    (agree : ∀ {start other}, Respaced start other → Agree InStep (step start) (otherStep other))
    (respaced : Respaced start other) :
    (Reading.many step shrinks start).items = (Reading.many otherStep otherShrinks other).items ∧
      Agree Respaced (Reading.many step shrinks start).ending
        (Reading.many otherStep otherShrinks other).ending := by
  revert other respaced
  refine Reading.many_induction (motive := fun start run => ∀ {other}, Respaced start other →
    run.items = (Reading.many otherStep otherShrinks other).items ∧
      Agree Respaced run.ending (Reading.many otherStep otherShrinks other).ending) ?_ ?_ ?_ start
  · intro start a rest read ih other respaced
    obtain ⟨⟨found, otherRest⟩, otherRead, ⟨same, later⟩⟩ := (read ▸ agree respaced).of_ok
    cases same
    obtain ⟨items, ending⟩ := ih later
    rw [Reading.many_item otherRead]
    exact ⟨congrArg (a :: ·) items, ending⟩
  · intro start rest read other respaced
    obtain ⟨⟨found, otherRest⟩, otherRead, ⟨same, later⟩⟩ := (read ▸ agree respaced).of_ok
    cases same
    rw [Reading.many_stop otherRead]
    exact ⟨rfl, .ok later⟩
  · intro start fault read other respaced
    obtain ⟨otherFault, otherRead, same⟩ := (read ▸ agree respaced).of_error
    rw [Reading.many_fail otherRead]
    exact ⟨rfl, .error same⟩

theorem all_agree {α : Type} {step otherStep : Reading.Step FormatError α}
    {shrinks : Reading.Shrinks step} {otherShrinks : Reading.Shrinks otherStep}
    (agree : ∀ {start other}, Respaced start other → Agree InStep (step start) (otherStep other))
    (respaced : Respaced start other) :
    Agree InStep (Reading.many step shrinks start).all
      (Reading.many otherStep otherShrinks other).all := by
  obtain ⟨items, ending⟩ := @many_agree _ _ _ _ _ shrinks otherShrinks agree respaced
  rw [Reading.Run.all, Reading.Run.all, items]
  generalize (Reading.many step shrinks start).ending = first,
    (Reading.many otherStep otherShrinks other).ending = second at ending
  cases ending with
  | ok same => exact .ok ⟨rfl, same⟩
  | error same => exact .error same

/-- The letter after a star, where a blank stands for no letter. -/
theorem Respaced.letter (respaced : Respaced start other) :
    let letter := start.head?.elim ' ' fun byte => Char.ofNat byte.toNat
    let otherLetter := other.head?.elim ' ' fun byte => Char.ofNat byte.toNat
    letter = otherLetter ∨ IsBlankLetter letter ∧ IsBlankLetter otherLetter := by
  have blankLetter (byte : UInt8) (blank : Token.isBlank byte = true) :
      IsBlankLetter (Char.ofNat byte.toNat) := by
    rcases Utf8.blank_iff.mp blank with value | value | value
    · exact Or.inl (congrArg Char.ofNat value)
    · exact Or.inr (Or.inl (congrArg Char.ofNat value))
    · exact Or.inr (Or.inr (congrArg Char.ofNat value))
  rcases respaced.head with same | ⟨byte, otherByte, head, otherHead, blank, otherBlank⟩
  · exact Or.inl (by rw [same])
  · rw [head, otherHead]
    exact Or.inr ⟨blankLetter byte blank, blankLetter otherByte otherBlank⟩

theorem sectionStep_agree (name : String) (respaced : Respaced start other) :
    Agree InStep (Section.step size name start) (Section.step otherSize name other) := by
  have files := mark?_inStep (show Mark.files.all _ = true from rfl) respaced
  have lines := mark?_inStep (show Mark.lines.all _ = true from rfl) respaced
  have stratum := respaced.mark_iff (show Mark.stratum.all _ = true from rfl)
  have trailer := respaced.mark_iff (show Mark.trailer.all _ = true from rfl)
  unfold Section.step
  generalize Token.mark? Mark.files start = first, Token.mark? Mark.files other = second at files
  generalize Token.mark? Mark.lines start = third, Token.mark? Mark.lines other = fourth at lines
  cases files with
  | some marked =>
    refine (all_agree fileEntry_steps marked).bind ?_
    intro entries otherEntries same
    exact .ok ⟨congrArg (some <| Section.files ·) same.value, same.rest⟩
  | none =>
    cases lines with
    | some marked =>
      refine (all_agree lineEntry_steps marked).bind ?_
      intro entries otherEntries same
      exact .ok ⟨congrArg (some <| Section.lines ·) same.value, same.rest⟩
    | none =>
      dsimp only
      by_cases bounded : Mark.stratum <+: start ∨ Mark.trailer <+: start
      · rw [if_pos bounded, if_pos (by rwa [← stratum, ← trailer])]
        exact .ok ⟨rfl, respaced⟩
      · rw [if_neg bounded, if_neg (by rwa [← stratum, ← trailer])]
        split
        · next after =>
          obtain ⟨otherAfter, rfl, later⟩ := respaced.of_solid rfl rfl
          exact .error (.unsupportedSection later.letter)
        · next starless =>
          split
          · next otherAfter =>
            obtain ⟨after, rfl, -⟩ := respaced.symm.of_solid rfl rfl
            exact absurd rfl (starless after)
          · exact .ok ⟨rfl, respaced⟩

theorem stratumRead_agree (respaced : Respaced start other) :
    Agree InStep (Stratum.read size start) (Stratum.read otherSize other) := by
  refine (expect_agree .stratumName (name?_inStep respaced)).bind ?_
  intro ⟨name, rest⟩ ⟨otherName, otherRest⟩ names
  cases names.value
  refine (all_agree (sectionStep_agree name) names.rest).bind ?_
  intro ⟨sections, rest⟩ ⟨otherSections, otherRest⟩ same
  cases same.value
  dsimp only
  split
  · exact .error .unknownFileId
  · exact .ok ⟨rfl, same.rest⟩

theorem step_agree (respaced : Respaced start other) :
    Agree InStep (SourceMap.step size start) (SourceMap.step otherSize other) := by
  have stratum := mark?_inStep (show Mark.stratum.all _ = true from rfl) respaced
  have trailer := mark?_inStep (show Mark.trailer.all _ = true from rfl) respaced
  rw [SourceMap.step, SourceMap.step]
  generalize Token.mark? Mark.stratum start = first,
    Token.mark? Mark.stratum other = second at stratum
  generalize Token.mark? Mark.trailer start = third,
    Token.mark? Mark.trailer other = fourth at trailer
  cases stratum with
  | some marked =>
    refine (stratumRead_agree marked).bind ?_
    intro ⟨⟨name, found⟩, rest⟩ ⟨⟨otherName, otherFound⟩, otherRest⟩ same
    cases same.value
    exact .ok ⟨rfl, same.rest⟩
  | none =>
    cases trailer with
    | @some rest otherRest marked =>
      have continues := marked.mark_iff (show Mark.stratum.all _ = true from rfl)
      dsimp only
      by_cases going : Mark.stratum <+: rest
      · rw [if_pos going, if_pos (continues.mp going)]
        exact .ok ⟨rfl, marked⟩
      · rw [if_neg going, if_neg (mt continues.mpr going)]
        exact .ok ⟨rfl, marked⟩
    | none =>
      dsimp only
      by_cases ended : start = []
      · rw [if_pos ended, if_pos (respaced.eq_nil_iff.mp ended)]
        exact .error .missingTrailer
      · rw [if_neg ended, if_neg (mt respaced.eq_nil_iff.mpr ended)]
        exact .error .expected

theorem header_inStep (respaced : Respaced start other) :
    InStep (SourceMap.header start) (SourceMap.header other) := by
  have names := name?_inStep respaced.skipBlanks
  rw [SourceMap.header, SourceMap.header]
  generalize Token.name? (Token.skipBlanks start) = first,
    Token.name? (Token.skipBlanks other) = second at names
  cases names with
  | none => exact ⟨rfl, .nil⟩
  | some names => exact names

theorem finish_agree {file default : String} {run otherRun : Reading.Run FormatError SourceMap.Item}
    (items : run.items = otherRun.items) (ending : Agree Respaced run.ending otherRun.ending) :
    Agree Eq (SourceMap.Draft.ofRun file default run).finish
      (SourceMap.Draft.ofRun file default otherRun).finish := by
  simp only [SourceMap.Draft.finish, SourceMap.Draft.ofRun, items]
  cases (SourceMap.untilTaken [] (otherRun.items.filterMap (·.stratum?))).2 with
  | some name => exact .error .duplicateStratum
  | none =>
    generalize run.ending = first, otherRun.ending = second at ending
    cases ending with
    | ok same => exact .ok rfl
    | error same => exact .error same

theorem parse_agree (respaced : Respaced start other) :
    Agree Eq (SourceMap.parse start) (SourceMap.parse other) := by
  have headers := header_inStep respaced
  refine @Agree.bind _ _ _ _ (fun draft otherDraft => Agree Eq draft.finish otherDraft.finish)
    _ _ _ _ _ ?_ fun _ _ same => same
  unfold SourceMap.readDraft
  generalize SourceMap.header start = first, SourceMap.header other = second at headers
  obtain ⟨header, rest⟩ := first
  obtain ⟨otherHeader, otherRest⟩ := second
  cases headers.value
  dsimp only
  split
  · exact .error .badHeader
  · refine (expect_agree .generatedFile (name?_inStep headers.rest)).bind ?_
    intro ⟨file, rest⟩ ⟨otherFile, otherRest⟩ files
    cases files.value
    refine (expect_agree .defaultStratum (name?_inStep files.rest)).bind ?_
    intro ⟨default, rest⟩ ⟨otherDefault, otherRest⟩ defaults
    cases defaults.value
    obtain ⟨items, ending⟩ := many_agree step_agree defaults.rest
    exact .ok (finish_agree items ending)

end readers

/-- Blanks between the parts of a text only separate. If every run of blanks is replaced by another
one, the text stands for the same map, or it has the same thing wrong in another place. -/
theorem parse_respaced (payload other : Bytes) (respaced : Respaced payload other) :
    (∀ map, SourceMap.parse payload = .ok map ↔ SourceMap.parse other = .ok map) ∧
      ∀ fault, SourceMap.parse payload = .error fault →
        ∃ otherFault, SourceMap.parse other = .error otherFault ∧ SameFault fault otherFault := by
  have agree := parse_agree respaced
  cases read : SourceMap.parse payload with
  | ok map =>
    obtain ⟨otherMap, otherRead, rfl⟩ := (read ▸ agree).of_ok
    rw [otherRead]
    exact ⟨fun _ => Iff.rfl, nofun⟩
  | error fault =>
    obtain ⟨otherFault, otherRead, same⟩ := (read ▸ agree).of_error
    rw [otherRead]
    refine ⟨fun _ => ⟨nofun, nofun⟩, ?_⟩
    intro _ reported
    cases reported
    exact ⟨otherFault, rfl, same⟩

/-- One text on a line and on three lines, and one whose section has a blank for its letter. -/
theorem parse_respaced_lines :
    Respaced (Utf8.encode "SMAP a K *S K *F 1 b *L 1#1:2 *E")
      (Utf8.encode "SMAP\r\na\r\nK\n*S K *F\n1 b\n*L\n1#1:2\n\n*E") ∧
    (∃ map, SourceMap.parse (Utf8.encode "SMAP a K *S K *F 1 b *L 1#1:2 *E") = .ok map ∧
      SourceMap.parse (Utf8.encode "SMAP\r\na\r\nK\n*S K *F\n1 b\n*L\n1#1:2\n\n*E") = .ok map) ∧
    Respaced (Utf8.encode "SMAP a K *S K *  ") (Utf8.encode "SMAP a K *S K *\n") ∧
    ∃ fault, SourceMap.parse (Utf8.encode "SMAP a K *S K *\n") = .error fault ∧
      SameFault (.unsupportedSection "K" ' ') fault := by
  have lines : Respaced (Utf8.encode "SMAP a K *S K *F 1 b *L 1#1:2 *E")
      (Utf8.encode "SMAP\r\na\r\nK\n*S K *F\n1 b\n*L\n1#1:2\n\n*E") := by
    rw [respaced_iff_squeeze]
    decide +kernel
  have letter : Respaced (Utf8.encode "SMAP a K *S K *  ")
      (Utf8.encode "SMAP a K *S K *\n") := by
    rw [respaced_iff_squeeze]
    decide +kernel
  have read : SourceMap.parse (Utf8.encode "SMAP a K *S K *F 1 b *L 1#1:2 *E") =
      .ok ⟨"a", "K", .ofList [("K", Stratum.mk (.ofList [((1 : UInt32), SourceFile.mk "b" none)])
        [⟨1, 1, 2, 1, 1⟩])]⟩ := by
    cbv
  have failed : SourceMap.parse (Utf8.encode "SMAP a K *S K *  ") =
      .error (.unsupportedSection "K" ' ') := by
    cbv
  exact ⟨lines, ⟨_, read, ((parse_respaced _ _ lines).1 _).mp read⟩, letter,
    (parse_respaced _ _ letter).2 _ failed⟩

end DebugTables.Grammar
