import Mathlib
import DebugTables.Proofs.SourceMap.RoundTrip

/-! Printed maps that are cut off. A part that bytes follow is as long as it can be already, so it
stays the same part when the text goes on. If a shorter text were a map, the whole text would have a
trailer where the shorter one has its last; but the whole text has strata up to its only trailer. -/

namespace DebugTables.Grammar
open Reading (Row)

/-- A part of this kind that bytes follow is not empty, and stands there whatever comes later. -/
def Stays {α : Type} (item : Bytes → α → Bytes → Prop) : Prop :=
  ∀ ⦃start rest : Bytes⦄ ⦃a : α⦄, item start a rest → rest ≠ [] →
    start ≠ [] ∧ ∀ tail, item (start ++ tail) a (rest ++ tail)

section parts

variable {start rest : Bytes}

theorem Gap.longer {gap : Bytes} (separated : Gap gap rest) (follows : rest ≠ []) (tail : Bytes) :
    Gap gap (rest ++ tail) := by
  refine ⟨separated.blank, ?_⟩
  rw [List.head?_append_of_ne_nil rest follows]
  exact separated.longest

theorem Marked.longer {mark : Bytes} (marked : Marked mark start rest) (follows : rest ≠ []) :
    start ≠ [] ∧ ∀ tail, Marked mark (start ++ tail) (rest ++ tail) := by
  obtain ⟨separated⟩ := marked
  refine ⟨by simp [follows], ?_⟩
  intro tail
  rw [List.append_assoc, List.append_assoc]
  exact .mk (separated.longer follows tail)

theorem Closed.longer (closed : Closed rest) (follows : rest ≠ []) (tail : Bytes) :
    Closed (rest ++ tail) := by
  rw [Closed, List.head?_append_of_ne_nil rest follows]
  exact closed

theorem stays_run (inside : UInt8 → Bool) : Stays (Run inside) := by
  intro start rest run text follows
  obtain @⟨_, gap, _, nonempty, within, longest, separated⟩ := text
  refine ⟨by simp [nonempty], ?_⟩
  intro tail
  rw [List.append_assoc, List.append_assoc]
  refine .mk nonempty within ?_ (separated.longer follows tail)
  rwa [← List.append_assoc, List.head?_append_of_ne_nil _ (by simp [follows])]

theorem stays_word : Stays Word :=
  stays_run _

theorem stays_number : Stays Number := by
  intro start rest value text follows
  obtain ⟨digits, run, stands⟩ := text
  obtain ⟨nonempty, run⟩ := stays_run _ run follows
  exact ⟨nonempty, fun tail => ⟨digits, run tail, stands⟩⟩

theorem stays_optional (mark : Bytes) : Stays (Optional mark) := by
  intro start rest value text follows
  cases text with
  | absent => exact ⟨follows, fun tail => .absent⟩
  | present marked number =>
    obtain ⟨afterMark, number⟩ := stays_number number follows
    obtain ⟨nonempty, marked⟩ := marked.longer afterMark
    exact ⟨nonempty, fun tail => .present (marked tail) (number tail)⟩

theorem Stays.row {α : Type} {item : Bytes → α → Bytes → Prop} (stays : Stays item) :
    Stays (Row item) := by
  intro start rest items row follows
  induction row with
  | done => exact ⟨follows, fun tail => .done⟩
  | more first _ ih =>
    obtain ⟨afterFirst, others⟩ := ih follows
    obtain ⟨nonempty, first⟩ := stays first afterFirst
    exact ⟨nonempty, fun tail => .more (first tail) (others tail)⟩

theorem stays_fileText : Stays FileText := by
  intro start rest entry text follows
  cases text with
  | plain number named =>
    obtain ⟨afterId, named⟩ := stays_word named follows
    obtain ⟨nonempty, number⟩ := stays_number number afterId
    exact ⟨nonempty, fun tail => .plain (number tail) (named tail)⟩
  | located marked number named placed =>
    obtain ⟨afterName, placed⟩ := stays_word placed follows
    obtain ⟨afterId, named⟩ := stays_word named afterName
    obtain ⟨afterMark, number⟩ := stays_number number afterId
    obtain ⟨nonempty, marked⟩ := marked.longer afterMark
    exact ⟨nonempty, fun tail => .located (marked tail) (number tail) (named tail) (placed tail)⟩

theorem stays_lineText : Stays LineText := by
  intro start rest entry text follows
  cases text with
  | mk input file count colon output width repeats widens fits =>
    obtain ⟨afterOutput, width⟩ := stays_optional _ width follows
    obtain ⟨afterColon, output⟩ := stays_number output afterOutput
    obtain ⟨afterCount, colon⟩ := colon.longer afterColon
    obtain ⟨afterId, count⟩ := stays_optional _ count afterCount
    obtain ⟨afterInput, file⟩ := stays_optional _ file afterId
    obtain ⟨nonempty, input⟩ := stays_number input afterInput
    exact ⟨nonempty, fun tail => .mk (input tail) (file tail) (count tail) (colon tail)
      (output tail) (width tail) repeats widens fits⟩

theorem stays_sectionText : Stays SectionText := by
  intro start rest part text follows
  cases text with
  | files marked row closed =>
    obtain ⟨afterMark, row⟩ := stays_fileText.row row follows
    obtain ⟨nonempty, marked⟩ := marked.longer afterMark
    exact ⟨nonempty, fun tail => .files (marked tail) (row tail) (closed.longer follows tail)⟩
  | lines marked row closed =>
    obtain ⟨afterMark, row⟩ := stays_lineText.row row follows
    obtain ⟨nonempty, marked⟩ := marked.longer afterMark
    exact ⟨nonempty, fun tail => .lines (marked tail) (row tail) (closed.longer follows tail)⟩

theorem stays_itemText : Stays ItemText := by
  intro start rest item text follows
  cases text with
  | stratum marked text =>
    obtain ⟨named, row, describes⟩ := text
    obtain ⟨afterName, row⟩ := stays_sectionText.row row follows
    obtain ⟨afterMark, named⟩ := stays_word named afterName
    obtain ⟨nonempty, marked⟩ := marked.longer afterMark
    exact ⟨nonempty, fun tail => .stratum (marked tail) (.mk (named tail) (row tail) describes)⟩
  | trailer marked continues =>
    obtain ⟨nonempty, marked⟩ := marked.longer follows
    exact ⟨nonempty, fun tail =>
      .trailer (marked tail) (continues.trans (List.prefix_append rest tail))⟩

theorem BodyText.longer {file default : String} {items : List SourceMap.Item}
    (text : BodyText start file default items rest) (follows : rest ≠ []) (tail : Bytes) :
    BodyText (start ++ tail) file default items (rest ++ tail) := by
  obtain ⟨separated, header, file, default, row⟩ := text
  obtain ⟨afterDefault, row⟩ := stays_itemText.row row follows
  obtain ⟨afterFile, default⟩ := stays_word default afterDefault
  obtain ⟨afterHeader, file⟩ := stays_word file afterFile
  obtain ⟨nonempty, header⟩ := stays_word header afterHeader
  rw [List.append_assoc]
  exact .mk (separated.longer nonempty tail) (header tail) (file tail) (default tail) (row tail)

end parts

theorem Word.unique {start word other rest otherRest : Bytes} (text : Word start word rest)
    (otherText : Word start other otherRest) : word = other ∧ rest = otherRest := by
  have same := (word?_eq_some_iff.mpr text).symm.trans (word?_eq_some_iff.mpr otherText)
  simpa using same

/-- However the body of a text is divided, its items start in one place. -/
theorem BodyText.rows {payload rest otherRest : Bytes}
    {file default otherFile otherDefault : String} {items others : List SourceMap.Item}
    (text : BodyText payload file default items rest)
    (otherText : BodyText payload otherFile otherDefault others otherRest) :
    ∃ start, Row ItemText start items rest ∧ Row ItemText start others otherRest := by
  generalize same : payload = bytes at otherText
  obtain ⟨separated, header, file, default, row⟩ := text
  obtain ⟨otherSeparated, otherHeader, otherFile, otherDefault, otherRow⟩ := otherText
  have opened := header_eq_iff.mpr ⟨_, _, rfl, separated, header⟩
  rw [same, header_eq_iff.mpr ⟨_, _, rfl, otherSeparated, otherHeader⟩] at opened
  cases opened
  obtain ⟨-, rfl⟩ := file.unique otherFile
  obtain ⟨-, rfl⟩ := default.unique otherDefault
  exact ⟨_, row, otherRow⟩

/-- Strata and the trailer that ends them leave no other place for a trailer between items. -/
theorem eq_of_rows {start last otherLast rest : Bytes} {items others : List SourceMap.Item}
    (row : Row ItemText start items last) (strata : .trailer ∉ items)
    (trailer : Marked Mark.trailer last rest) (ends : ¬Mark.stratum <+: rest)
    (otherRow : Row ItemText start others otherLast) (otherTrailer : Mark.trailer <+: otherLast) :
    otherLast = last := by
  -- Where a trailer follows, an item is what the reader takes, so it is the only one there.
  have steps := (row.imp (.inr trailer.starts) ItemText.starts (step_eq_ok 0)).1
  have otherSteps := (otherRow.imp (.inr otherTrailer) ItemText.starts (step_eq_ok 0)).1
  have unique {start rest otherRest : Bytes} {item other : SourceMap.Item}
      (first : SourceMap.step 0 start = .ok (some item, rest))
      (second : SourceMap.step 0 start = .ok (some other, otherRest)) :
      item = other ∧ rest = otherRest := by
    cases first.symm.trans second
    exact ⟨rfl, rfl⟩
  rcases steps.continues otherSteps unique with ⟨more, later, -⟩ | ⟨more, later, rfl⟩
  · cases later with
    | done => rfl
    | more first _ =>
      rw [step_stop_iff.mpr ⟨trailer, ends⟩] at first
      cases first
  · cases later with
    | done => rfl
    | more first _ =>
      cases itemText_of_step first with
      | stratum marked text => cases prefix_unique otherTrailer marked.starts rfl
      | trailer marked continues => simp at strata

/-- No part of what is printed up to the trailer is a text of the format, save the whole. -/
theorem eq_nil_of_mapText {map shorter : SourceMap} (formed : map.WellFormed)
    {start tail : Bytes} (text : MapText start shorter)
    (whole : start ++ tail = printedBody map ++ Mark.trailer) : tail = [] := by
  have marked : Marked Mark.trailer Mark.trailer [] := marked_append Mark.trailer []
  have strata : .trailer ∉ printedItems map := by simp [printedItems]
  obtain ⟨items, trailer, rest, body, otherMarked⟩ := text.body
  obtain ⟨after, rfl⟩ := otherMarked.starts
  have longer := body.longer (List.cons_ne_nil _ _) tail
  rw [whole] at longer
  obtain ⟨first, row, otherRow⟩ := (bodyText_encode formed (marked.closed rfl)).rows longer
  rw [List.append_assoc] at otherRow
  have same := eq_of_rows row strata marked (by decide) otherRow (List.prefix_append _ _)
  rw [List.append_right_eq_self] at same
  exact (List.append_eq_nil_iff.mp same).2

/-- The text of a map that was read is refused wherever it is cut off, up to the line feed at its
end, which it may lack. Anything may follow it that starts no stratum. -/
theorem parse_truncated_text (payload : Bytes) (map : SourceMap)
    (read : SourceMap.parse payload = .ok map) :
    ∃ body, Utf8.encode map.text = body ++ [0x0A] ∧
      (∀ start, start <+: body → start ≠ body → ∃ fault, SourceMap.parse start = .error fault) ∧
      SourceMap.parse body = .ok map ∧
      ∀ tail, ¬Mark.stratum <+: Token.skipBlanks tail →
        SourceMap.parse (Utf8.encode map.text ++ tail) = .ok map := by
  have formed := (mapText_of_parse read).wellFormed
  refine ⟨printedBody map ++ Mark.trailer, ?_, ?_, ?_, ?_⟩
  · rw [encode_text, List.append_assoc]
  · intro start shorter cut
    cases found : SourceMap.parse start with
    | error fault => exact ⟨fault, rfl⟩
    | ok other =>
      obtain ⟨tail, whole⟩ := shorter
      have nothing := eq_nil_of_mapText formed (mapText_of_parse found) whole
      rw [nothing, List.append_nil] at whole
      exact absurd whole cut
  · exact parse_eq_ok (mapText_printedBody formed (marked_append Mark.trailer []) (by decide))
  · intro tail ends
    have marked := marked_append Mark.trailer ([0x0A] ++ tail)
    have text := mapText_printedBody formed marked ends
    rw [encode_text, List.append_assoc, List.append_assoc]
    exact parse_eq_ok text

/-- Names that look like marks, and a letter of two bytes. -/
theorem parse_truncated_text_marks : ∃ map,
    SourceMap.parse (Utf8.encode "SMAP é*E *S *S *S *F 1 *F *L 1#1:12*E") = .ok map ∧
    map.text = "SMAP\né*E\n*S\n*S *S\n*F\n1 *F\n*L\n1#1:12\n*E\n" ∧
    (∀ size < 39, ∃ fault,
      SourceMap.parse ((Utf8.encode map.text).take size) = .error fault) ∧
    SourceMap.parse ((Utf8.encode map.text).take 39) = .ok map ∧
    SourceMap.parse (Utf8.encode map.text ++ Utf8.encode " *E*S") = .ok map := by
  have read : SourceMap.parse (Utf8.encode "SMAP é*E *S *S *S *F 1 *F *L 1#1:12*E") =
      .ok ⟨"é*E", "*S", .ofList [("*S", Stratum.mk
        (.ofList [((1 : UInt32), SourceFile.mk "*F" none)]) [⟨1, 1, 12, 1, 1⟩])]⟩ := by
    cbv
  refine ⟨_, read, ?_⟩
  obtain ⟨body, split, cut, whole, longer⟩ := parse_truncated_text _ _ read
  generalize printed : SourceMap.text _ = text at split longer ⊢
  have same : text = "SMAP\né*E\n*S\n*S *S\n*F\n1 *F\n*L\n1#1:12\n*E\n" := by
    rw [← printed]
    cbv
  have size : body.length + 1 = 40 := by
    have lengths := congrArg List.length split
    rw [List.length_append, same] at lengths
    exact lengths.symm.trans (by decide +kernel)
  refine ⟨same, ?_, ?_, longer _ (by decide)⟩
  · intro shorter bound
    rw [split, List.take_append_of_le_length (by omega)]
    refine cut _ (List.take_prefix shorter body) ?_
    intro equal
    have lengths := congrArg List.length equal
    rw [List.length_take] at lengths
    omega
  · rwa [split, List.take_left' (Nat.succ.inj size)]

end DebugTables.Grammar
