import Mathlib
import DebugTables.Proofs.SourceMap.Entries
import DebugTables.Proofs.Text.Numeral
import DebugTables.Proofs.Text.Utf8
import DebugTables.SourceMap.Printer

/-! The printed entries of a source map are entries of the format. A printed part is followed by
bytes that end it: a blank after a word, a blank or a mark after a number. So each proof goes from
the last part to the first, and hands on what the part after it starts with. -/

namespace DebugTables.Grammar

/-- Bytes that end a gap before them. -/
def Solid (rest : Bytes) : Prop :=
  ∀ byte ∈ rest.head?, Token.isBlank byte = false

theorem gap_nil {rest : Bytes} (solid : Solid rest) : Gap [] rest :=
  ⟨by simp, solid⟩

theorem gap_singleton (byte : UInt8) {rest : Bytes} (blank : Token.isBlank byte = true)
    (solid : Solid rest) : Gap [byte] rest :=
  ⟨by simpa using blank, solid⟩

theorem marked_solid (mark : Bytes) {rest : Bytes} (solid : Solid rest) :
    Marked mark (mark ++ rest) rest :=
  @Marked.mk mark [] rest (gap_nil solid)

theorem marked_blank (mark : Bytes) (byte : UInt8) {rest : Bytes}
    (blank : Token.isBlank byte = true) (solid : Solid rest) :
    Marked mark (mark ++ ([byte] ++ rest)) rest :=
  .mk (gap_singleton byte blank solid)

theorem Word.solid {start word rest : Bytes} (text : Word start word rest) : Solid start := by
  rcases text.head with ⟨byte, head, inside⟩
  intro other same
  rw [head] at same
  cases same
  simpa using inside

theorem solid_of_isDigit {byte : UInt8} (digit : Token.isDigit byte = true) :
    Token.isBlank byte = false := by
  rw [Bool.eq_false_iff]
  intro blank
  simp only [Token.isDigit, UInt8.le_iff_toNat_le, Bool.and_eq_true, decide_eq_true_eq] at digit
  have lower : 48 ≤ byte.toNat := digit.1
  rcases Utf8.blank_iff.mp blank with value | value | value <;> omega

theorem Number.solid {start rest : Bytes} {value : UInt32} (text : Number start value rest) :
    Solid start := by
  rcases text.head with ⟨byte, head, digit⟩
  intro other same
  rw [head] at same
  cases same
  exact solid_of_isDigit digit

theorem FileText.solid {start rest : Bytes} {entry : FileEntry}
    (text : FileText start entry rest) : Solid start := by
  cases text with
  | plain number named => exact number.solid
  | located marked number named placed =>
    intro byte head
    rw [head_of_prefix_singleton marked.starts] at head
    cases head
    rfl

theorem LineText.solid {start rest : Bytes} {entry : LineEntry}
    (text : LineText start entry rest) : Solid start := by
  cases text with
  | mk input file count colon output width repeats widens fits => exact input.solid

theorem number_decimal {value : UInt32} {gap rest : Bytes} (separated : Gap gap rest)
    (ends : ∀ byte ∈ (gap ++ rest).head?, Token.isDigit byte = false) :
    Number (Utf8.encode (Numeral.decimal value.toNat) ++ (gap ++ rest)) value rest :=
  ⟨_, .mk (Numeral.encode_decimal_ne_nil _)
    (fun _ member => Numeral.isDigit_of_mem_encode_decimal member) ends separated,
    Numeral.digitsValue_encode_decimal _⟩

/-- A word and one blank after it. -/
theorem word_encode {text : String} (word : IsWord text) (byte : UInt8) {rest : Bytes}
    (blank : Token.isBlank byte = true) (solid : Solid rest) :
    Word (Utf8.encode text ++ ([byte] ++ rest)) (Utf8.encode text) rest := by
  have written := Utf8.solid_encode word
  refine @Run.mk _ _ [byte] _ written.1 (fun byte member => ?_) ?_ (gap_singleton byte blank solid)
  · rw [written.2 byte member]
    rfl
  · intro other head
    cases head
    rw [blank]
    rfl

/-- The number after a mark, or nothing for one. -/
def written (value : UInt32) : Option UInt32 :=
  if value = 1 then none else some value

theorem written_getD (value : UInt32) : (written value).getD 1 = value := by
  unfold written
  split <;> simp_all

/-- A numeral and one blank after it. -/
theorem number_blank (value : UInt32) (byte : UInt8) {rest : Bytes}
    (blank : Token.isBlank byte = true) (solid : Solid rest) :
    Number (Utf8.encode (Numeral.decimal value.toNat) ++ ([byte] ++ rest)) value rest := by
  refine number_decimal (gap_singleton byte blank solid) ?_
  intro other head
  cases head
  rw [Bool.eq_false_iff]
  intro digit
  rw [solid_of_isDigit digit] at blank
  cases blank

/-- Bytes that end a numeral before them. -/
def Symbol (rest : Bytes) : Prop :=
  ∀ byte ∈ rest.head?, Token.isBlank byte = false ∧ Token.isDigit byte = false

theorem Marked.symbol {byte : UInt8} {start rest : Bytes} (text : Marked [byte] start rest)
    (blank : Token.isBlank byte = false) (digit : Token.isDigit byte = false) : Symbol start := by
  intro other head
  rw [head_of_prefix_singleton text.starts] at head
  cases head
  exact ⟨blank, digit⟩

theorem number_symbol (value : UInt32) {rest : Bytes} (symbol : Symbol rest) :
    Number (Utf8.encode (Numeral.decimal value.toNat) ++ rest) value rest :=
  @number_decimal value [] rest (gap_nil fun byte head => (symbol byte head).1)
    fun byte head => (symbol byte head).2

theorem fileText_encode {file : SourceFile} {id : UInt32} {rest : Bytes}
    (formed : file.WellFormed) (solid : Solid rest) :
    FileText (Utf8.encode (file.text id) ++ rest) ⟨id, file⟩ rest := by
  have space : Utf8.encode " " = [0x20] := by decide
  have feed : Utf8.encode "\n" = [0x0A] := by decide
  have plus : Utf8.encode "+ " = Mark.path ++ [0x20] := by decide
  rcases file with ⟨name, path⟩
  rcases formed with ⟨word, placedWord⟩
  cases path with
  | none =>
    have named := word_encode word 0x0A rfl solid
    have number := number_blank id 0x20 rfl named.solid
    have text := FileText.plain number named
    rw [Utf8.decode_encode] at text
    simpa only [SourceFile.text, Utf8.encode_append, space, feed, List.append_assoc] using text
  | some path =>
    have placed := word_encode (placedWord path rfl) 0x0A rfl solid
    have named := word_encode word 0x0A rfl placed.solid
    have number := number_blank id 0x20 rfl named.solid
    have text := FileText.located (marked_blank Mark.path 0x20 rfl number.solid) number named placed
    rw [Utf8.decode_encode, Utf8.decode_encode] at text
    simpa only [SourceFile.text, Utf8.encode_append, space, feed, plus, List.append_assoc]
      using text

/-- The entry that is printed for a mapping. -/
def printedEntry (mapping : LineMapping) : LineEntry :=
  ⟨mapping.inputStart, some mapping.fileId, mapping.repeatCount, mapping.outputStart,
    mapping.increment⟩

theorem optional_encode (value : UInt32) {rest : Bytes} (symbol : Symbol rest) :
    Optional Mark.count (Utf8.encode (optionalPart "," 1 value) ++ rest) (written value) rest ∧
      Symbol (Utf8.encode (optionalPart "," 1 value) ++ rest) := by
  have comma : Utf8.encode "," = Mark.count := by decide
  rw [optionalPart, written]
  split
  · exact ⟨.absent, symbol⟩
  · rw [Utf8.encode_append, comma, List.append_assoc]
    have number := number_symbol value symbol
    have marked := marked_solid Mark.count number.solid
    exact ⟨.present marked number, marked.symbol rfl rfl⟩

/-- The last number of a line may be left out, and then the line ends with the one before it. -/
theorem output_encode (output increment : UInt32) {rest : Bytes} (solid : Solid rest) :
    ∃ afterOutput, Number (Utf8.encode (Numeral.decimal output.toNat) ++
        (Utf8.encode (optionalPart "," 1 increment) ++ ([0x0A] ++ rest))) output afterOutput ∧
      Optional Mark.count afterOutput (written increment) rest := by
  have comma : Utf8.encode "," = Mark.count := by decide
  rw [optionalPart, written]
  split
  · exact ⟨rest, number_blank output 0x0A rfl solid, .absent⟩
  · rw [Utf8.encode_append, comma, List.append_assoc]
    have number := number_blank increment 0x0A rfl solid
    have marked := marked_solid Mark.count number.solid
    exact ⟨_, number_symbol output (marked.symbol rfl rfl), .present marked number⟩

theorem lineText_encode {mapping : LineMapping} {rest : Bytes} (proper : mapping.Proper)
    (solid : Solid rest) :
    LineText (Utf8.encode (mapping.text ++ "\n") ++ rest) (printedEntry mapping) rest := by
  have feed : Utf8.encode "\n" = [0x0A] := by decide
  have hash : Utf8.encode "#" = Mark.fileId := by decide
  have colon : Utf8.encode ":" = Mark.output := by decide
  rcases proper_iff.mp proper with ⟨repeats, widens, fits⟩
  rw [← written_getD mapping.repeatCount] at repeats fits
  rw [← written_getD mapping.increment] at widens
  rcases output_encode mapping.outputStart mapping.increment solid with ⟨afterOutput, output, width⟩
  have marked := marked_solid Mark.output output.solid
  rcases optional_encode mapping.repeatCount (marked.symbol rfl rfl) with ⟨count, symbol⟩
  have file := number_symbol mapping.fileId symbol
  have announced := marked_solid Mark.fileId file.solid
  have input := number_symbol mapping.inputStart (announced.symbol rfl rfl)
  have text := LineText.mk input (.present announced file) count marked output width repeats widens
    fits
  rw [written_getD, written_getD] at text
  simpa only [LineMapping.text, printedEntry, Utf8.encode_append, feed, hash, colon,
    List.append_assoc] using text

end DebugTables.Grammar
