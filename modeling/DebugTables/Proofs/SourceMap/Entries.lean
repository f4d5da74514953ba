import Mathlib
import DebugTables.Proofs.SourceMap.Lexemes

/-! Entries of a section are read as the format has them. A number after a mark is optional, and the
reader takes it wherever the mark stands; so the one entry that ends with such a number is read as
it is written only if nothing follows that would extend it. Within a section nothing does. -/

namespace DebugTables.Grammar
open Reading (Row)

theorem expect_number_iff {size : Nat} {part : Part} {start rest : Bytes} {value : UInt32} :
    Section.expect size part Token.number? start = .ok (value, rest) ↔ Number start value rest :=
  Section.expect_eq_ok_iff.trans number?_eq_some_iff

theorem expect_name_iff {size : Nat} {part : Part} {start rest : Bytes} {name : String} :
    Section.expect size part Token.name? start = .ok (name, rest) ↔
      ∃ word, Word start word rest ∧ Utf8.decode word = name :=
  Section.expect_eq_ok_iff.trans name?_eq_some_iff

theorem expect_separator_iff {size : Nat} {part : Part} {start rest : Bytes} :
    Section.expect size part Section.separator? start = .ok ((), rest) ↔
      Marked Mark.output start rest := by
  rw [Section.expect_eq_ok_iff, Section.separator?, Option.map_eq_some_iff]
  simp [mark?_eq_some_iff]

/-- A number is read where its mark stands, and left out where the mark stands nowhere near. -/
theorem announced_eq_ok {size : Nat} {mark start rest : Bytes} {part : Part}
    {value : Option UInt32} (text : Optional mark start value rest) (ends : ¬mark <+: rest) :
    Section.announced size mark part start = .ok (value, rest) := by
  cases text with
  | absent => rw [Section.announced, mark?_eq_none_iff.mpr ends]
  | present marked number =>
    rw [Section.announced, mark?_eq_some_iff.mpr marked]
    exact Reading.bind_eq_ok_iff.mpr ⟨_, expect_number_iff.mpr number, rfl⟩

theorem optional_of_announced {size : Nat} {mark start rest : Bytes} {part : Part}
    {value : Option UInt32} (read : Section.announced size mark part start = .ok (value, rest)) :
    Optional mark start value rest := by
  unfold Section.announced at read
  split at read
  · cases read
    exact .absent
  · next marked =>
    obtain ⟨⟨number, after⟩, found, same⟩ := Reading.bind_eq_ok_iff.mp read
    cases same
    exact .present (mark?_eq_some_iff.mp marked) (expect_number_iff.mp found)

theorem fileEntry_eq_ok_iff {size : Nat} {start rest : Bytes} {entry : FileEntry} :
    Section.fileEntry size start = .ok (entry, rest) ↔ FileText start entry rest := by
  refine ⟨?_, ?_⟩
  · intro read
    unfold Section.fileEntry at read
    split at read
    · obtain ⟨⟨id, afterId⟩, foundId, read⟩ := Reading.bind_eq_ok_iff.mp read
      obtain ⟨⟨name, after⟩, foundName, same⟩ := Reading.bind_eq_ok_iff.mp read
      obtain ⟨word, named, rfl⟩ := expect_name_iff.mp foundName
      cases same
      exact .plain (expect_number_iff.mp foundId) named
    · next marked =>
      obtain ⟨⟨id, afterId⟩, foundId, read⟩ := Reading.bind_eq_ok_iff.mp read
      obtain ⟨⟨name, afterName⟩, foundName, read⟩ := Reading.bind_eq_ok_iff.mp read
      obtain ⟨⟨path, after⟩, foundPath, same⟩ := Reading.bind_eq_ok_iff.mp read
      obtain ⟨nameWord, named, rfl⟩ := expect_name_iff.mp foundName
      obtain ⟨pathWord, placed, rfl⟩ := expect_name_iff.mp foundPath
      cases same
      exact .located (mark?_eq_some_iff.mp marked) (expect_number_iff.mp foundId) named placed
  · intro text
    cases text with
    | plain number named =>
      have unmarked : ¬Mark.path <+: start := number.excludes (by decide)
      rw [Section.fileEntry, mark?_eq_none_iff.mpr unmarked]
      refine Reading.bind_eq_ok_iff.mpr ⟨_, expect_number_iff.mpr number, ?_⟩
      exact Reading.bind_eq_ok_iff.mpr ⟨_, expect_name_iff.mpr ⟨_, named, rfl⟩, rfl⟩
    | located marked number named placed =>
      rw [Section.fileEntry, mark?_eq_some_iff.mpr marked]
      refine Reading.bind_eq_ok_iff.mpr ⟨_, expect_number_iff.mpr number, ?_⟩
      refine Reading.bind_eq_ok_iff.mpr ⟨_, expect_name_iff.mpr ⟨_, named, rfl⟩, ?_⟩
      exact Reading.bind_eq_ok_iff.mpr ⟨_, expect_name_iff.mpr ⟨_, placed, rfl⟩, rfl⟩

theorem proper_iff {mapping : LineMapping} : mapping.Proper ↔
    1 ≤ mapping.repeatCount.toNat ∧ 1 ≤ mapping.increment.toNat ∧
      mapping.inputStart.toNat + mapping.repeatCount.toNat - 1 < 0x100000000 := by
  simp only [LineMapping.Proper, ne_eq, ← UInt32.toNat_inj, UInt32.toNat_zero]
  omega

theorem lineText_of_lineEntry {size : Nat} {start rest : Bytes} {entry : LineEntry}
    (read : Section.lineEntry size start = .ok (entry, rest)) : LineText start entry rest := by
  obtain ⟨⟨inputStart, afterInput⟩, foundInput, read⟩ := Reading.bind_eq_ok_iff.mp read
  obtain ⟨⟨fileId, afterFile⟩, foundFile, read⟩ := Reading.bind_eq_ok_iff.mp read
  obtain ⟨⟨repeats, afterRepeat⟩, foundRepeat, read⟩ := Reading.bind_eq_ok_iff.mp read
  obtain ⟨⟨_, afterColon⟩, foundColon, read⟩ := Reading.bind_eq_ok_iff.mp read
  obtain ⟨⟨outputStart, afterOutput⟩, foundOutput, read⟩ := Reading.bind_eq_ok_iff.mp read
  obtain ⟨⟨increment, afterIncrement⟩, foundIncrement, read⟩ := Reading.bind_eq_ok_iff.mp read
  dsimp only at read
  split at read
  · next proper =>
    obtain ⟨repeated, widened, fits⟩ := proper_iff.mp proper
    cases read
    exact .mk (expect_number_iff.mp foundInput) (optional_of_announced foundFile)
      (optional_of_announced foundRepeat) (expect_separator_iff.mp foundColon)
      (expect_number_iff.mp foundOutput) (optional_of_announced foundIncrement) repeated
      widened fits
  · cases read

/-- A line entry is read as it is written unless a `,` follows that it could go on with. -/
theorem lineEntry_eq_ok {size : Nat} {start rest : Bytes} {entry : LineEntry}
    (text : LineText start entry rest) (ends : ¬Mark.count <+: rest) :
    Section.lineEntry size start = .ok (entry, rest) := by
  cases text with
  | mk input file count colon output width repeats widens fits =>
    have noCount := colon.excludes (show (0x3A : UInt8) ≠ 0x2C by decide)
    have noId := count.excludes (show (0x2C : UInt8) ≠ 0x23 by decide)
      (colon.excludes (by decide))
    refine Reading.bind_eq_ok_iff.mpr ⟨_, expect_number_iff.mpr input, ?_⟩
    refine Reading.bind_eq_ok_iff.mpr ⟨_, announced_eq_ok file noId, ?_⟩
    refine Reading.bind_eq_ok_iff.mpr ⟨_, announced_eq_ok count noCount, ?_⟩
    refine Reading.bind_eq_ok_iff.mpr ⟨_, expect_separator_iff.mpr colon, ?_⟩
    refine Reading.bind_eq_ok_iff.mpr ⟨_, expect_number_iff.mpr output, ?_⟩
    refine Reading.bind_eq_ok_iff.mpr ⟨_, announced_eq_ok width ends, ?_⟩
    exact if_pos (proper_iff.mpr ⟨repeats, widens, fits⟩)

theorem atEnd_iff {start : Bytes} : Section.atEnd start = true ↔ Closed start := by
  cases start <;> simp [Section.atEnd, Closed]

theorem Closed.excludes_count {rest : Bytes} (closed : Closed rest) : ¬Mark.count <+: rest := by
  intro starts
  have := closed _ (head_of_prefix_singleton starts)
  cases this

section entries

variable {α : Type} {entry : Bytes → Except FormatError (α × Bytes)} {start rest : Bytes}

theorem entryStep_item_iff {a : α} : Section.entryStep entry start = .ok (some a, rest) ↔
    ¬Closed start ∧ entry start = .ok (a, rest) := by
  rw [← atEnd_iff, Section.entryStep]
  split
  · next ended => simp [ended]
  · next going =>
    rw [Reading.bind_eq_ok_iff]
    refine ⟨?_, ?_⟩
    · intro parts
      rcases parts with ⟨⟨value, after⟩, found, same⟩
      cases same
      exact ⟨going, found⟩
    · intro parts
      rcases parts with ⟨-, found⟩
      exact ⟨_, found, rfl⟩

theorem entryStep_stop_iff : Section.entryStep entry start = .ok (none, rest) ↔
    Closed start ∧ start = rest := by
  rw [← atEnd_iff, Section.entryStep]
  split
  · next ended => simp [ended]
  · next going =>
    rw [Reading.bind_eq_ok_iff]
    refine ⟨?_, ?_⟩
    · intro parts
      rcases parts with ⟨⟨value, after⟩, found, same⟩
      cases same
    · intro parts
      rcases parts with ⟨ended, -⟩
      exact absurd ended going

/-- Entries are read up to the end of their section, if each is read where no `,` follows. -/
theorem entries_eq_ok_iff {shrinks : Reading.Shrinks (Section.entryStep entry)}
    {item : Bytes → α → Bytes → Prop} {items : List α}
    (sound : ∀ {start a rest}, entry start = .ok (a, rest) → item start a rest)
    (complete : ∀ {start a rest}, item start a rest → ¬Mark.count <+: rest →
      entry start = .ok (a, rest))
    (starts : ∀ {start a rest}, item start a rest → ¬Closed start ∧ ¬Mark.count <+: start) :
    (Reading.many (Section.entryStep entry) shrinks start).all = .ok (items, rest) ↔
      Row item start items rest ∧ Closed rest := by
  rw [Reading.many_all_eq_ok_iff]
  refine ⟨?_, ?_⟩
  · intro parts
    rcases parts with ⟨last, row, stop⟩
    obtain ⟨closed, rfl⟩ := entryStep_stop_iff.mp stop
    exact ⟨row.mono fun read => sound (entryStep_item_iff.mp read).2, closed⟩
  · intro parts
    rcases parts with ⟨row, closed⟩
    have steps := row.imp closed.excludes_count (fun text => (starts text).2)
      (fun text ends => entryStep_item_iff.mpr ⟨(starts text).1, complete text ends⟩)
    exact ⟨rest, steps.1, entryStep_stop_iff.mpr ⟨closed, rfl⟩⟩

end entries

theorem not_closed_of_head {start : Bytes} {byte : UInt8} (head : start.head? = some byte)
    (other : byte ≠ 0x2A) : ¬Closed start :=
  fun closed => other (closed byte head)

theorem Number.not_closed {start rest : Bytes} {value : UInt32} (text : Number start value rest) :
    ¬Closed start := by
  obtain ⟨byte, head, digit⟩ := text.head
  refine not_closed_of_head head ?_
  intro same
  subst same
  cases digit

theorem FileText.starts {start rest : Bytes} {entry : FileEntry}
    (text : FileText start entry rest) : ¬Closed start ∧ ¬Mark.count <+: start := by
  cases text with
  | plain number named => exact ⟨number.not_closed, number.excludes (by decide)⟩
  | located marked number named placed =>
    exact ⟨not_closed_of_head (head_of_prefix_singleton marked.starts) (by decide),
      marked.excludes (by decide)⟩

theorem LineText.starts {start rest : Bytes} {entry : LineEntry}
    (text : LineText start entry rest) : ¬Closed start ∧ ¬Mark.count <+: start := by
  cases text with
  | mk input => exact ⟨input.not_closed, input.excludes (by decide)⟩

theorem fileEntries_eq_ok_iff {size : Nat} {start rest : Bytes} {entries : List FileEntry} :
    Section.fileEntries size start = .ok (entries, rest) ↔
      Row FileText start entries rest ∧ Closed rest :=
  entries_eq_ok_iff fileEntry_eq_ok_iff.mp (fun text _ => fileEntry_eq_ok_iff.mpr text)
    FileText.starts

theorem lineEntries_eq_ok_iff {size : Nat} {start rest : Bytes} {entries : List LineEntry} :
    Section.lineEntries size start = .ok (entries, rest) ↔
      Row LineText start entries rest ∧ Closed rest :=
  entries_eq_ok_iff lineText_of_lineEntry lineEntry_eq_ok LineText.starts

end DebugTables.Grammar
