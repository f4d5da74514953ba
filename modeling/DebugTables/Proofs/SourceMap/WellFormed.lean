import Mathlib
import DebugTables.Proofs.SourceMap.Acceptance
import DebugTables.Proofs.Text.Utf8
import DebugTables.SourceMap.WellFormed

/-! Every text of the format stands for a well-formed map. Each part of the text carries its share:
words are words, lines are proper, and sections that describe a stratum declare what it uses. -/

namespace DebugTables.Grammar
open Reading (Row)

theorem Word.isWord {start word rest : Bytes} (text : Word start word rest) :
    IsWord (Utf8.decode word) := by
  obtain ⟨nonempty, within, -, -⟩ := text
  refine Utf8.isWord_decode nonempty fun byte member => ?_
  simpa using within byte member

theorem FileText.wellFormed {start rest : Bytes} {entry : FileEntry}
    (text : FileText start entry rest) : entry.file.WellFormed := by
  cases text with
  | plain number named => exact ⟨named.isWord, by simp⟩
  | located marked number named placed => exact ⟨named.isWord, by simpa using placed.isWord⟩

theorem LineText.proper {start rest : Bytes} {entry : LineEntry}
    (text : LineText start entry rest) : (entry.mapping 0).Proper := by
  cases text with
  | mk input file count colon output width repeats widens fits =>
    exact proper_iff.mpr ⟨repeats, widens, fits⟩

theorem SectionText.files_wellFormed {start rest : Bytes} {part : Section}
    (text : SectionText start part rest) : ∀ entry ∈ part.declaredFiles, entry.file.WellFormed := by
  cases text with
  | files marked row closed => exact row.forall_of_item FileText.wellFormed
  | lines marked row closed => simp [Section.declaredFiles]

theorem SectionText.lines_proper {start rest : Bytes} {part : Section}
    (text : SectionText start part rest) :
    ∀ entry ∈ part.declaredLines, (entry.mapping 0).Proper := by
  cases text with
  | files marked row closed => simp [Section.declaredLines]
  | lines marked row closed => exact row.forall_of_item LineText.proper

theorem StratumText.wellFormed {start rest : Bytes} {name : String} {stratum : Stratum}
    (text : StratumText start name stratum rest) : IsWord name ∧ stratum.WellFormed := by
  cases text with
  | mk named row describes =>
    refine ⟨named.isWord, ?_, ?_, ?_⟩
    · intro id file found
      rw [describes.files, declaredFile, Option.map_eq_some_iff] at found
      obtain ⟨entry, found, rfl⟩ := found
      have member := List.mem_reverse.mp (List.mem_of_find?_eq_some found)
      rw [writtenFiles_eq_flatMap] at member
      obtain ⟨part, inside, member⟩ := List.mem_flatMap.mp member
      exact row.forall_of_item SectionText.files_wellFormed part inside entry member
    · intro mapping member
      obtain ⟨i, found⟩ := List.mem_iff_getElem?.mp member
      rw [describes.lines, Option.map_eq_some_iff] at found
      obtain ⟨entry, found, rfl⟩ := found
      have member := List.mem_of_getElem? found
      rw [writtenLines_eq_flatMap] at member
      obtain ⟨part, inside, member⟩ := List.mem_flatMap.mp member
      exact row.forall_of_item SectionText.lines_proper part inside entry member
    · intro mapping member
      obtain ⟨file, found⟩ := describes.declared mapping member
      exact Std.ExtTreeMap.mem_iff_isSome_getElem?.mpr (by rw [found]; rfl)

theorem ItemText.wellFormed {start rest : Bytes} {item : SourceMap.Item}
    (text : ItemText start item rest) :
    ∀ name stratum, item = .stratum name stratum → IsWord name ∧ stratum.WellFormed := by
  intro name stratum same
  cases text with
  | stratum marked text =>
    cases same
    exact text.wellFormed
  | trailer marked continues => cases same

theorem MapText.wellFormed {payload : Bytes} {map : SourceMap} (text : MapText payload map) :
    map.WellFormed := by
  cases text with
  | mk separated header file default row trailer ends collects =>
    have strata (name : String) (stratum : Stratum) (found : _[name]? = some stratum) :=
      row.forall_of_item ItemText.wellFormed _ ((collects.strata name stratum).mp found)
        name stratum rfl
    refine ⟨file.isWord, default.isWord, ?_, fun name stratum found =>
      (strata name stratum found).2⟩
    intro name member
    exact (strata name _ (Std.ExtTreeMap.getElem?_eq_some_getElem member)).1

end DebugTables.Grammar
