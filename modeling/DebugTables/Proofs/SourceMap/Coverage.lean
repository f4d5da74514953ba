import Mathlib
import DebugTables.Proofs.SourceMap.WellFormed

/-! Which lines a source map answers for. On any stratum the first mapping that holds a line decides
alone. In a map that was read its file is declared and its input line is a word, so there is an
answer exactly on the lines that some mapping holds. -/

namespace DebugTables

namespace LineMapping

/-- The line is one of the output lines, counted without a limit of words. -/
def Holds (mapping : LineMapping) (line : Nat) : Prop :=
  mapping.outputStart.toNat ≤ line ∧
    line < mapping.outputStart.toNat + mapping.increment.toNat * mapping.repeatCount.toNat

instance (mapping : LineMapping) (line : Nat) : Decidable (mapping.Holds line) :=
  inferInstanceAs (Decidable (_ ∧ _))

variable {mapping : LineMapping} {line : UInt32}

theorem covers_iff_holds : mapping.Covers line ↔ mapping.Holds line.toNat := by
  rw [Covers, UInt32.le_iff_toNat_le, outputEnd, Holds]

/-- The output lines of one input line come together, so the steps stay below the repeat count. -/
theorem Holds.step_lt (holds : mapping.Holds line.toNat) :
    (line.toNat - mapping.outputStart.toNat) / mapping.increment.toNat <
      mapping.repeatCount.toNat := by
  have inside : line.toNat - mapping.outputStart.toNat <
      mapping.increment.toNat * mapping.repeatCount.toNat := by
    have start := holds.1
    have stop := holds.2
    omega
  exact Nat.div_lt_of_lt_mul inside

theorem remap_eq_inputLine? (covered : mapping.Covers line) (nonzero : mapping.increment ≠ 0) :
    mapping.remap line = .ok (mapping.inputLine? line nonzero) := by
  rw [remap, if_neg (UInt32.not_lt.mpr covered.1), dif_neg nonzero]

theorem inputLine?_eq_some_iff {nonzero : mapping.increment ≠ 0} {input : UInt32} :
    mapping.inputLine? line nonzero = some input ↔ input.toNat = mapping.inputStart.toNat +
      (line.toNat - mapping.outputStart.toNat) / mapping.increment.toNat :=
  Word.ofNat?_eq_some_iff

theorem Proper.remap_ne_error (proper : mapping.Proper) (line : UInt32) (fault : RemapFault) :
    mapping.remap line ≠ .error fault := by
  rw [remap, dif_neg proper.2.1]
  split <;> exact nofun

/-- Every input line of a proper mapping is a word. -/
theorem Proper.exists_input (proper : mapping.Proper) {i : Nat}
    (within : i < mapping.repeatCount.toNat) :
    ∃ input : UInt32, input.toNat = mapping.inputStart.toNat + i := by
  have fits := proper.2.2
  have bounded : mapping.inputStart.toNat + i < 0x100000000 := by omega
  exact ⟨_, UInt32.toNat_ofNat_of_lt' bounded⟩

theorem exists_inputLine (proper : mapping.Proper) (holds : mapping.Holds line.toNat) :
    ∃ input : UInt32, input.toNat = mapping.inputStart.toNat +
      (line.toNat - mapping.outputStart.toNat) / mapping.increment.toNat :=
  proper.exists_input holds.step_lt

end LineMapping

namespace Stratum

/-- The mapping holds the line and no mapping before it does. -/
structure First (stratum : Stratum) (line : Nat) (mapping : LineMapping) : Prop where
  holds : mapping.Holds line
  first : ∃ before after, stratum.lines = before ++ mapping :: after ∧
    ∀ other ∈ before, ¬other.Holds line

variable {stratum : Stratum} {mapping : LineMapping} {line : UInt32}

theorem First.mem {line : Nat} (first : stratum.First line mapping) : mapping ∈ stratum.lines := by
  obtain ⟨before, after, lines, -⟩ := first.first
  rw [lines]
  exact List.mem_append_right before (List.mem_cons_self ..)

theorem mapping?_eq_some_iff :
    stratum.mapping? line = some mapping ↔ stratum.First line.toNat mapping := by
  rw [mapping?, List.find?_eq_some_iff_append]
  simp only [decide_eq_true_eq, Bool.not_eq_true', decide_eq_false_iff_not,
    LineMapping.covers_iff_holds]
  exact ⟨fun parts => ⟨parts.1, parts.2⟩, fun first => ⟨first.holds, first.first⟩⟩

theorem exists_first (held : ∃ mapping ∈ stratum.lines, mapping.Holds line.toNat) :
    ∃ mapping, stratum.First line.toNat mapping := by
  obtain ⟨mapping, member, holds⟩ := held
  have some : (stratum.mapping? line).isSome := by
    rw [mapping?, List.find?_isSome]
    exact ⟨mapping, member, decide_eq_true (LineMapping.covers_iff_holds.mpr holds)⟩
  obtain ⟨first, found⟩ := Option.isSome_iff_exists.mp some
  exact ⟨first, mapping?_eq_some_iff.mp found⟩

/-- The first mapping that holds the line decides alone, whether it has an answer or not. -/
theorem remap_eq_some_iff {answer : SourceLine} :
    stratum.remap line = some answer ↔ ∃ mapping, stratum.First line.toNat mapping ∧
      stratum.files[mapping.fileId]? = some answer.file ∧
      answer.line.toNat = mapping.inputStart.toNat +
        (line.toNat - mapping.outputStart.toNat) / mapping.increment.toNat := by
  unfold remap
  split
  · next absent =>
    refine ⟨nofun, ?_⟩
    intro answered
    obtain ⟨mapping, first, -, -⟩ := answered
    rw [mapping?_eq_some_iff.mpr first] at absent
    cases absent
  · next mapping found =>
    simp only [← mapping?_eq_some_iff, found, Option.some.injEq, exists_eq_left']
    constructor
    · intro answered
      obtain ⟨file, declared, answered⟩ := Option.bind_eq_some_iff.mp answered
      obtain ⟨input, reached, same⟩ := Option.bind_eq_some_iff.mp answered
      cases same
      exact ⟨declared, LineMapping.inputLine?_eq_some_iff.mp reached⟩
    · intro parts
      apply Option.bind_eq_some_iff.mpr ⟨answer.file, parts.1, _⟩
      exact Option.bind_eq_some_iff.mpr
        ⟨answer.line, LineMapping.inputLine?_eq_some_iff.mpr parts.2, rfl⟩

/-- In a well-formed stratum the first mapping that holds a line has an answer for it. -/
theorem WellFormed.exists_answer (formed : stratum.WellFormed)
    (first : stratum.First line.toNat mapping) :
    ∃ file input, stratum.files[mapping.fileId]? = some file ∧
      input.toNat = mapping.inputStart.toNat +
        (line.toNat - mapping.outputStart.toNat) / mapping.increment.toNat ∧
      stratum.remap line = some ⟨file, input⟩ := by
  have proper := formed.proper mapping first.mem
  obtain ⟨input, reached⟩ := LineMapping.exists_inputLine proper first.holds
  have declared := Std.ExtTreeMap.getElem?_eq_some_getElem (formed.declared mapping first.mem)
  exact ⟨_, input, declared, reached, remap_eq_some_iff.mpr ⟨mapping, first, declared, reached⟩⟩

end Stratum

namespace SourceMap

theorem remapIn_eq_some_iff {map : SourceMap} {name : String} {line : UInt32}
    {answer : SourceLine} : map.remapIn name line = some answer ↔
      ∃ stratum, map.strata[name]? = some stratum ∧ stratum.remap line = some answer :=
  Option.bind_eq_some_iff

/-- A map that was read has the mappings of its text, in their order there. It answers for a line in
a stratum exactly if the stratum is there and one of its mappings holds the line. The first such
mapping gives the answer: its file is declared, and its input line is exact and one of the mapping's
own. No mapping divides by zero. Without a stratum the default one is asked. -/
theorem remapIn_defined_on_covered_lines (payload : Bytes) (map : SourceMap)
    (read : SourceMap.parse payload = .ok map) :
    Grammar.MapText payload map ∧
    (∀ line, map.remap line = map.remapIn map.defaultStratum line) ∧
    (∀ (name : String) (stratum : Stratum), map.strata[name]? = some stratum →
      ∀ mapping ∈ stratum.lines, ∀ line fault, mapping.remap line ≠ .error fault) ∧
    ∀ (name : String) (line : UInt32),
      ((∃ answer, map.remapIn name line = some answer) ↔
        ∃ stratum, map.strata[name]? = some stratum ∧
          ∃ mapping ∈ stratum.lines, mapping.Holds line.toNat) ∧
      ∀ stratum mapping, map.strata[name]? = some stratum → stratum.First line.toNat mapping →
        ∃ file input, stratum.files[mapping.fileId]? = some file ∧
          mapping.remap line = .ok (some input) ∧ map.remapIn name line = some ⟨file, input⟩ ∧
          input.toNat = mapping.inputStart.toNat +
            (line.toNat - mapping.outputStart.toNat) / mapping.increment.toNat ∧
          mapping.inputStart.toNat ≤ input.toNat ∧
          input.toNat ≤ mapping.inputStart.toNat + mapping.repeatCount.toNat - 1 := by
  have text := Grammar.mapText_of_parse read
  have formed := text.wellFormed
  have answered (name : String) (line : UInt32) (stratum : Stratum) (mapping : LineMapping)
      (found : map.strata[name]? = some stratum) (first : stratum.First line.toNat mapping) :=
    (formed.strata name stratum found).exists_answer first
  have divides (name : String) (stratum : Stratum) (found : map.strata[name]? = some stratum)
      (mapping : LineMapping) (member : mapping ∈ stratum.lines) :=
    ((formed.strata name stratum found).proper mapping member).remap_ne_error
  refine ⟨text, fun _ => rfl, divides, ?_⟩
  intro name line
  refine ⟨⟨?_, ?_⟩, ?_⟩
  · intro defined
    obtain ⟨answer, defined⟩ := defined
    obtain ⟨stratum, found, remapped⟩ := remapIn_eq_some_iff.mp defined
    obtain ⟨mapping, first, -, -⟩ := Stratum.remap_eq_some_iff.mp remapped
    exact ⟨stratum, found, mapping, first.mem, first.holds⟩
  · intro held
    obtain ⟨stratum, found, held⟩ := held
    obtain ⟨mapping, first⟩ := Stratum.exists_first held
    obtain ⟨file, input, -, -, remapped⟩ := answered name line stratum mapping found first
    exact ⟨_, remapIn_eq_some_iff.mpr ⟨stratum, found, remapped⟩⟩
  · intro stratum mapping found first
    obtain ⟨file, input, declared, reached, remapped⟩ :=
      answered name line stratum mapping found first
    have covered := LineMapping.covers_iff_holds.mpr first.holds
    have step := first.holds.step_lt
    refine ⟨file, input, declared, ?_, remapIn_eq_some_iff.mpr ⟨stratum, found, remapped⟩,
      reached, ?_, ?_⟩
    · rw [LineMapping.remap_eq_inputLine? covered covered.increment_ne_zero,
        LineMapping.inputLine?_eq_some_iff.mpr reached]
    · rw [reached]
      exact Nat.le_add_right ..
    · omega

/-- Lines of a map where two mappings overlap and one reaches past the last word. -/
theorem remapIn_defined_on_overlapping_lines : ∃ map,
    SourceMap.parse (Utf8.encode
      "SMAP a.kt K *S K *F 1 b.kt 2 c.kt *L 3#1,2:7,3 9#2:10 8:4294967295,2 *E") = .ok map ∧
    map.remap 10 = some ⟨⟨"b.kt", none⟩, 4⟩ ∧
    map.remapIn "K" 4294967295 = some ⟨⟨"c.kt", none⟩, 8⟩ ∧
    ¬∃ answer, map.remapIn "K" 13 = some answer := by
  let stratum : Stratum := Stratum.mk
    (.ofList [((1 : UInt32), SourceFile.mk "b.kt" none), (2, ⟨"c.kt", none⟩)])
    [⟨3, 1, 7, 2, 3⟩, ⟨9, 2, 10, 1, 1⟩, ⟨8, 2, 4294967295, 1, 2⟩]
  have read : SourceMap.parse (Utf8.encode
      "SMAP a.kt K *S K *F 1 b.kt 2 c.kt *L 3#1,2:7,3 9#2:10 8:4294967295,2 *E") =
      .ok ⟨"a.kt", "K", .ofList [("K", stratum)]⟩ := by
    cbv
  obtain ⟨-, default, -, defined⟩ := remapIn_defined_on_covered_lines _ _ read
  have found : (Std.ExtTreeMap.ofList [("K", stratum)])["K"]? = some stratum := by cbv
  have ten : stratum.First 10 ⟨3, 1, 7, 2, 3⟩ := ⟨by decide, [], _, rfl, by simp⟩
  have last : stratum.First 4294967295 ⟨8, 2, 4294967295, 1, 2⟩ :=
    ⟨by decide, [_, _], _, rfl, by decide⟩
  refine ⟨_, read, ?_, ?_, ?_⟩
  · obtain ⟨file, input, declared, -, answer, reached, -⟩ := (defined "K" 10).2 _ _ found ten
    have known : stratum.files[(1 : UInt32)]? = some ⟨"b.kt", none⟩ := by cbv
    cases known.symm.trans declared
    rw [default, answer, UInt32.toNat_inj.mp (reached.trans (by decide : _ = (4 : UInt32).toNat))]
  · obtain ⟨file, input, declared, -, answer, reached, -⟩ :=
      (defined "K" 4294967295).2 _ _ found last
    have known : stratum.files[(2 : UInt32)]? = some ⟨"c.kt", none⟩ := by cbv
    cases known.symm.trans declared
    rw [answer, UInt32.toNat_inj.mp (reached.trans (by decide : _ = (8 : UInt32).toNat))]
  · intro answered
    obtain ⟨other, same, mapping, member, holds⟩ := (defined "K" 13).1.mp answered
    cases found.symm.trans same
    have outside : ∀ mapping ∈ stratum.lines, ¬mapping.Holds 13 := by decide
    exact outside mapping member holds

end SourceMap

end DebugTables
