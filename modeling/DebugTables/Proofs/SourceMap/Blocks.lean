import Mathlib
import DebugTables.Proofs.SourceMap.Coverage

/-! The output lines of a mapping, input line by input line. Each input line has a block of
consecutive output lines, and the blocks come in the order of the input lines without gaps. A
mapping that was read sends exactly the lines of a block back to its input line. A block that
reaches past the last word is cut off there, any other is as long as the increment. -/

namespace DebugTables

namespace LineMapping

/-- The output lines of the input line `i` steps after the first, without a limit of words. -/
def block (mapping : LineMapping) (i : Nat) : Set Nat :=
  Set.Ico (mapping.outputStart.toNat + i * mapping.increment.toNat)
    (mapping.outputStart.toNat + (i + 1) * mapping.increment.toNat)

/-- The output lines that the mapping sends back to `input`. -/
def outputLines (mapping : LineMapping) (input : UInt32) : Set UInt32 :=
  {line | mapping.Covers line ∧ mapping.remap line = .ok (some input)}

section Blocks

variable {mapping : LineMapping} {i j line later : Nat}

theorem block_eq_Ico_length (mapping : LineMapping) (i : Nat) :
    mapping.block i = Set.Ico (mapping.outputStart.toNat + i * mapping.increment.toNat)
      (mapping.outputStart.toNat + i * mapping.increment.toNat + mapping.increment.toNat) := by
  rw [block, Nat.add_one_mul, Nat.add_assoc]

theorem ncard_block (mapping : LineMapping) (i : Nat) :
    (mapping.block i).ncard = mapping.increment.toNat := by
  rw [block_eq_Ico_length, Set.ncard_Ico_nat, Nat.add_sub_cancel_left]

theorem increment_pos_of_mem_block (member : line ∈ mapping.block i) :
    0 < mapping.increment.toNat := by
  rw [block_eq_Ico_length] at member
  have start := member.1
  have stop := member.2
  omega

/-- The number of a line's block is a quotient, rounded down. -/
theorem mem_block_iff (positive : 0 < mapping.increment.toNat) :
    line ∈ mapping.block i ↔ mapping.outputStart.toNat ≤ line ∧
      (line - mapping.outputStart.toNat) / mapping.increment.toNat = i := by
  rw [block_eq_Ico_length, Nat.div_eq_iff positive, Set.mem_Ico]
  omega

/-- Blocks stand in the order of their numbers. -/
theorem block_le_of_le (here : line ∈ mapping.block i) (there : later ∈ mapping.block j)
    (order : line ≤ later) : i ≤ j := by
  have start := here.1
  have stop := there.2
  -- Products are not linear: the increment has to be cancelled by hand.
  have before : i * mapping.increment.toNat < (j + 1) * mapping.increment.toNat := by omega
  exact Nat.le_of_lt_succ (Nat.lt_of_mul_lt_mul_right before)

/-- No block is skipped from one line to the next. -/
theorem block_le_succ (here : line ∈ mapping.block i) (there : line + 1 ∈ mapping.block j) :
    j ≤ i + 1 := by
  have start := there.1
  have stop := here.2
  have adjacent : j * mapping.increment.toNat ≤ (i + 1) * mapping.increment.toNat := by omega
  exact Nat.le_of_mul_le_mul_right adjacent (increment_pos_of_mem_block here)

theorem block_end_le_outputEnd (within : i < mapping.repeatCount.toNat) :
    mapping.outputStart.toNat + (i + 1) * mapping.increment.toNat ≤ mapping.outputEnd := by
  have steps : (i + 1) * mapping.increment.toNat ≤
      mapping.repeatCount.toNat * mapping.increment.toNat := Nat.mul_le_mul_right _ within
  rw [outputEnd, Nat.mul_comm mapping.increment.toNat]
  omega

theorem holds_of_mem_block (within : i < mapping.repeatCount.toNat)
    (member : line ∈ mapping.block i) : mapping.Holds line :=
  ⟨Nat.le_trans (Nat.le_add_right ..) member.1,
    Nat.lt_of_lt_of_le member.2 (block_end_le_outputEnd within)⟩

end Blocks

section Remapping

variable {mapping : LineMapping} {i : Nat} {line input : UInt32}

theorem exists_block_of_covers (covered : mapping.Covers line) :
    ∃ i < mapping.repeatCount.toNat, line.toNat ∈ mapping.block i := by
  have holds := covers_iff_holds.mp covered
  have positive : 0 < mapping.increment.toNat :=
    Nat.pos_of_ne_zero (UInt32.toNat_inj.not.mpr covered.increment_ne_zero)
  exact ⟨_, holds.step_lt, (mem_block_iff positive).mpr ⟨holds.1, rfl⟩⟩

theorem remap_eq_iff_of_mem_block (covered : mapping.Covers line)
    (member : line.toNat ∈ mapping.block i) :
    mapping.remap line = .ok (some input) ↔ input.toNat = mapping.inputStart.toNat + i := by
  obtain ⟨-, quotient⟩ := (mem_block_iff (increment_pos_of_mem_block member)).mp member
  rw [remap_eq_inputLine? covered covered.increment_ne_zero, Except.ok.injEq,
    inputLine?_eq_some_iff, quotient]

theorem mem_outputLines_iff (within : i < mapping.repeatCount.toNat)
    (reached : input.toNat = mapping.inputStart.toNat + i) :
    line ∈ mapping.outputLines input ↔ line.toNat ∈ mapping.block i := by
  constructor
  · intro sent
    obtain ⟨covered, remapped⟩ := sent
    -- The line is in some block, and its input line tells which.
    obtain ⟨j, -, member⟩ := exists_block_of_covers covered
    have other := (remap_eq_iff_of_mem_block covered member).mp remapped
    have same : j = i := by omega
    exact same ▸ member
  · intro member
    have covered := covers_iff_holds.mpr (holds_of_mem_block within member)
    exact ⟨covered, (remap_eq_iff_of_mem_block covered member).mpr reached⟩

/-- Only the words of a block are output lines. -/
theorem image_outputLines (within : i < mapping.repeatCount.toNat)
    (reached : input.toNat = mapping.inputStart.toNat + i) :
    UInt32.toNat '' mapping.outputLines input = mapping.block i ∩ Set.Iio (2 ^ 32) := by
  ext value
  constructor
  · intro inside
    obtain ⟨line, sent, rfl⟩ := inside
    exact ⟨(mem_outputLines_iff within reached).mp sent, line.toNat_lt⟩
  · intro inside
    obtain ⟨member, bounded⟩ := inside
    have word : (UInt32.ofNat value).toNat = value := UInt32.toNat_ofNat_of_lt' bounded
    refine ⟨UInt32.ofNat value, ?_, word⟩
    rw [mem_outputLines_iff within reached, word]
    exact member

/-- A mapping that ends within the words has all lines of its blocks. -/
theorem image_outputLines_eq_block (within : i < mapping.repeatCount.toNat)
    (reached : input.toNat = mapping.inputStart.toNat + i) (ends : mapping.outputEnd ≤ 2 ^ 32) :
    UInt32.toNat '' mapping.outputLines input = mapping.block i := by
  rw [image_outputLines within reached]
  apply Set.inter_eq_left.mpr
  intro value member
  exact Nat.lt_of_lt_of_le member.2 (Nat.le_trans (block_end_le_outputEnd within) ends)

theorem ncard_outputLines (within : i < mapping.repeatCount.toNat)
    (reached : input.toNat = mapping.inputStart.toNat + i) (ends : mapping.outputEnd ≤ 2 ^ 32) :
    (mapping.outputLines input).ncard = mapping.increment.toNat := by
  have injective : Function.Injective UInt32.toNat := fun _ _ => UInt32.toNat_inj.mp
  rw [← Set.ncard_image_of_injective _ injective, image_outputLines_eq_block within reached ends,
    ncard_block]

end Remapping

end LineMapping

namespace SourceMap

/-- In a map that was read, the output lines that a mapping sends back to an input line are the
words of that line's block: as many consecutive lines as the increment says, if the mapping ends
within the words. Every covered line is sent back to an input line of the mapping. A later covered
line never leads to an earlier input line, and the next one leads at most one input line on. -/
theorem mapping_remaps_block_by_block (payload : Bytes) (map : SourceMap)
    (read : SourceMap.parse payload = .ok map) (name : String) (stratum : Stratum)
    (found : map.strata[name]? = some stratum) (mapping : LineMapping)
    (listed : mapping ∈ stratum.lines) :
    (∀ i < mapping.repeatCount.toNat, ∃ input : UInt32,
      input.toNat = mapping.inputStart.toNat + i ∧
      (∀ line : UInt32, line ∈ mapping.outputLines input ↔ line.toNat ∈ mapping.block i) ∧
      (mapping.outputEnd ≤ 2 ^ 32 →
        UInt32.toNat '' mapping.outputLines input = mapping.block i ∧
        (mapping.outputLines input).ncard = mapping.increment.toNat)) ∧
    (∀ line, mapping.Covers line → ∃ i < mapping.repeatCount.toNat, ∃ input : UInt32,
      input.toNat = mapping.inputStart.toNat + i ∧ mapping.remap line = .ok (some input)) ∧
    ∀ line later input next, mapping.Covers line → mapping.Covers later →
      mapping.remap line = .ok (some input) → mapping.remap later = .ok (some next) →
      (line ≤ later → input ≤ next) ∧
      (later.toNat = line.toNat + 1 → next.toNat ≤ input.toNat + 1) := by
  have formed := (Grammar.mapText_of_parse read).wellFormed
  have proper := (formed.strata name stratum found).proper mapping listed
  refine ⟨?_, ?_, ?_⟩
  · intro i within
    obtain ⟨input, reached⟩ := proper.exists_input within
    refine ⟨input, reached, fun _ => LineMapping.mem_outputLines_iff within reached, ?_⟩
    intro ends
    exact ⟨LineMapping.image_outputLines_eq_block within reached ends,
      LineMapping.ncard_outputLines within reached ends⟩
  · intro line covered
    obtain ⟨i, within, member⟩ := LineMapping.exists_block_of_covers covered
    obtain ⟨input, reached⟩ := proper.exists_input within
    exact ⟨i, within, input, reached,
      (LineMapping.remap_eq_iff_of_mem_block covered member).mpr reached⟩
  · intro line later input next covered coveredLater remapped remappedLater
    obtain ⟨i, -, here⟩ := LineMapping.exists_block_of_covers covered
    obtain ⟨j, -, there⟩ := LineMapping.exists_block_of_covers coveredLater
    have reached := (LineMapping.remap_eq_iff_of_mem_block covered here).mp remapped
    have reachedNext := (LineMapping.remap_eq_iff_of_mem_block coveredLater there).mp remappedLater
    constructor
    · intro order
      have blocks := LineMapping.block_le_of_le here there (UInt32.le_iff_toNat_le.mp order)
      rw [UInt32.le_iff_toNat_le]
      omega
    · intro successor
      rw [successor] at there
      have blocks := LineMapping.block_le_succ here there
      omega

/-- One mapping within the words, and one whose blocks are cut off after the last word: the first to
two lines of three, the second altogether. -/
theorem mapping_remaps_block_by_block_cut_off :
    let whole : LineMapping := ⟨5, 1, 20, 2, 3⟩
    let cut : LineMapping := ⟨8, 1, 4294967294, 2, 3⟩
    ∃ map stratum, SourceMap.parse (Utf8.encode
        "SMAP a.kt K *S K *F 1 b.kt *L 5#1,2:20,3 8,2:4294967294,3 *E") = .ok map ∧
      map.strata["K"]? = some stratum ∧ stratum.lines = [whole, cut] ∧
      UInt32.toNat '' whole.outputLines 6 = Set.Ico 23 26 ∧ (whole.outputLines 6).ncard = 3 ∧
      (∃ i < 2, ∃ input : UInt32, input.toNat = 5 + i ∧ whole.remap 25 = .ok (some input)) ∧
      (whole.remap 22 = .ok (some 5) ∧ whole.remap 23 = .ok (some 6) ∧
        (5 : UInt32) ≤ 6 ∧ (6 : UInt32).toNat ≤ (5 : UInt32).toNat + 1) ∧
      (∀ line, line ∈ cut.outputLines 8 ↔ line = 4294967294 ∨ line = 4294967295) ∧
      cut.outputLines 9 = ∅ := by
  intro whole cut
  let stratum : Stratum := ⟨.ofList [((1 : UInt32), SourceFile.mk "b.kt" none)], [whole, cut]⟩
  let map : SourceMap := ⟨"a.kt", "K", .ofList [("K", stratum)]⟩
  have read : SourceMap.parse (Utf8.encode
      "SMAP a.kt K *S K *F 1 b.kt *L 5#1,2:20,3 8,2:4294967294,3 *E") = .ok map := by
    cbv
  have found : map.strata["K"]? = some stratum := by cbv
  obtain ⟨blocks, sent, steps⟩ :=
    mapping_remaps_block_by_block _ _ read _ _ found whole (.head _)
  obtain ⟨cutBlocks, -, -⟩ :=
    mapping_remaps_block_by_block _ _ read _ _ found cut (.tail _ (.head _))
  obtain ⟨six, isSix, -, within⟩ := blocks 1 (by decide)
  obtain ⟨eight, isEight, firstCut, -⟩ := cutBlocks 0 (by decide)
  obtain ⟨nine, isNine, secondCut, -⟩ := cutBlocks 1 (by decide)
  obtain rfl : six = 6 := UInt32.toNat_inj.mp isSix
  obtain rfl : eight = 8 := UInt32.toNat_inj.mp isEight
  obtain rfl : nine = 9 := UInt32.toNat_inj.mp isNine
  obtain ⟨image, count⟩ := within (by decide)
  have here : whole.remap 22 = .ok (some 5) := by decide
  have there : whole.remap 23 = .ok (some 6) := by decide
  obtain ⟨order, step⟩ := steps 22 23 5 6 (by decide) (by decide) here there
  refine ⟨map, stratum, read, found, rfl, image, count, sent 25 (by decide),
    ⟨here, there, order (by decide), step (by decide)⟩, ?_, ?_⟩
  · intro line
    have bounded := line.toNat_lt
    rw [firstCut, ← UInt32.toNat_inj, ← UInt32.toNat_inj]
    change 4294967294 ≤ line.toNat ∧ line.toNat < 4294967297 ↔
      line.toNat = 4294967294 ∨ line.toNat = 4294967295
    omega
  · apply Set.eq_empty_iff_forall_notMem.mpr
    intro line inside
    have start : 4294967297 ≤ line.toNat := ((secondCut line).mp inside).1
    have bounded := line.toNat_lt
    omega

end SourceMap

end DebugTables
