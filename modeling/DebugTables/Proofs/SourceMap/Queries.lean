import Mathlib
import DebugTables.Proofs.SourceMap.Coverage

/-! Queries of source maps that were not read, with any numbers in their mappings. Only a mapping that
holds the line is asked for its input line, and no mapping without an increment holds a line, so
nothing is divided by zero. The first mapping that holds the line decides even where it has no
answer. -/

namespace DebugTables

namespace LineMapping

variable {mapping : LineMapping} {line : UInt32}

/-- The first line past the output lines, in words of 64 bits. -/
def outputEnd64 (mapping : LineMapping) : UInt64 :=
  mapping.outputStart.toUInt64 + mapping.increment.toUInt64 * mapping.repeatCount.toUInt64

/-- The line is one of the output lines, told from words. -/
def Covers64 (mapping : LineMapping) (line : UInt32) : Prop :=
  mapping.outputStart ≤ line ∧ line.toUInt64 < mapping.outputEnd64

instance (mapping : LineMapping) (line : UInt32) : Decidable (mapping.Covers64 line) :=
  inferInstanceAs (Decidable (_ ∧ _))

theorem outputEnd_lt (mapping : LineMapping) : mapping.outputEnd < 2 ^ 64 := by
  have start := mapping.outputStart.toNat_lt
  have increment : mapping.increment.toNat ≤ 0xFFFFFFFF :=
    Nat.le_of_lt_succ mapping.increment.toNat_lt
  have count : mapping.repeatCount.toNat ≤ 0xFFFFFFFF :=
    Nat.le_of_lt_succ mapping.repeatCount.toNat_lt
  have product := Nat.mul_le_mul increment count
  rw [outputEnd]
  omega

/-- Neither the product nor the sum leaves 64 bits. -/
theorem toNat_outputEnd64 (mapping : LineMapping) :
    mapping.outputEnd64.toNat = mapping.outputEnd := by
  have fits := mapping.outputEnd_lt
  rw [outputEnd] at fits ⊢
  have product : mapping.increment.toNat * mapping.repeatCount.toNat < 2 ^ 64 := by omega
  rw [outputEnd64, UInt64.toNat_add, UInt64.toNat_mul, UInt32.toNat_toUInt64,
    UInt32.toNat_toUInt64, UInt32.toNat_toUInt64, Nat.mod_eq_of_lt product, Nat.mod_eq_of_lt fits]

theorem covers64_iff : mapping.Covers64 line ↔ mapping.Covers line := by
  rw [Covers64, Covers, UInt64.lt_iff_toNat_lt, toNat_outputEnd64, UInt32.toNat_toUInt64]

theorem Holds.increment_ne_zero (holds : mapping.Holds line.toNat) : mapping.increment ≠ 0 :=
  (covers_iff_holds.mpr holds).increment_ne_zero

end LineMapping

namespace Stratum

variable {stratum : Stratum} {mapping : LineMapping} {line : UInt32}

/-- Looks a line up with the arithmetic of words, in which a mapping may divide by zero. -/
def lookup (stratum : Stratum) (line : UInt32) : Except RemapFault (Option SourceLine) :=
  match stratum.lines.find? (·.Covers64 line) with
  | none => .ok none
  | some mapping =>
    match stratum.files[mapping.fileId]? with
    | none => .ok none
    | some file => do
      let input ← mapping.remap line
      return input.map fun input => ⟨file, input⟩

theorem find?_covers64 (stratum : Stratum) (line : UInt32) :
    stratum.lines.find? (·.Covers64 line) = stratum.mapping? line := by
  simp only [LineMapping.covers64_iff]
  rfl

theorem remap_of_absent (absent : stratum.mapping? line = none) : stratum.remap line = none := by
  unfold remap
  split
  · rfl
  · next mapping found =>
    rw [absent] at found
    cases found

theorem remap_of_found (found : stratum.mapping? line = some mapping) :
    stratum.remap line = do
      let file ← stratum.files[mapping.fileId]?
      let input ← mapping.inputLine? line (covers_of_mapping? found).increment_ne_zero
      return ⟨file, input⟩ := by
  unfold remap
  split
  · next absent =>
    rw [absent] at found
    cases found
  · next other here =>
    cases here.symm.trans found
    rfl

/-- The mapping that is asked holds the line, so it has an increment to divide by. -/
theorem lookup_eq_ok_remap (stratum : Stratum) (line : UInt32) :
    stratum.lookup line = .ok (stratum.remap line) := by
  rw [lookup, find?_covers64]
  cases found : stratum.mapping? line with
  | none => rw [remap_of_absent found]
  | some mapping =>
    have covered := covers_of_mapping? found
    rw [remap_of_found found]
    dsimp only
    cases stratum.files[mapping.fileId]? with
    | none => rfl
    | some file =>
      change (do let input ← mapping.remap line; return _) = _
      rw [LineMapping.remap_eq_inputLine? covered covered.increment_ne_zero]
      change Except.ok (Option.map _ (mapping.inputLine? line _)) = _
      cases mapping.inputLine? line covered.increment_ne_zero <;> rfl

/-- The first mapping has no file, or its input line is no word. -/
theorem remap_eq_none_of_first (first : stratum.First line.toNat mapping)
    (fails : stratum.files[mapping.fileId]? = none ∨ 2 ^ 32 ≤ mapping.inputStart.toNat +
      (line.toNat - mapping.outputStart.toNat) / mapping.increment.toNat) :
    stratum.remap line = none := by
  apply Option.eq_none_iff_forall_ne_some.mpr
  intro answer answered
  obtain ⟨other, firstOther, declared, reached⟩ := remap_eq_some_iff.mp answered
  have same := (mapping?_eq_some_iff.mpr first).symm.trans (mapping?_eq_some_iff.mpr firstOther)
  cases same
  rcases fails with undeclared | tooFar
  · rw [undeclared] at declared
    cases declared
  · have bound := answer.line.toNat_lt
    omega

end Stratum

namespace SourceMap

/-- Looks a line up in a stratum with the arithmetic of words. -/
def lookupIn (map : SourceMap) (name : String) (line : UInt32) :
    Except RemapFault (Option SourceLine) :=
  match map.strata[name]? with
  | none => .ok none
  | some stratum => stratum.lookup line

theorem lookupIn_eq_ok_remapIn (map : SourceMap) (name : String) (line : UInt32) :
    map.lookupIn name line = .ok (map.remapIn name line) := by
  rw [lookupIn, remapIn]
  cases map.strata[name]? with
  | none => rfl
  | some stratum => exact Stratum.lookup_eq_ok_remap stratum line

/-- Any map can be asked, whatever its mappings hold. The end of the output lines fits in 64 bits, a
mapping without an increment has none, and a look-up that may divide by zero never does. There is an
answer exactly if the stratum is there and its first mapping that holds the line has a declared file
and an input line that is a word. Where that mapping has no answer there is none, whatever mappings
come after it. -/
theorem remapIn_decided_by_first (map : SourceMap) (name : String) (line : UInt32) :
    (∀ mapping : LineMapping, mapping.outputEnd < 2 ^ 64 ∧
      mapping.outputEnd64.toNat = mapping.outputEnd ∧
      (mapping.increment = 0 → ¬mapping.Holds line.toNat)) ∧
    map.lookupIn name line = .ok (map.remapIn name line) ∧
    (∀ file input, map.remapIn name line = some ⟨file, input⟩ ↔
      ∃ stratum mapping, map.strata[name]? = some stratum ∧ stratum.First line.toNat mapping ∧
        stratum.files[mapping.fileId]? = some file ∧
        input.toNat = mapping.inputStart.toNat +
          (line.toNat - mapping.outputStart.toNat) / mapping.increment.toNat) ∧
    ∀ stratum mapping, map.strata[name]? = some stratum → stratum.First line.toNat mapping →
      (stratum.files[mapping.fileId]? = none ∨ 2 ^ 32 ≤ mapping.inputStart.toNat +
        (line.toNat - mapping.outputStart.toNat) / mapping.increment.toNat) →
      map.remapIn name line = none := by
  refine ⟨?_, lookupIn_eq_ok_remapIn map name line, ?_, ?_⟩
  · intro mapping
    refine ⟨mapping.outputEnd_lt, mapping.toNat_outputEnd64, ?_⟩
    intro zero holds
    exact holds.increment_ne_zero zero
  · intro file input
    rw [remapIn_eq_some_iff]
    simp only [Stratum.remap_eq_some_iff, exists_and_left]
  · intro stratum mapping found first fails
    rw [remapIn, found]
    exact Stratum.remap_eq_none_of_first first fails

/-- Mappings without an increment, past the last word and without a file, each before one that has
an answer. -/
theorem remapIn_decided_by_first_unchecked :
    let stratum : Stratum := ⟨.ofList [((1 : UInt32), SourceFile.mk "a.kt" none)],
      [⟨5, 1, 10, 3, 0⟩, ⟨4294967295, 1, 10, 2, 1⟩, ⟨7, 9, 20, 1, 1⟩, ⟨1, 1, 10, 15, 1⟩]⟩
    let map : SourceMap := ⟨"a", "K", .ofList [("K", stratum)]⟩
    (map.strata["K"]? = some stratum ∧ stratum.First 10 ⟨4294967295, 1, 10, 2, 1⟩ ∧
      stratum.First 11 ⟨4294967295, 1, 10, 2, 1⟩ ∧ stratum.First 20 ⟨7, 9, 20, 1, 1⟩ ∧
      stratum.files[(9 : UInt32)]? = none) ∧
    map.remapIn "K" 10 = some ⟨⟨"a.kt", none⟩, 4294967295⟩ ∧
    map.remapIn "K" 11 = none ∧ map.remapIn "K" 20 = none ∧
    map.lookupIn "K" 21 = .ok (some ⟨⟨"a.kt", none⟩, 12⟩) := by
  intro stratum map
  have found : map.strata["K"]? = some stratum := by cbv
  have declared : stratum.files[(1 : UInt32)]? = some ⟨"a.kt", none⟩ := by cbv
  have undeclared : stratum.files[(9 : UInt32)]? = none := by cbv
  have ten : stratum.First 10 ⟨4294967295, 1, 10, 2, 1⟩ := ⟨by decide, [_], _, rfl, by decide⟩
  have eleven : stratum.First 11 ⟨4294967295, 1, 10, 2, 1⟩ := ⟨by decide, [_], _, rfl, by decide⟩
  have twenty : stratum.First 20 ⟨7, 9, 20, 1, 1⟩ := ⟨by decide, [_, _], _, rfl, by decide⟩
  have later : stratum.First 21 ⟨1, 1, 10, 15, 1⟩ := ⟨by decide, [_, _, _], _, rfl, by decide⟩
  obtain ⟨-, -, answers, -⟩ := remapIn_decided_by_first map "K" 10
  obtain ⟨-, -, -, tooFar⟩ := remapIn_decided_by_first map "K" 11
  obtain ⟨-, -, -, nowhere⟩ := remapIn_decided_by_first map "K" 20
  obtain ⟨-, asked, answersLater, -⟩ := remapIn_decided_by_first map "K" 21
  refine ⟨⟨found, ten, eleven, twenty, undeclared⟩, ?_, ?_, ?_, ?_⟩
  · exact (answers ⟨"a.kt", none⟩ 4294967295).mpr ⟨stratum, _, found, ten, declared, by decide⟩
  · exact tooFar stratum _ found eleven (Or.inr (by decide))
  · exact nowhere stratum _ found twenty (Or.inl undeclared)
  · rw [asked, (answersLater ⟨"a.kt", none⟩ 12).mpr
      ⟨stratum, _, found, later, declared, by decide⟩]

end SourceMap

end DebugTables
