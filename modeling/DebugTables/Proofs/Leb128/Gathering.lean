import Mathlib
import DebugTables.Proofs.Leb128.Sums

/-! Numbers put together in a word. Each group is shifted past the bits that were read before it, and
a negative number fills the bits that were not read. Groups that reach over the end of the word lose
the bits beyond it, so the word is what the exact sum leaves. -/

namespace DebugTables.Leb128

/-- A number put together in a word, with the bits that were read and the sign of its last group. -/
structure Gathered where
  word : UInt32
  width : Nat
  negative : Bool

/-- Puts a number together in a word, each group shifted past the bits that were read before it. -/
def gather : Nat → Nat → UInt32 → Bytes → Except Fault (Gathered × Bytes)
  | 0, _, _, rest => .error (.tooLong rest.length)
  | _ + 1, _, _, [] => .error .endOfInput
  | limit + 1, width, word, byte :: rest =>
    let word := word ||| (byte &&& 0x7F).toUInt32 <<< UInt32.ofNat width
    if byte &&& 0x80 = 0 then .ok (⟨word, width + 7, byte &&& 0x40 ≠ 0⟩, rest)
    else gather limit (width + 7) word rest

/-- Fills the bits that were not read with the sign. -/
def Gathered.extended (gathered : Gathered) : Int32 :=
  if gathered.width < 32 ∧ gathered.negative then
    (gathered.word ||| 0xFFFFFFFF <<< UInt32.ofNat gathered.width).toInt32
  else gathered.word.toInt32

theorem and_highBit_eq_zero_iff (byte : UInt8) : byte &&& 0x80 = 0 ↔ byte < 0x80 := by
  have each : ∀ n : Fin 256, n.val &&& 0x80 = 0 ↔ n.val < 0x80 := by decide +kernel
  rw [← UInt8.toNat_inj, UInt8.toNat_and, UInt8.lt_iff_toNat_lt]
  exact each ⟨byte.toNat, byte.toNat_lt⟩

theorem and_signBit_ne_zero_iff (byte : UInt8) :
    byte &&& 0x40 ≠ 0 ↔ byte.toNat.testBit 6 = true := by
  have each : ∀ n : Fin 256, n.val &&& 0x40 ≠ 0 ↔ n.val.testBit 6 = true := by decide +kernel
  rw [ne_eq, ← UInt8.toNat_inj, UInt8.toNat_and]
  exact each ⟨byte.toNat, byte.toNat_lt⟩

theorem toNat_and_lowBits (byte : UInt8) : (byte &&& 0x7F).toNat = groupOf byte := by
  rw [UInt8.toNat_and]
  exact Nat.and_two_pow_sub_one_eq_mod byte.toNat 7

theorem toNat_or_shiftLeft {word group : UInt32} {width : Nat} (below : word.toNat < 2 ^ width)
    (inside : width < 32) : (word ||| group <<< UInt32.ofNat width).toNat =
      (word.toNat + 2 ^ width * group.toNat) % 2 ^ 32 := by
  have amount : (UInt32.ofNat width).toNat % 32 = width := by
    rw [UInt32.toNat_ofNat_of_lt' (show width < 2 ^ 32 by omega), Nat.mod_eq_of_lt inside]
  have bound : word.toNat < 2 ^ 32 := word.toNat_lt
  rw [UInt32.toNat_or, UInt32.toNat_shiftLeft, amount, Nat.or_comm]
  rw [← Nat.mod_eq_of_lt bound, ← Nat.or_mod_two_pow, Nat.mod_eq_of_lt bound, Nat.shiftLeft_eq,
    Nat.mul_comm, ← Nat.two_pow_add_eq_or_of_lt below, Nat.add_comm]

/-- One more group comes into a word at the bits above those that were read. -/
theorem toNat_or_group {word : UInt32} {width : Nat} (below : word.toNat < 2 ^ width)
    (inside : width < 32) (byte : UInt8) :
    (word ||| (byte &&& 0x7F).toUInt32 <<< UInt32.ofNat width).toNat =
      (word.toNat + 2 ^ width * groupOf byte) % 2 ^ 32 := by
  rw [toNat_or_shiftLeft below inside, UInt8.toNat_toUInt32, toNat_and_lowBits]

theorem or_group_lt {word : UInt32} {width : Nat} (below : word.toNat < 2 ^ width)
    (inside : width < 32) (byte : UInt8) :
    (word ||| (byte &&& 0x7F).toUInt32 <<< UInt32.ofNat width).toNat < 2 ^ (width + 7) := by
  have group : groupOf byte ≤ 127 := Nat.le_of_lt_succ (Nat.mod_lt _ (by decide))
  have moved := Nat.mul_le_mul_left (2 ^ width) group
  rw [toNat_or_group below inside, pow_add]
  apply (Nat.mod_le _ _).trans_lt
  omega

theorem gather_of_whole {limit width : Nat} {word : UInt32} {before : Bytes} {last : UInt8}
    (whole : Whole before last) (short : before.length < limit) (after : Bytes)
    (below : word.toNat < 2 ^ width) (inside : width + 7 * limit ≤ 35) :
    gather limit width word (before ++ last :: after) =
      .ok (⟨UInt32.ofNat (word.toNat + 2 ^ width * groupSum (before ++ [last])),
        width + 7 * (before.length + 1), last.toNat.testBit 6⟩, after) := by
  induction before generalizing limit width word with
  | nil =>
    obtain ⟨limit, rfl⟩ := Nat.exists_eq_add_of_lt short
    have sum : groupSum [last] = groupOf last := groupSum_cons last []
    have placed : word ||| (last &&& 0x7F).toUInt32 <<< UInt32.ofNat width =
        UInt32.ofNat (word.toNat + 2 ^ width * groupOf last) := by
      rw [← UInt32.toNat_inj, toNat_or_group below (by omega), UInt32.toNat_ofNat']
    have sign : decide (last &&& 0x40 ≠ 0) = last.toNat.testBit 6 := by
      rw [Bool.eq_iff_iff, decide_eq_true_iff]
      exact and_signBit_ne_zero_iff last
    rw [List.nil_append, List.nil_append, gather,
      if_pos ((and_highBit_eq_zero_iff last).mpr whole.ends), placed, sum, sign]
    rfl
  | cons byte rest ih =>
    obtain ⟨limit, rfl⟩ := Nat.exists_eq_add_one_of_ne_zero (Nat.ne_zero_of_lt short)
    have parts := whole_cons_iff.mp whole
    have continues : ¬byte &&& 0x80 = 0 := by
      rw [and_highBit_eq_zero_iff, UInt8.not_lt]
      exact parts.1
    have others := @ih limit (width + 7) (word ||| (byte &&& 0x7F).toUInt32 <<< UInt32.ofNat width)
      parts.2 (Nat.lt_of_succ_lt_succ short) (or_group_lt below (by omega) byte) (by omega)
    have moved (sum : Nat) : 2 ^ width * (groupOf byte + 128 * sum) =
        2 ^ width * groupOf byte + 2 ^ (width + 7) * sum := by
      rw [pow_add]
      ring
    have total : UInt32.ofNat ((word.toNat + 2 ^ width * groupOf byte) % 2 ^ 32 +
          2 ^ (width + 7) * groupSum (rest ++ [last])) =
        UInt32.ofNat (word.toNat + 2 ^ width * groupSum (byte :: (rest ++ [last]))) := by
      rw [← UInt32.toNat_inj, UInt32.toNat_ofNat', UInt32.toNat_ofNat', Nat.mod_add_mod,
        groupSum_cons, moved, Nat.add_assoc]
    have width : width + 7 + 7 * (rest.length + 1) = width + 7 * (rest.length + 1 + 1) := by omega
    rw [List.cons_append, gather, if_neg continues, others, toNat_or_group below (by omega), total,
      width]
    rfl

theorem gather_of_unended {limit width : Nat} {word : UInt32} {bytes : Bytes}
    (announced : ∀ byte ∈ bytes.take limit, 0x80 ≤ byte) :
    gather limit width word bytes = .error (unended limit bytes) := by
  induction limit generalizing width word bytes with
  | zero => rfl
  | succ limit ih =>
    cases bytes with
    | nil => rfl
    | cons byte rest =>
      rw [List.take_succ_cons] at announced
      have continues : ¬byte &&& 0x80 = 0 := by
        rw [and_highBit_eq_zero_iff, UInt8.not_lt]
        exact announced byte List.mem_cons_self
      rw [gather, if_neg continues, unended_cons]
      exact ih fun byte member => announced byte (List.mem_cons_of_mem _ member)

theorem toInt32_ofNat_eq_ofInt {n : Nat} {exact : Int}
    (congruent : (n : Int) ≡ exact [ZMOD 2 ^ 32]) :
    (UInt32.ofNat n).toInt32 = Int32.ofInt exact := by
  have residue : (n : Int) % (Int32.size : Nat) = exact % (Int32.size : Nat) := congruent
  rw [UInt32.toInt32_ofNat', ← Int32.ofInt_eq_ofNat, ← Int32.toInt_inj, Int32.toInt_ofInt,
    Int32.toInt_ofInt, ← Int.emod_bmod, residue, Int.emod_bmod]

/-- The bits above a negative number are worth what its sign takes from it, and a fifth group leaves
none of them to fill. -/
theorem extended_groupSum (short : before.length < 5) :
    Gathered.extended ⟨UInt32.ofNat (groupSum (before ++ [last])), 7 * (before.length + 1),
      last.toNat.testBit 6⟩ = Int32.ofInt (signedSum before last) := by
  have length : (before ++ [last]).length = before.length + 1 := List.length_append
  have bound := groupSum_lt (before ++ [last])
  rw [length] at bound
  by_cases negative : last.toNat.testBit 6 = true
  · have weight : signWeight (before.length + 1) last = 2 ^ (7 * (before.length + 1)) :=
      if_pos negative
    by_cases inside : 7 * (before.length + 1) < 32
    · have fits : 2 ^ (7 * (before.length + 1)) ≤ 2 ^ 32 :=
        Nat.pow_le_pow_right (by decide) (Nat.le_of_lt inside)
      have read : (UInt32.ofNat (groupSum (before ++ [last]))).toNat =
          groupSum (before ++ [last]) := UInt32.toNat_ofNat_of_lt' (bound.trans_le fits)
      have filled : UInt32.ofNat (groupSum (before ++ [last])) |||
            0xFFFFFFFF <<< UInt32.ofNat (7 * (before.length + 1)) =
          UInt32.ofNat (groupSum (before ++ [last]) +
            2 ^ (7 * (before.length + 1)) * 0xFFFFFFFF) := by
        rw [← UInt32.toNat_inj, toNat_or_shiftLeft (by rwa [read]) inside, read,
          UInt32.toNat_ofNat']
        rfl
      rw [Gathered.extended, if_pos ⟨inside, negative⟩, filled]
      apply toInt32_ofNat_eq_ofInt
      rw [signedSum, weight]
      apply Int.modEq_iff_dvd.mpr
      exact ⟨-2 ^ (7 * (before.length + 1)), by push_cast; ring⟩
    · have full : before.length = 4 := by omega
      have outside : ¬(7 * (before.length + 1) < 32 ∧ last.toNat.testBit 6 = true) :=
        fun both => inside both.1
      rw [Gathered.extended, if_neg outside]
      apply toInt32_ofNat_eq_ofInt
      rw [signedSum, weight, full]
      apply Int.modEq_iff_dvd.mpr
      exact ⟨-8, by push_cast; ring⟩
  · have weight : signWeight (before.length + 1) last = 0 := if_neg negative
    rw [Gathered.extended, if_neg fun both => negative both.2]
    apply toInt32_ofNat_eq_ofInt
    rw [signedSum, weight, Nat.cast_zero, Int.sub_zero]

theorem gather_word_of_whole (whole : Whole before last) (short : before.length < 5)
    (after : Bytes) : gather 5 0 0 (before ++ last :: after) =
      .ok (⟨UInt32.ofNat (groupSum (before ++ [last])), 7 * (before.length + 1),
        last.toNat.testBit 6⟩, after) := by
  have gathered := @gather_of_whole 5 0 0 before last whole short after (by decide) (by decide)
  rw [gathered]
  simp

/-- Putting a number together in a word gives the number that the exact sum of its groups leaves. -/
theorem unsigned_eq_gather (bytes : Bytes) : unsigned bytes =
    (gather 5 0 0 bytes).map fun (gathered, rest) => (gathered.word, rest) := by
  rcases exists_whole_or_announced 5 bytes with ⟨before, last, after, rfl, whole, short⟩ | announced
  · rw [unsigned_of_whole whole short, gather_word_of_whole whole short]
    rfl
  · rw [gather_of_unended announced, unsigned_of_unended announced]
    rfl

theorem signed_eq_gather (bytes : Bytes) : signed bytes =
    (gather 5 0 0 bytes).map fun (gathered, rest) => (gathered.extended, rest) := by
  rcases exists_whole_or_announced 5 bytes with ⟨before, last, after, rfl, whole, short⟩ | announced
  · rw [signed_of_whole whole short, gather_word_of_whole whole short, ← extended_groupSum short]
    rfl
  · rw [gather_of_unended announced, signed_of_unended announced]
    rfl

end DebugTables.Leb128
