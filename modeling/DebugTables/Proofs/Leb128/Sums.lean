import Mathlib
import DebugTables.Proofs.Leb128

/-! Numbers as sums of their groups. A number ends with the first byte that announces no other one,
and its groups, each in its place, add up to it, less the next power of 128 if it is signed and its
last group has the sign. -/

namespace DebugTables.Leb128

/-- The sum of the groups, the group of each byte in its place. -/
def groupSum (bytes : Bytes) : Nat :=
  ∑ place : Fin bytes.length, bytes[place].toNat % 128 * 2 ^ (7 * place.val)

/-- What the sign takes from a number of so many bytes with this last one. -/
def signWeight (length : Nat) (last : UInt8) : Nat :=
  if last.toNat.testBit 6 then 2 ^ (7 * length) else 0

/-- The bytes of one number: all before the last announce another one. -/
structure Whole (before : Bytes) (last : UInt8) : Prop where
  announced : ∀ byte ∈ before, 0x80 ≤ byte
  ends : last < 0x80

def groupOf (byte : UInt8) : Nat :=
  byte.toNat % 128

/-- The signed number of bytes, exactly. -/
def signedSum (before : Bytes) (last : UInt8) : Int :=
  groupSum (before ++ [last]) - signWeight (before.length + 1) last

theorem whole_cons_iff {byte last : UInt8} {before : Bytes} :
    Whole (byte :: before) last ↔ 0x80 ≤ byte ∧ Whole before last := by
  constructor
  · intro whole
    have announced := List.forall_mem_cons.mp whole.announced
    exact ⟨announced.1, announced.2, whole.ends⟩
  · intro parts
    exact ⟨List.forall_mem_cons.mpr ⟨parts.1, parts.2.announced⟩, parts.2.ends⟩

theorem groupSum_cons (byte : UInt8) (rest : Bytes) :
    groupSum (byte :: rest) = groupOf byte + 128 * groupSum rest := by
  have shifted (group place : Nat) :
      group * 2 ^ (7 * (place + 1)) = 128 * (group * 2 ^ (7 * place)) := by
    rw [Nat.mul_add, pow_add]
    ring
  calc groupSum (byte :: rest)
    _ = groupOf byte * 2 ^ (7 * 0) +
        ∑ place : Fin rest.length, groupOf rest[place] * 2 ^ (7 * (place.val + 1)) :=
      Fin.sum_univ_succ _
    _ = groupOf byte + 128 * groupSum rest := by
      simp only [shifted, ← Finset.mul_sum]
      rw [Nat.mul_zero, pow_zero, Nat.mul_one]
      rfl

theorem groupSum_concat (before : Bytes) (last : UInt8) :
    groupSum (before ++ [last]) = groupSum before + 2 ^ (7 * before.length) * groupOf last := by
  induction before with
  | nil =>
    rw [List.nil_append, groupSum_cons]
    change groupOf last + 128 * 0 = 0 + 2 ^ 0 * groupOf last
    omega
  | cons byte rest ih =>
    rw [List.cons_append, groupSum_cons, groupSum_cons, ih, List.length_cons, Nat.mul_add 7, pow_add]
    ring

theorem groupSum_lt (bytes : Bytes) : groupSum bytes < 2 ^ (7 * bytes.length) := by
  induction bytes with
  | nil => decide
  | cons byte rest ih =>
    have group : groupOf byte < 128 := Nat.mod_lt _ (by decide)
    rw [groupSum_cons, List.length_cons, Nat.mul_add, pow_add]
    omega

theorem value_map_groupOf (bytes : Bytes) : value (bytes.map groupOf) = groupSum bytes := by
  induction bytes with
  | nil => rfl
  | cons byte rest ih => rw [List.map_cons, value, ih, groupSum_cons]

theorem sign_iff {last : UInt8} (ends : last < 0x80) :
    last.toNat.testBit 6 = true ↔ 64 ≤ last.toNat := by
  have each : ∀ n : Fin 128, n.val.testBit 6 = true ↔ 64 ≤ n.val := by decide
  exact each ⟨last.toNat, UInt8.lt_iff_toNat_lt.mp ends⟩

theorem groupOf_of_ends {last : UInt8} (ends : last < 0x80) : groupOf last = last.toNat :=
  Nat.mod_eq_of_lt (UInt8.lt_iff_toNat_lt.mp ends)

theorem excess_map_groupOf {before : Bytes} {last : UInt8} (ends : last < 0x80) :
    excess ((before ++ [last]).map groupOf) = signWeight (before.length + 1) last := by
  induction before with
  | nil =>
    have sign := sign_iff ends
    rw [List.nil_append, List.map_singleton, excess, groupOf_of_ends ends, signWeight]
    simp only [sign]
    rfl
  | cons byte rest ih =>
    have nonempty : (rest ++ [last]).map groupOf ≠ [] := by simp
    rw [List.cons_append, List.map_cons, excess_cons nonempty, ih, signWeight, signWeight]
    split
    · rw [List.length_cons, Nat.mul_add 7 (rest.length + 1), pow_add]
      ring
    · rfl

/-- The groups below the last one are too few to reach its sign. -/
theorem signedSum_bounds {before : Bytes} {last : UInt8} (ends : last < 0x80) :
    -(64 * 128 ^ before.length) ≤ signedSum before last ∧
      signedSum before last < 64 * 128 ^ before.length := by
  have low := groupSum_lt before
  have sum := groupSum_concat before last
  have power (length : Nat) : 2 ^ (7 * length) = 128 ^ length := pow_mul 2 7 length
  have top : 2 ^ (7 * (before.length + 1)) = 128 * 128 ^ before.length := by
    rw [power, pow_succ, Nat.mul_comm]
  have bound : last.toNat < 128 := UInt8.lt_iff_toNat_lt.mp ends
  rw [groupOf_of_ends ends, power] at sum
  rw [power] at low
  rw [signedSum, sum]
  by_cases negative : last.toNat.testBit 6 = true
  · have large := (sign_iff ends).mp negative
    have weight : signWeight (before.length + 1) last = 128 * 128 ^ before.length :=
      (if_pos negative).trans top
    have least := Nat.mul_le_mul_left (128 ^ before.length) large
    have most := Nat.mul_le_mul_left (128 ^ before.length) (Nat.le_of_lt_succ bound)
    rw [weight]
    push_cast
    zify at low least most
    constructor <;> linarith
  · have small : last.toNat ≤ 63 := by
      have := mt (sign_iff ends).mpr negative
      omega
    have weight : signWeight (before.length + 1) last = 0 := if_neg negative
    have most := Nat.mul_le_mul_left (128 ^ before.length) small
    have positive : 0 ≤ (128 : Int) ^ before.length * last.toNat := by positivity
    rw [weight]
    push_cast
    zify at low most
    constructor <;> linarith

/-- Reading stops at the first byte that announces no other one. -/
theorem groups_of_whole {limit : Nat} {before : Bytes} {last : UInt8}
    (whole : Whole before last) (short : before.length < limit) (after : Bytes) :
    groups limit (before ++ last :: after) = .ok ((before ++ [last]).map groupOf, after) := by
  induction before generalizing limit with
  | nil =>
    obtain ⟨limit, rfl⟩ := Nat.exists_eq_add_of_lt short
    rw [List.nil_append, groups, if_pos whole.ends, List.nil_append, List.map_singleton,
      groupOf_of_ends whole.ends]
  | cons byte rest ih =>
    obtain ⟨limit, rfl⟩ := Nat.exists_eq_add_one_of_ne_zero (Nat.ne_zero_of_lt short)
    have parts := whole_cons_iff.mp whole
    have continues : ¬byte < 0x80 := UInt8.not_lt.mpr parts.1
    have others := @ih limit parts.2 (Nat.lt_of_succ_lt_succ short)
    rw [List.cons_append, groups, if_neg continues, others]
    rfl

/-- Why bytes are no number if each of the first ones announces another one. -/
def unended (limit : Nat) (bytes : Bytes) : Fault :=
  if limit ≤ bytes.length then .tooLong (bytes.length - limit) else .endOfInput

theorem unended_cons (limit : Nat) (byte : UInt8) (rest : Bytes) :
    unended (limit + 1) (byte :: rest) = unended limit rest := by
  simp [unended]

theorem groups_of_unended {limit : Nat} {bytes : Bytes}
    (announced : ∀ byte ∈ bytes.take limit, 0x80 ≤ byte) :
    groups limit bytes = .error (unended limit bytes) := by
  induction limit generalizing bytes with
  | zero => rfl
  | succ limit ih =>
    cases bytes with
    | nil => rfl
    | cons byte rest =>
      rw [List.take_succ_cons] at announced
      have continues : ¬byte < 0x80 := UInt8.not_lt.mpr (announced byte List.mem_cons_self)
      have others := ih fun byte member => announced byte (List.mem_cons_of_mem _ member)
      rw [groups, if_neg continues, others, unended_cons]
      rfl

/-- Any bytes either begin with a number of at most so many bytes, or go on for so many. -/
theorem exists_whole_or_announced (limit : Nat) (bytes : Bytes) :
    (∃ before last after, bytes = before ++ last :: after ∧ Whole before last ∧
      before.length < limit) ∨ ∀ byte ∈ bytes.take limit, 0x80 ≤ byte := by
  induction limit generalizing bytes with
  | zero => exact Or.inr (by simp)
  | succ limit ih =>
    cases bytes with
    | nil => exact Or.inr (by simp)
    | cons byte rest =>
      by_cases ends : byte < 0x80
      · exact Or.inl ⟨[], byte, rest, rfl, ⟨by simp, ends⟩, Nat.succ_pos _⟩
      · have announces : 0x80 ≤ byte := UInt8.not_lt.mp ends
        rcases ih rest with ⟨before, last, after, rfl, whole, short⟩ | announced
        · have longer := whole_cons_iff.mpr ⟨announces, whole⟩
          exact Or.inl ⟨byte :: before, last, after, rfl, longer, Nat.succ_lt_succ short⟩
        · apply Or.inr
          rw [List.take_succ_cons]
          exact List.forall_mem_cons.mpr ⟨announces, announced⟩

section whole

variable {before : Bytes} {last : UInt8}

theorem unsigned_of_whole (whole : Whole before last) (short : before.length < 5)
    (after : Bytes) : unsigned (before ++ last :: after) =
      .ok (UInt32.ofNat (groupSum (before ++ [last])), after) := by
  rw [unsigned, groups_of_whole whole short after]
  change Except.ok (UInt32.ofNat (value _), after) = _
  rw [value_map_groupOf]

theorem signed_of_whole (whole : Whole before last) (short : before.length < 5)
    (after : Bytes) : signed (before ++ last :: after) =
      .ok (Int32.ofInt (signedSum before last), after) := by
  rw [signed, groups_of_whole whole short after]
  change Except.ok (Int32.ofInt ((value _ : Nat) - (excess _ : Nat)), after) = _
  rw [value_map_groupOf, excess_map_groupOf whole.ends, signedSum]

end whole

section unended

variable {bytes : Bytes} (announced : ∀ byte ∈ bytes.take 5, 0x80 ≤ byte)
include announced

theorem unsigned_of_unended : unsigned bytes = .error (unended 5 bytes) := by
  rw [unsigned, groups_of_unended announced]
  rfl

theorem signed_of_unended : signed bytes = .error (unended 5 bytes) := by
  rw [signed, groups_of_unended announced]
  rfl

end unended

end DebugTables.Leb128
