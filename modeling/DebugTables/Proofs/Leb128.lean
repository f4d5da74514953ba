import Mathlib
import DebugTables.Leb128
import DebugTables.Proofs.Reading.Delimited

/-! Shortest encodings, and that reading takes them back. A number is cut into groups of seven bits
until the rest is one group; a signed number until the rest has its sign in the top bit of the
group. The bytes of a number say where it ends. -/

namespace DebugTables.Leb128
open Reading (SelfDelimiting selfDelimiting_ok)

/-- The bytes of groups: all but the last say that another one follows. -/
def bytesOf : List Nat → Bytes
  | [] => []
  | [last] => [UInt8.ofNat last]
  | group :: more => UInt8.ofNat (group + 128) :: bytesOf more

def unsignedGroups (n : Nat) : List Nat :=
  if n < 128 then [n] else n % 128 :: unsignedGroups (n / 128)

def signedGroups (n : Int) : List Nat :=
  if -64 ≤ n ∧ n < 64 then [(n % 128).toNat] else (n % 128).toNat :: signedGroups (n / 128)
termination_by n.natAbs

def writeUnsigned (number : UInt32) : Bytes :=
  bytesOf (unsignedGroups number.toNat)

def writeSigned (number : Int32) : Bytes :=
  bytesOf (signedGroups number.toInt)

/-- A missing number is written as zero, all others as the number after them. -/
def writeOptional : Option UInt32 → Bytes
  | none => writeUnsigned 0
  | some number => writeUnsigned (number + 1)

section bytes

variable {group : Nat} (bound : group < 128)
include bound

theorem toNat_lastByte : (UInt8.ofNat group).toNat = group :=
  UInt8.toNat_ofNat_of_lt (show group < 256 by omega)

theorem toNat_announcingByte : (UInt8.ofNat (group + 128)).toNat = group + 128 :=
  UInt8.toNat_ofNat_of_lt (show group + 128 < 256 by omega)

theorem lastByte_lt : UInt8.ofNat group < 0x80 := by
  rw [UInt8.lt_iff_toNat_lt, toNat_lastByte bound]
  exact bound

theorem le_announcingByte : 0x80 ≤ UInt8.ofNat (group + 128) := by
  rw [UInt8.le_iff_toNat_le, toNat_announcingByte bound]
  exact Nat.le_add_left ..

theorem announcingByte_mod : (UInt8.ofNat (group + 128)).toNat % 128 = group := by
  rw [toNat_announcingByte bound]
  omega

end bytes

/-- Groups are read back if they are groups, and not too many. -/
theorem groups_bytesOf {limit : Nat} {number : List Nat} (rest : Bytes) (nonempty : number ≠ [])
    (small : ∀ group ∈ number, group < 128) (short : number.length ≤ limit) :
    groups limit (bytesOf number ++ rest) = .ok (number, rest) := by
  induction number generalizing limit with
  | nil => exact absurd rfl nonempty
  | cons group more ih =>
    have bound := small group (List.mem_cons_self ..)
    cases limit with
    | zero => simp at short
    | succ limit =>
      cases more with
      | nil =>
        rw [bytesOf, List.singleton_append, groups, if_pos (lastByte_lt bound),
          toNat_lastByte bound]
      | cons next others =>
        have continues : ¬UInt8.ofNat (group + 128) < 0x80 :=
          UInt8.not_lt.mpr (le_announcingByte bound)
        have others := ih (List.cons_ne_nil _ _)
          (fun group member => small group (List.mem_cons_of_mem _ member))
          (Nat.le_of_succ_le_succ short)
        rw [bytesOf, List.cons_append, groups, if_neg continues, others]
        · change Except.ok (_ % 128 :: _, rest) = _
          rw [announcingByte_mod bound]
        · exact List.cons_ne_nil _ _

theorem unsignedGroups_ne_nil (n : Nat) : unsignedGroups n ≠ [] := by
  rw [unsignedGroups]
  split <;> exact List.cons_ne_nil _ _

theorem unsignedGroups_lt (n : Nat) : ∀ group ∈ unsignedGroups n, group < 128 := by
  fun_induction unsignedGroups n with
  | case1 n small => simpa using small
  | case2 n large ih =>
    intro group member
    rcases List.mem_cons.mp member with same | later
    · omega
    · exact ih group later

theorem value_unsignedGroups (n : Nat) : value (unsignedGroups n) = n := by
  fun_induction unsignedGroups n with
  | case1 n small => rfl
  | case2 n large ih =>
    rw [value, ih]
    omega

theorem unsignedGroups_length_le {limit n : Nat} (fits : n < 128 ^ (limit + 1)) :
    (unsignedGroups n).length ≤ limit + 1 := by
  fun_induction unsignedGroups n generalizing limit with
  | case1 n small => simp
  | case2 n large ih =>
    cases limit with
    | zero => simp at fits; omega
    | succ limit =>
      rw [pow_succ] at fits
      have := @ih limit (Nat.div_lt_of_lt_mul (by omega))
      simpa using this

theorem signedGroups_ne_nil (n : Int) : signedGroups n ≠ [] := by
  rw [signedGroups]
  split <;> exact List.cons_ne_nil _ _

theorem signedGroups_lt (n : Int) : ∀ group ∈ signedGroups n, group < 128 := by
  fun_induction signedGroups n with
  | case1 n small => simp; omega
  | case2 n large ih =>
    intro group member
    rcases List.mem_cons.mp member with same | later
    · omega
    · exact ih group later

theorem excess_cons {group : Nat} {more : List Nat} (nonempty : more ≠ []) :
    excess (group :: more) = 128 * excess more := by
  cases more with
  | nil => exact absurd rfl nonempty
  | cons next others => rw [excess]; exact List.cons_ne_nil _ _

theorem value_signedGroups (n : Int) :
    (value (signedGroups n) : Int) - excess (signedGroups n) = n := by
  fun_induction signedGroups n with
  | case1 n small =>
    rw [value, value, excess]
    split <;> omega
  | case2 n large ih =>
    rw [value, excess_cons (signedGroups_ne_nil _)]
    push_cast
    omega

theorem signedGroups_length_le {limit : Nat} {n : Int} (lower : -(64 * 128 ^ limit) ≤ n)
    (upper : n < 64 * 128 ^ limit) : (signedGroups n).length ≤ limit + 1 := by
  fun_induction signedGroups n generalizing limit with
  | case1 n small => simp
  | case2 n large ih =>
    cases limit with
    | zero => simp at lower upper; omega
    | succ limit =>
      rw [pow_succ] at lower upper
      have := @ih limit (by omega) (by omega)
      simpa using this

/-- The groups of a word are not too many for the readers. -/
theorem unsignedGroups_toNat_length_le (number : UInt32) :
    (unsignedGroups number.toNat).length ≤ 5 := by
  have bound := number.toNat_lt
  exact unsignedGroups_length_le (show number.toNat < 128 ^ (4 + 1) by omega)

theorem signedGroups_toInt_length_le (number : Int32) :
    (signedGroups number.toInt).length ≤ 5 := by
  have lower := number.le_toInt
  have upper := number.toInt_lt
  exact @signedGroups_length_le 4 number.toInt (by omega) (by omega)

theorem unsigned_writeUnsigned (number : UInt32) (rest : Bytes) :
    unsigned (writeUnsigned number ++ rest) = .ok (number, rest) := by
  have read := groups_bytesOf rest (unsignedGroups_ne_nil _) (unsignedGroups_lt _)
    (unsignedGroups_toNat_length_le number)
  rw [unsigned, writeUnsigned, read]
  change Except.ok (UInt32.ofNat (value _), rest) = _
  rw [value_unsignedGroups, UInt32.ofNat_toNat]

theorem signed_writeSigned (number : Int32) (rest : Bytes) :
    signed (writeSigned number ++ rest) = .ok (number, rest) := by
  have read := groups_bytesOf rest (signedGroups_ne_nil _) (signedGroups_lt _)
    (signedGroups_toInt_length_le number)
  rw [signed, writeSigned, read]
  change Except.ok (Int32.ofInt (_ - _), rest) = _
  rw [value_signedGroups, Int32.ofInt_toInt]

/-- The last word has none after it. -/
def Writable (number : Option UInt32) : Prop :=
  ∀ word ∈ number, word.toNat < 0xFFFFFFFF

theorem optional_writeOptional {number : Option UInt32} (writable : Writable number)
    (rest : Bytes) : optional (writeOptional number ++ rest) = .ok (number, rest) := by
  cases number with
  | none =>
    rw [optional, writeOptional, unsigned_writeUnsigned]
    rfl
  | some word =>
    have bound := writable word rfl
    have next : (word + 1).toNat = word.toNat + 1 := by
      rw [UInt32.toNat_add]
      exact Nat.mod_eq_of_lt (by simp; omega)
    have positive : word + 1 ≠ 0 := by
      intro zero
      rw [zero] at next
      simp at next
    rw [optional, writeOptional, unsigned_writeUnsigned]
    change Except.ok (ite (word + 1 = 0) _ _, rest) = _
    rw [if_neg positive, UInt32.add_sub_cancel]

theorem writable_of_optional {bytes rest : Bytes} {number : Option UInt32}
    (read : optional bytes = .ok (number, rest)) : Writable number := by
  rcases Reading.bind_eq_ok_iff.mp read with ⟨⟨found, final⟩, -, same⟩
  cases same
  intro word present
  split at present
  · cases present
  · next positive =>
    cases present
    have bound := found.toNat_lt
    have nonzero : found.toNat ≠ 0 := by
      intro zero
      exact positive (UInt32.toNat_inj.mp zero)
    rw [UInt32.toNat_sub_of_le _ _ (by rw [UInt32.le_iff_toNat_le]; simp; omega)]
    simp
    omega

theorem selfDelimiting_groups (limit : Nat) : SelfDelimiting .endOfInput (groups limit) := by
  induction limit with
  | zero =>
    intro start rest number read
    cases read
  | succ limit ih =>
    refine SelfDelimiting.cons (show groups (limit + 1) [] = _ from rfl) ?_
    intro byte
    by_cases last : byte < 0x80
    · simp only [groups, if_pos last]
      exact selfDelimiting_ok _ [byte.toNat]
    · simp only [groups, if_neg last]
      exact ih.bind fun more => selfDelimiting_ok _ (byte.toNat % 128 :: more)

theorem selfDelimiting_unsigned : SelfDelimiting .endOfInput unsigned :=
  (selfDelimiting_groups 5).bind fun number => selfDelimiting_ok _ (UInt32.ofNat (value number))

theorem selfDelimiting_signed : SelfDelimiting .endOfInput signed :=
  (selfDelimiting_groups 5).bind fun number =>
    selfDelimiting_ok _ (Int32.ofInt (value number - excess number))

theorem selfDelimiting_optional : SelfDelimiting .endOfInput optional :=
  selfDelimiting_unsigned.bind fun number =>
    selfDelimiting_ok _ (if number = 0 then none else some (number - 1))

end DebugTables.Leb128
