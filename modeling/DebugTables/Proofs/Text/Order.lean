import Mathlib
import DebugTables.Text.Utf8

/-! Texts and their bytes come in the same order. A character with more bytes has a greater first
byte, and characters with equally many bytes differ first in the bits that weigh most. -/

namespace DebugTables.Utf8

/-- The bytes of a character after the first one: six bits each, the lowest bits last. -/
def continuation : Nat → Nat → Bytes
  | 0, _ => []
  | more + 1, value => continuation more (value / 64) ++ [.ofNat (value % 64 + 128)]

/-- How many bytes follow the first byte of a character, and what is added to its highest bits to
make the first byte. -/
inductive Form : Nat → Nat → Nat → Prop where
  | one {value : Nat} (fits : value < 0x80) : Form 0 0 value
  | two {value : Nat} (needs : 0x80 ≤ value) (fits : value < 0x800) : Form 1 0xC0 value
  | three {value : Nat} (needs : 0x800 ≤ value) (fits : value < 0x10000) : Form 2 0xE0 value
  | four {value : Nat} (needs : 0x10000 ≤ value) (fits : value < 0x110000) : Form 3 0xF0 value

theorem exists_form (c : Char) : ∃ more base, Form more base c.toNat ∧
    String.utf8EncodeChar c =
      .ofNat (c.toNat / 64 ^ more + base) :: continuation more c.toNat := by
  have bound : c.toNat ≤ 0x10FFFF := c.toNat_le_max
  simp only [String.utf8EncodeChar, Char.toNat_val]
  split
  · exact ⟨0, 0, .one (by omega), by simp [continuation]⟩
  · split
    · have top : c.toNat / 64 < 32 := by omega
      refine ⟨1, 0xC0, .two (by omega) (by omega), ?_⟩
      simp [continuation, Nat.mod_eq_of_lt top]
    · split
      · have top : c.toNat / 4096 < 16 := by omega
        refine ⟨2, 0xE0, .three (by omega) (by omega), ?_⟩
        simp [continuation, Nat.mod_eq_of_lt top]
      · have top : c.toNat / 262144 < 8 := by omega
        refine ⟨3, 0xF0, .four (by omega) (by omega), ?_⟩
        simp [continuation, Nat.mod_eq_of_lt top, Nat.div_div_eq_div_mul]

theorem Form.first_lt {more base value : Nat} (form : Form more base value) :
    value / 64 ^ more + base < 256 := by
  cases form <;> omega

/-- The smaller of two characters with different numbers of bytes has the smaller first byte. -/
theorem Form.apart {more base value longer high larger : Nat} (form : Form more base value)
    (other : Form longer high larger) (less : value < larger) :
    value / 64 ^ more + base < larger / 64 ^ longer + high ∨ more = longer ∧ base = high := by
  cases form <;> cases other <;> omega

theorem ofNat_cons_lt {m n : Nat} {rest other : Bytes} (bound : n < 256)
    (less : m < n ∨ m = n ∧ rest < other) : UInt8.ofNat m :: rest < UInt8.ofNat n :: other := by
  rw [List.cons_lt_cons_iff]
  rcases less with less | less
  · left
    rw [UInt8.lt_iff_toNat_lt, UInt8.toNat_ofNat_of_lt' (less.trans bound),
      UInt8.toNat_ofNat_of_lt' bound]
    exact less
  · exact Or.inr ⟨congrArg UInt8.ofNat less.1, less.2⟩

theorem continuation_lt {more m n : Nat} (less : m < n) (rest other : Bytes) :
    m / 64 ^ more < n / 64 ^ more ∨ m / 64 ^ more = n / 64 ^ more ∧
      continuation more m ++ rest < continuation more n ++ other := by
  induction more generalizing m n rest other with
  | zero => simp [less]
  | succ more ih =>
    have digits : m / 64 < n / 64 ∨ m / 64 = n / 64 ∧ m % 64 < n % 64 := by omega
    rw [Nat.pow_succ', ← Nat.div_div_eq_div_mul, ← Nat.div_div_eq_div_mul, continuation,
      continuation, List.append_assoc, List.append_assoc]
    rcases digits with higher | same
    · exact ih higher _ _
    · rw [same.1]
      have last : m % 64 + 128 < n % 64 + 128 := by omega
      exact Or.inr ⟨rfl, List.append_left_lt (ofNat_cons_lt (by omega) (Or.inl last))⟩

theorem encodeChar_lt {c d : Char} (less : c < d) (rest other : Bytes) :
    String.utf8EncodeChar c ++ rest < String.utf8EncodeChar d ++ other := by
  have less : c.toNat < d.toNat := less
  obtain ⟨more, base, form, written⟩ := exists_form c
  obtain ⟨longer, high, larger, writtenOther⟩ := exists_form d
  rw [written, writtenOther, List.cons_append, List.cons_append]
  apply ofNat_cons_lt larger.first_lt
  rcases form.apart larger less with first | ⟨rfl, rfl⟩
  · exact Or.inl first
  · rcases @continuation_lt more _ _ less rest other with higher | ⟨level, lower⟩
    · exact Or.inl (Nat.add_lt_add_right higher base)
    · exact Or.inr ⟨congrArg (· + base) level, lower⟩

theorem encodeChars_lt {chars others : List Char} (less : chars < others) :
    chars.flatMap String.utf8EncodeChar < others.flatMap String.utf8EncodeChar := by
  induction chars generalizing others with
  | nil =>
    cases others with
    | nil => exact absurd less (List.lt_irrefl _)
    | cons d others =>
      cases written : String.utf8EncodeChar d with
      | nil => exact absurd written String.utf8EncodeChar_ne_nil
      | cons byte more =>
        rw [List.flatMap_cons, written]
        exact List.nil_lt_cons ..
  | cons c chars ih =>
    cases others with
    | nil => exact absurd less (List.not_lt_nil _)
    | cons d others =>
      rw [List.flatMap_cons, List.flatMap_cons]
      rcases List.cons_lt_cons_iff.mp less with first | ⟨rfl, rest⟩
      · exact encodeChar_lt first _ _
      · exact List.append_left_lt (ih rest)

theorem encode_lt {first second : String} (less : first < second) :
    encode first < encode second :=
  encodeChars_lt (String.lt_iff_toList_lt.mp less)

end DebugTables.Utf8
