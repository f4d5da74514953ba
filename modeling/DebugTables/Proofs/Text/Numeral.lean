import Mathlib
import DebugTables.SourceMap.Token
import DebugTables.Text.Numeral

/-! The bytes of decimal numerals: digits only, at least one, and they stand for the number that was
written. -/

namespace DebugTables.Numeral

theorem digit_bounds {n : Nat} {c : Char} (member : c ∈ Nat.toDigits 10 n) :
    48 ≤ c.toNat ∧ c.toNat ≤ 57 :=
  Char.isDigit_iff_toNat.mp (Nat.isDigit_of_mem_toDigits (by decide) (by decide) member)

theorem encodeChar_digit {n : Nat} {c : Char} (member : c ∈ Nat.toDigits 10 n) :
    String.utf8EncodeChar c = [UInt8.ofNat c.toNat] := by
  have bounds := digit_bounds member
  simp only [String.utf8EncodeChar]
  exact if_pos (show c.toNat ≤ 0x7f by omega)

theorem toNat_digit {n : Nat} {c : Char} (member : c ∈ Nat.toDigits 10 n) :
    (UInt8.ofNat c.toNat).toNat = c.toNat := by
  have bounds := digit_bounds member
  rw [UInt8.toNat_ofNat']
  omega

/-- A numeral has one byte for each of its digits. -/
theorem encode_decimal (n : Nat) :
    Utf8.encode (decimal n) = (Nat.toDigits 10 n).map fun c => UInt8.ofNat c.toNat := by
  rw [Utf8.encode, decimal, String.toList_ofList, List.map_eq_flatMap]
  exact List.flatMap_congr fun c member => encodeChar_digit member

theorem encode_decimal_ne_nil (n : Nat) : Utf8.encode (decimal n) ≠ [] := by
  rw [encode_decimal, Ne, List.map_eq_nil_iff]
  exact Nat.toDigits_ne_nil

theorem isDigit_of_mem_encode_decimal {n : Nat} {byte : UInt8}
    (member : byte ∈ Utf8.encode (decimal n)) : Token.isDigit byte = true := by
  rw [encode_decimal] at member
  obtain ⟨c, inside, rfl⟩ := List.mem_map.mp member
  simp only [Token.isDigit, UInt8.le_iff_toNat_le, Bool.and_eq_true, decide_eq_true_eq,
    toNat_digit inside]
  exact digit_bounds inside

theorem digitsValue_encode_decimal (n : Nat) :
    Token.digitsValue (Utf8.encode (decimal n)) = n := by
  conv_rhs => rw [← @Nat.ofDigitChars_ten_toDigits n]
  rw [encode_decimal, Token.digitsValue, Nat.ofDigitChars_eq_foldl, List.foldl_map]
  apply List.foldl_ext
  intro value c member
  rw [toNat_digit member]
  rfl

end DebugTables.Numeral
