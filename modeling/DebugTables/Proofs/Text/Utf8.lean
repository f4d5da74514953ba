import Mathlib
import DebugTables.SourceMap.Token
import DebugTables.SourceMap.WellFormed

/-! What survives of bytes that are read as a text. Every character that was read and is no
replacement stands in the bytes, so bytes without blanks read as a word, and a word is written
without blanks. -/

namespace DebugTables.Utf8

theorem head?_eq_some {bytes : Bytes} {c : Char} (found : head? bytes = some c) :
    ∃ rest, bytes = String.utf8EncodeChar c ++ rest := by
  obtain ⟨rest, same⟩ := ByteArray.exists_of_utf8DecodeChar?_eq_some found
  have taken : bytes.take 4 = String.utf8EncodeChar c ++ rest.data.toList := by
    simpa using congrArg (·.data.toList) same
  refine ⟨rest.data.toList ++ bytes.drop 4, ?_⟩
  rw [← List.append_assoc, ← taken, List.take_append_drop]

/-- A character that was read and is no replacement stands in the bytes as it is written. -/
theorem encodeChar_infix_of_mem_decodeChars {bytes : Bytes} {c : Char}
    (member : c ∈ decodeChars bytes) (known : c ≠ '\uFFFD') :
    String.utf8EncodeChar c <:+: bytes := by
  fun_induction decodeChars bytes with
  | case1 => cases member
  | case2 byte rest first more shape ih =>
    rcases List.mem_cons.mp member with same | later
    · subst same
      unfold next at shape
      split at shape
      · next found =>
        obtain ⟨after, split⟩ := head?_eq_some found
        cases shape
        exact ⟨[], after, split.symm⟩
      · next absent =>
        cases shape
        exact absurd rfl known
    · have inside := (List.drop_suffix more rest).isInfix.trans (List.suffix_cons byte rest).isInfix
      exact (ih later).trans inside

theorem decode_ne_empty {bytes : Bytes} (nonempty : bytes ≠ []) : decode bytes ≠ "" := by
  cases bytes with
  | nil => exact absurd rfl nonempty
  | cons byte rest =>
    intro empty
    have chars := congrArg String.toList empty
    rw [decode, String.toList_ofList, decodeChars] at chars
    cases chars

/-- Bytes that read without a replacement are the bytes of what was read. -/
theorem encode_decode {bytes : Bytes} (exact : '\uFFFD' ∉ (decode bytes).toList) :
    encode (decode bytes) = bytes := by
  rw [decode, String.toList_ofList] at exact
  rw [encode, decode, String.toList_ofList]
  fun_induction decodeChars bytes with
  | case1 => rfl
  | case2 byte rest first more shape ih =>
    simp only [List.mem_cons, not_or] at exact
    rw [List.flatMap_cons, ih exact.2]
    unfold next at shape
    split at shape
    · next found =>
      obtain ⟨after, split⟩ := head?_eq_some found
      cases shape
      have size := String.length_utf8EncodeChar first
      cases written : String.utf8EncodeChar first with
      | nil => exact absurd written String.utf8EncodeChar_ne_nil
      | cons head tail =>
        rw [written] at split size
        rw [List.cons_append, List.cons.injEq] at split
        rw [List.length_cons] at size
        rw [← size, Nat.add_sub_cancel, split.2, List.drop_left, split.1]
        rfl
    · next absent =>
      cases shape
      exact absurd rfl exact.1

theorem encode_join (parts : List String) :
    encode (String.join parts) = parts.flatMap encode := by
  induction parts with
  | nil => decide
  | cons part rest ih =>
    rw [String.join_cons, encode_append, ih, List.flatMap_cons]

/-- A byte of a character's encoding is the character itself or belongs to a longer encoding. -/
theorem ascii_of_mem_encodeChar {c : Char} {byte : UInt8}
    (member : byte ∈ String.utf8EncodeChar c) : 0x80 ≤ byte.toNat ∨ byte.toNat = c.toNat := by
  unfold String.utf8EncodeChar at member
  change byte ∈ ite (c.toNat ≤ 0x7f) _ _ at member
  split at member
  · next small =>
    rw [List.mem_singleton.mp member]
    right
    exact UInt8.toNat_ofNat_of_lt (show c.toNat < 256 by omega)
  · left
    split at member
    · simp at member
      rcases member with rfl | rfl <;> simp <;> omega
    · split at member
      · simp at member
        rcases member with rfl | rfl | rfl <;> simp <;> omega
      · simp at member
        rcases member with rfl | rfl | rfl | rfl <;> simp <;> omega

theorem blank_iff {byte : UInt8} : Token.isBlank byte = true ↔
    byte.toNat = 0x20 ∨ byte.toNat = 0x0D ∨ byte.toNat = 0x0A := by
  simp [Token.isBlank, ← UInt8.toNat_inj, or_assoc]

/-- Solid bytes read as a word. -/
theorem isWord_decode {bytes : Bytes} (nonempty : bytes ≠ [])
    (solid : ∀ byte ∈ bytes, Token.isBlank byte = false) : IsWord (decode bytes) := by
  refine ⟨decode_ne_empty nonempty, ?_⟩
  intro c member
  rw [decode, String.toList_ofList] at member
  have absent (blank : Char) (byte : UInt8) (written : String.utf8EncodeChar blank = [byte])
      (isBlank : Token.isBlank byte = true) (known : blank ≠ '\uFFFD') : c ≠ blank := by
    intro same
    subst same
    have inside := encodeChar_infix_of_mem_decodeChars member known
    rw [written] at inside
    have := solid byte (inside.subset (List.mem_singleton_self byte))
    rw [isBlank] at this
    cases this
  exact ⟨absent ' ' 0x20 (by decide) (by decide) (by decide),
    absent '\r' 0x0D (by decide) (by decide) (by decide),
    absent '\n' 0x0A (by decide) (by decide) (by decide)⟩

/-- The bytes of a word are solid. -/
theorem solid_encode {text : String} (word : IsWord text) :
    encode text ≠ [] ∧ ∀ byte ∈ encode text, Token.isBlank byte = false := by
  refine ⟨?_, ?_⟩
  · intro empty
    apply word.1
    rw [← decode_encode text, empty]
    simp [decode, decodeChars]
  · intro byte member
    obtain ⟨c, inside, written⟩ := List.mem_flatMap.mp member
    obtain ⟨noSpace, noReturn, noFeed⟩ := word.2 c inside
    rw [Bool.eq_false_iff]
    intro blank
    rcases ascii_of_mem_encodeChar written with long | same
    · rcases blank_iff.mp blank with value | value | value <;> omega
    · rcases blank_iff.mp blank with value | value | value
      · exact noSpace (Char.toNat_inj.mp (same.symm.trans value))
      · exact noReturn (Char.toNat_inj.mp (same.symm.trans value))
      · exact noFeed (Char.toNat_inj.mp (same.symm.trans value))

end DebugTables.Utf8
