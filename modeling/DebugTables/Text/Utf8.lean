import DebugTables.Word

/-! UTF-8 bytes of a text, and the text of arbitrary bytes. Bytes that are no UTF-8 still read as a
text: each maximal start of a sequence that breaks off gives one replacement character. What was
written from a text reads back as that text. -/

namespace DebugTables.Utf8

def encode (text : String) : Bytes :=
  text.toList.flatMap String.utf8EncodeChar

/-- The character whose encoding the bytes start with. -/
def head? (bytes : Bytes) : Option Char :=
  (bytes.take 4).toByteArray.utf8DecodeChar? 0

def isContinuation (byte : UInt8) : Bool :=
  0x80 ≤ byte && byte ≤ 0xBF

/-- Whether some character's encoding of three or four bytes starts with `lead` and `second`. -/
def opens (lead second : UInt8) : Bool :=
  if lead = 0xE0 then 0xA0 ≤ second && second ≤ 0xBF
  else if lead = 0xED then 0x80 ≤ second && second ≤ 0x9F
  else if lead = 0xF0 then 0x90 ≤ second && second ≤ 0xBF
  else if lead = 0xF4 then 0x80 ≤ second && second ≤ 0x8F
  else 0xE0 ≤ lead && lead ≤ 0xF4 && isContinuation second

/-- How many bytes one replacement character stands for, where the bytes start with no encoding: as
many as begin some encoding, and at least one. -/
def brokenLength : Bytes → Nat
  | lead :: second :: rest =>
    if opens lead second then
      match rest with
      | third :: _ => if 0xF0 ≤ lead && isContinuation third then 3 else 2
      | [] => 2
    else 1
  | _ => 1

/-- The first character of non-empty bytes and the number of bytes after the first that belong to
it. -/
def next (bytes : Bytes) : Char × Nat :=
  match head? bytes with
  | some c => (c, c.utf8Size - 1)
  | none => ('\uFFFD', brokenLength bytes - 1)

def decodeChars : Bytes → List Char
  | [] => []
  | byte :: rest =>
    let (c, more) := next (byte :: rest)
    c :: decodeChars (rest.drop more)
termination_by bytes => bytes.length
decreasing_by simp only [List.length_drop, List.length_cons]; omega

/-- The text of the bytes, with replacement characters where they are no UTF-8. -/
def decode (bytes : Bytes) : String :=
  String.ofList (decodeChars bytes)

@[simp] theorem encode_append (first second : String) :
    encode (first ++ second) = encode first ++ encode second := by
  simp [encode]

theorem head?_encodeChar (c : Char) (rest : Bytes) :
    head? (String.utf8EncodeChar c ++ rest) = some c := by
  have small : (String.utf8EncodeChar c).length ≤ 4 := by
    rw [String.length_utf8EncodeChar]
    exact c.utf8Size_le_four
  rw [head?, List.take_append, List.take_of_length_le small, List.toByteArray_append]
  exact ByteArray.utf8DecodeChar?_utf8EncodeChar_append

theorem decodeChars_encode (chars : List Char) :
    decodeChars (chars.flatMap String.utf8EncodeChar) = chars := by
  induction chars with
  | nil => simp [decodeChars]
  | cons c rest ih =>
    have size : (String.utf8EncodeChar c).length = c.utf8Size := String.length_utf8EncodeChar c
    have read := head?_encodeChar c (rest.flatMap String.utf8EncodeChar)
    rw [List.flatMap_cons]
    match bytes : String.utf8EncodeChar c with
    | [] =>
      have positive := c.utf8Size_pos
      rw [bytes] at size
      simp at size
      omega
    | byte :: more =>
      rw [bytes] at size read
      rw [List.cons_append, decodeChars]
      have shape :
          next (byte :: (more ++ rest.flatMap String.utf8EncodeChar)) = (c, more.length) := by
        rw [List.cons_append] at read
        rw [next, read]
        simp at size
        simp [← size]
      rw [shape]
      simp [ih]

/-- What was written from a text reads back as that text. -/
theorem decode_encode (text : String) : decode (encode text) = text := by
  rw [decode, encode, decodeChars_encode, String.ofList_toList]

end DebugTables.Utf8
