import DebugTables.Text.Utf8

/-! The smallest parts of a source map's text: words, numbers and marks. Each takes the blanks after
it along, so the next part starts right where the rest starts. -/

namespace DebugTables.Token

/-- Space, carriage return and line feed. -/
def isBlank (byte : UInt8) : Bool :=
  byte = 0x20 || byte = 0x0D || byte = 0x0A

def isDigit (byte : UInt8) : Bool :=
  0x30 ≤ byte && byte ≤ 0x39

def skipBlanks (bytes : Bytes) : Bytes :=
  bytes.dropWhile isBlank

/-- A longest run of other bytes than blanks. -/
def word? (bytes : Bytes) : Option (Bytes × Bytes) :=
  let word := bytes.takeWhile (!isBlank ·)
  if word = [] then none else some (word, skipBlanks (bytes.drop word.length))

/-- A word as a text. -/
def name? (bytes : Bytes) : Option (String × Bytes) :=
  (word? bytes).map fun (word, rest) => (Utf8.decode word, rest)

/-- The number that decimal digits stand for. -/
def digitsValue (digits : Bytes) : Nat :=
  digits.foldl (fun value digit => 10 * value + (digit.toNat - 0x30)) 0

/-- A longest run of digits, unless it is too large for a 32-bit word. -/
def number? (bytes : Bytes) : Option (UInt32 × Bytes) :=
  let digits := bytes.takeWhile isDigit
  if digits = [] then none
  else (Word.ofNat? (digitsValue digits)).map fun value =>
    (value, skipBlanks (bytes.drop digits.length))

/-- The given bytes, one for one. -/
def mark? (mark bytes : Bytes) : Option Bytes :=
  if mark <+: bytes then some (skipBlanks (bytes.drop mark.length)) else none

theorem skipBlanks_length_le (bytes : Bytes) : (skipBlanks bytes).length ≤ bytes.length :=
  (List.dropWhile_suffix isBlank).length_le

theorem skipBlanks_drop_length_le (n : Nat) (bytes : Bytes) :
    (skipBlanks (bytes.drop n)).length ≤ bytes.length - n := by
  have := skipBlanks_length_le (bytes.drop n)
  rwa [List.length_drop] at this

private theorem run_length_pos {p : UInt8 → Bool} {bytes : Bytes} (found : bytes.takeWhile p ≠ []) :
    0 < (bytes.takeWhile p).length ∧ (bytes.takeWhile p).length ≤ bytes.length :=
  ⟨List.length_pos_iff.mpr found, (List.takeWhile_sublist p).length_le⟩

theorem word?_length_lt {bytes word rest : Bytes} (read : word? bytes = some (word, rest)) :
    rest.length < bytes.length := by
  simp only [word?] at read
  split at read
  · simp at read
  · next found =>
    simp only [Option.some.injEq, Prod.mk.injEq] at read
    have bounds := run_length_pos found
    have := skipBlanks_drop_length_le (bytes.takeWhile (!isBlank ·)).length bytes
    rw [← read.2]
    omega

theorem name?_length_lt {bytes rest : Bytes} {name : String}
    (read : name? bytes = some (name, rest)) : rest.length < bytes.length := by
  obtain ⟨⟨word, after⟩, found, same⟩ := Option.map_eq_some_iff.mp read
  simp only [Prod.mk.injEq] at same
  exact same.2 ▸ word?_length_lt found

theorem number?_length_lt {bytes rest : Bytes} {value : UInt32}
    (read : number? bytes = some (value, rest)) : rest.length < bytes.length := by
  simp only [number?] at read
  split at read
  · simp at read
  · next found =>
    obtain ⟨value, _, same⟩ := Option.map_eq_some_iff.mp read
    simp only [Prod.mk.injEq] at same
    have bounds := run_length_pos found
    have := skipBlanks_drop_length_le (bytes.takeWhile isDigit).length bytes
    rw [← same.2]
    omega

theorem mark?_length_le {mark bytes rest : Bytes} (read : mark? mark bytes = some rest) :
    rest.length + mark.length ≤ bytes.length := by
  unfold mark? at read
  split at read
  · next starts =>
    have shorter := starts.length_le
    have := skipBlanks_drop_length_le mark.length bytes
    rw [← Option.some.inj read]
    omega
  · simp at read

end DebugTables.Token
