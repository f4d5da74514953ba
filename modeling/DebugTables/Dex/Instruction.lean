import DebugTables.Leb128

/-! Encoded debug info before it is given a meaning: a line to start from, the name indices of the
parameters, and the instructions up to the end of the sequence. -/

namespace DebugTables.Dex

/-- The bytes that name an instruction. All other bytes are instructions of their own. -/
inductive Opcode where
  | endSequence
  | advancePc
  | advanceLine
  | startLocal
  | startLocalExtended
  | endLocal
  | restartLocal
  | setPrologueEnd
  | setEpilogueBegin
  | setFile
  deriving DecidableEq, Repr

def Opcode.ofByte? (byte : UInt8) : Option Opcode :=
  match byte.toNat with
  | 0 => some .endSequence
  | 1 => some .advancePc
  | 2 => some .advanceLine
  | 3 => some .startLocal
  | 4 => some .startLocalExtended
  | 5 => some .endLocal
  | 6 => some .restartLocal
  | 7 => some .setPrologueEnd
  | 8 => some .setEpilogueBegin
  | 9 => some .setFile
  | _ => none

/-- Names and types are indices, and a missing index stands for none. -/
inductive Instruction where
  | advancePc (delta : UInt32)
  | advanceLine (delta : Int32)
  | startLocal (register : UInt32) (name type signature : Option UInt32)
  | endLocal (register : UInt32)
  | restartLocal (register : UInt32)
  | setPrologueEnd
  | setEpilogueBegin
  | setFile (name : Option UInt32)
  | special (opcode : UInt8)
  deriving DecidableEq, Repr

namespace Instruction

/-- How far the instruction moves the line. The special opcodes repeat a cycle of fifteen moves from
-4 on. -/
def lineDelta : Instruction → Int
  | .advanceLine delta => delta.toInt
  | .special opcode => -4 + (opcode.toNat - 10) % 15
  | _ => 0

/-- How far the instruction moves the address. Each cycle of special opcodes moves one unit more. -/
def addressDelta : Instruction → Nat
  | .advancePc delta => delta.toNat
  | .special opcode => (opcode.toNat - 10) / 15
  | _ => 0

def readStartLocal (extended : Bool) (bytes : Bytes) :
    Except Leb128.Fault (Instruction × Bytes) := do
  let (register, rest) ← Leb128.unsigned bytes
  let (name, rest) ← Leb128.optional rest
  let (type, rest) ← Leb128.optional rest
  if extended then
    let (signature, rest) ← Leb128.optional rest
    return (.startLocal register name type signature, rest)
  else return (.startLocal register name type none, rest)

/-- The next instruction, or nothing at the end of the sequence. -/
def read : Reading.Step Leb128.Fault Instruction := fun bytes =>
  match bytes with
  | [] => .error .endOfInput
  | byte :: rest =>
    match Opcode.ofByte? byte with
    | none => return (some (.special byte), rest)
    | some .endSequence => return (none, rest)
    | some .advancePc => do
      let (delta, rest) ← Leb128.unsigned rest
      return (some (.advancePc delta), rest)
    | some .advanceLine => do
      let (delta, rest) ← Leb128.signed rest
      return (some (.advanceLine delta), rest)
    | some .startLocal => do
      let (start, rest) ← readStartLocal false rest
      return (some start, rest)
    | some .startLocalExtended => do
      let (start, rest) ← readStartLocal true rest
      return (some start, rest)
    | some .endLocal => do
      let (register, rest) ← Leb128.unsigned rest
      return (some (.endLocal register), rest)
    | some .restartLocal => do
      let (register, rest) ← Leb128.unsigned rest
      return (some (.restartLocal register), rest)
    | some .setPrologueEnd => return (some .setPrologueEnd, rest)
    | some .setEpilogueBegin => return (some .setEpilogueBegin, rest)
    | some .setFile => do
      let (name, rest) ← Leb128.optional rest
      return (some (.setFile name), rest)

theorem readStartLocal_length_lt {extended : Bool} {bytes rest : Bytes} {start : Instruction}
    (found : readStartLocal extended bytes = .ok (start, rest)) : rest.length < bytes.length := by
  obtain ⟨⟨register, afterRegister⟩, readRegister, found⟩ := Reading.bind_eq_ok_iff.mp found
  obtain ⟨⟨name, afterName⟩, readName, found⟩ := Reading.bind_eq_ok_iff.mp found
  obtain ⟨⟨type, afterType⟩, readType, found⟩ := Reading.bind_eq_ok_iff.mp found
  have := Leb128.unsigned_length_lt readRegister
  have := Leb128.optional_length_lt readName
  have := Leb128.optional_length_lt readType
  cases extended with
  | false => cases found; omega
  | true =>
    obtain ⟨⟨signature, last⟩, readSignature, same⟩ := Reading.bind_eq_ok_iff.mp found
    have := Leb128.optional_length_lt readSignature
    cases same
    omega

theorem read_length_lt {bytes rest : Bytes} {instruction : Option Instruction}
    (found : read bytes = .ok (instruction, rest)) : rest.length < bytes.length := by
  unfold read at found
  split at found
  · cases found
  · next byte after =>
    rw [List.length_cons]
    split at found
    · cases found; omega
    · cases found; omega
    · obtain ⟨⟨_, last⟩, operand, same⟩ := Reading.bind_eq_ok_iff.mp found
      have := Leb128.unsigned_length_lt operand
      cases same; omega
    · obtain ⟨⟨_, last⟩, operand, same⟩ := Reading.bind_eq_ok_iff.mp found
      have := Leb128.signed_length_lt operand
      cases same; omega
    · obtain ⟨⟨_, last⟩, operand, same⟩ := Reading.bind_eq_ok_iff.mp found
      have := readStartLocal_length_lt operand
      cases same; omega
    · obtain ⟨⟨_, last⟩, operand, same⟩ := Reading.bind_eq_ok_iff.mp found
      have := readStartLocal_length_lt operand
      cases same; omega
    · obtain ⟨⟨_, last⟩, operand, same⟩ := Reading.bind_eq_ok_iff.mp found
      have := Leb128.unsigned_length_lt operand
      cases same; omega
    · obtain ⟨⟨_, last⟩, operand, same⟩ := Reading.bind_eq_ok_iff.mp found
      have := Leb128.unsigned_length_lt operand
      cases same; omega
    · cases found; omega
    · cases found; omega
    · obtain ⟨⟨_, last⟩, operand, same⟩ := Reading.bind_eq_ok_iff.mp found
      have := Leb128.optional_length_lt operand
      cases same; omega

theorem read_shrinks : Reading.Shrinks read where
  item := read_length_lt
  stop := fun found => Nat.le_of_lt (read_length_lt found)

/-- The instructions up to the end of the sequence. -/
def readAll (bytes : Bytes) : Except Leb128.Fault (List Instruction × Bytes) :=
  (Reading.many read read_shrinks bytes).all

end Instruction

/-- Encoded debug info, its indices still to be looked up. -/
structure Item where
  lineStart : UInt32
  parameterNames : List (Option UInt32)
  instructions : List Instruction
  deriving DecidableEq, Repr

namespace Item

def readNames : Nat → Bytes → Except Leb128.Fault (List (Option UInt32) × Bytes)
  | 0, rest => .ok ([], rest)
  | count + 1, bytes => do
    let (name, rest) ← Leb128.optional bytes
    let (others, rest) ← readNames count rest
    return (name :: others, rest)

def read (bytes : Bytes) : Except Leb128.Fault (Item × Bytes) := do
  let (lineStart, rest) ← Leb128.unsigned bytes
  let (count, rest) ← Leb128.unsigned rest
  let (parameterNames, rest) ← readNames count.toNat rest
  let (instructions, rest) ← Instruction.readAll rest
  return (⟨lineStart, parameterNames, instructions⟩, rest)

end Item

end DebugTables.Dex
