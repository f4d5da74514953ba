import Mathlib
import DebugTables.Dex.Instruction
import DebugTables.Proofs.Leb128
import DebugTables.Proofs.Reading.Row

/-! Writing encoded debug info. What was read can be written, and what was written reads as itself,
whatever bytes come after it. -/

namespace DebugTables.Dex
open Leb128 (Writable writeOptional writeSigned writeUnsigned)
open Reading (Row row_flatMap)

namespace Instruction

/-- Indices stay below the last word, and a special opcode is none of the named ones. -/
def Encodable : Instruction → Prop
  | .startLocal _ name type signature => Writable name ∧ Writable type ∧ Writable signature
  | .setFile name => Writable name
  | .special opcode => Opcode.ofByte? opcode = none
  | _ => True

def write : Instruction → Bytes
  | .advancePc delta => 1 :: writeUnsigned delta
  | .advanceLine delta => 2 :: writeSigned delta
  | .startLocal register name type signature =>
    4 :: (writeUnsigned register ++ (writeOptional name ++ (writeOptional type ++
      writeOptional signature)))
  | .endLocal register => 5 :: writeUnsigned register
  | .restartLocal register => 6 :: writeUnsigned register
  | .setPrologueEnd => [7]
  | .setEpilogueBegin => [8]
  | .setFile name => 9 :: writeOptional name
  | .special opcode => [opcode]

theorem encodable_of_readStartLocal {extended : Bool} {bytes rest : Bytes} {start : Instruction}
    (found : readStartLocal extended bytes = .ok (start, rest)) : start.Encodable := by
  rcases Reading.bind_eq_ok_iff.mp found with ⟨register, readRegister, found⟩
  rcases Reading.bind_eq_ok_iff.mp found with ⟨⟨name, _⟩, readName, found⟩
  rcases Reading.bind_eq_ok_iff.mp found with ⟨⟨type, _⟩, readType, found⟩
  have name := Leb128.writable_of_optional readName
  have type := Leb128.writable_of_optional readType
  cases extended with
  | false =>
    cases found
    exact ⟨name, type, nofun⟩
  | true =>
    rcases Reading.bind_eq_ok_iff.mp found with ⟨⟨signature, _⟩, readSignature, same⟩
    cases same
    exact ⟨name, type, Leb128.writable_of_optional readSignature⟩

theorem encodable_of_read {bytes rest : Bytes} {instruction : Instruction}
    (found : read bytes = .ok (some instruction, rest)) : instruction.Encodable := by
  unfold read at found
  split at found
  · cases found
  · next byte after =>
    split at found
    · next unnamed => cases found; exact unnamed
    · cases found
    · rcases Reading.bind_eq_ok_iff.mp found with ⟨_, _, same⟩
      cases same
      trivial
    · rcases Reading.bind_eq_ok_iff.mp found with ⟨_, _, same⟩
      cases same
      trivial
    · rcases Reading.bind_eq_ok_iff.mp found with ⟨_, operands, same⟩
      cases same
      exact encodable_of_readStartLocal operands
    · rcases Reading.bind_eq_ok_iff.mp found with ⟨_, operands, same⟩
      cases same
      exact encodable_of_readStartLocal operands
    · rcases Reading.bind_eq_ok_iff.mp found with ⟨_, _, same⟩
      cases same
      trivial
    · rcases Reading.bind_eq_ok_iff.mp found with ⟨_, _, same⟩
      cases same
      trivial
    · cases found; trivial
    · cases found; trivial
    · rcases Reading.bind_eq_ok_iff.mp found with ⟨⟨name, _⟩, operand, same⟩
      cases same
      exact Leb128.writable_of_optional operand

theorem read_write {instruction : Instruction} (encodable : instruction.Encodable) (rest : Bytes) :
    read (instruction.write ++ rest) = .ok (some instruction, rest) := by
  cases instruction with
  | advancePc delta =>
    exact Reading.bind_eq_ok_iff.mpr ⟨_, Leb128.unsigned_writeUnsigned delta rest, rfl⟩
  | advanceLine delta =>
    exact Reading.bind_eq_ok_iff.mpr ⟨_, Leb128.signed_writeSigned delta rest, rfl⟩
  | startLocal register name type signature =>
    rcases encodable with ⟨named, typed, signed⟩
    have operands : readStartLocal true (writeUnsigned register ++ (writeOptional name ++
        (writeOptional type ++ writeOptional signature)) ++ rest) =
          .ok (.startLocal register name type signature, rest) := by
      rw [List.append_assoc, List.append_assoc, List.append_assoc]
      refine Reading.bind_eq_ok_iff.mpr ⟨_, Leb128.unsigned_writeUnsigned register _, ?_⟩
      refine Reading.bind_eq_ok_iff.mpr ⟨_, Leb128.optional_writeOptional named _, ?_⟩
      refine Reading.bind_eq_ok_iff.mpr ⟨_, Leb128.optional_writeOptional typed _, ?_⟩
      exact Reading.bind_eq_ok_iff.mpr ⟨_, Leb128.optional_writeOptional signed rest, rfl⟩
    exact Reading.bind_eq_ok_iff.mpr ⟨_, operands, rfl⟩
  | endLocal register =>
    exact Reading.bind_eq_ok_iff.mpr ⟨_, Leb128.unsigned_writeUnsigned register rest, rfl⟩
  | restartLocal register =>
    exact Reading.bind_eq_ok_iff.mpr ⟨_, Leb128.unsigned_writeUnsigned register rest, rfl⟩
  | setPrologueEnd => rfl
  | setEpilogueBegin => rfl
  | setFile name =>
    exact Reading.bind_eq_ok_iff.mpr ⟨_, Leb128.optional_writeOptional encodable rest, rfl⟩
  | special opcode =>
    have unnamed : Opcode.ofByte? opcode = none := encodable
    rw [write, List.singleton_append, read, unnamed]
    rfl

theorem encodable_of_readAll {bytes rest : Bytes} {instructions : List Instruction}
    (found : readAll bytes = .ok (instructions, rest)) :
    ∀ instruction ∈ instructions, instruction.Encodable := by
  rcases Reading.many_all_eq_ok_iff.mp found with ⟨last, row, -⟩
  exact row.forall_of_item encodable_of_read

theorem readAll_write {instructions : List Instruction}
    (encodable : ∀ instruction ∈ instructions, instruction.Encodable) (rest : Bytes) :
    readAll (instructions.flatMap write ++ 0 :: rest) = .ok (instructions, rest) := by
  apply Reading.many_all_eq_ok_iff.mpr ⟨0 :: rest, _, rfl⟩
  have row := @row_flatMap Instruction Instruction
    (fun start instruction rest => read start = .ok (some instruction, rest)) (fun _ => True)
    write id instructions (0 :: rest) trivial (fun _ => trivial)
    (fun instruction member rest _ => read_write (encodable instruction member) rest)
  rw [List.map_id] at row
  exact row.1

end Instruction

namespace Item

structure Encodable (item : Item) : Prop where
  parameters : item.parameterNames.length < 0x100000000
  names : ∀ name ∈ item.parameterNames, Writable name
  instructions : ∀ instruction ∈ item.instructions, instruction.Encodable

def write (item : Item) : Bytes :=
  writeUnsigned item.lineStart ++ (writeUnsigned (UInt32.ofNat item.parameterNames.length) ++
    (item.parameterNames.flatMap writeOptional ++ (item.instructions.flatMap Instruction.write ++
      [0])))

theorem writable_of_readNames {count : Nat} {bytes rest : Bytes} {names : List (Option UInt32)}
    (found : readNames count bytes = .ok (names, rest)) :
    names.length = count ∧ ∀ name ∈ names, Writable name := by
  induction count generalizing bytes names with
  | zero =>
    cases found
    exact ⟨rfl, nofun⟩
  | succ count ih =>
    rcases Reading.bind_eq_ok_iff.mp found with ⟨⟨name, _⟩, readName, found⟩
    rcases Reading.bind_eq_ok_iff.mp found with ⟨⟨others, _⟩, readOthers, same⟩
    cases same
    rcases ih readOthers with ⟨size, writable⟩
    refine ⟨congrArg Nat.succ size, ?_⟩
    intro other member
    rcases List.mem_cons.mp member with same | member
    · rw [same]
      exact Leb128.writable_of_optional readName
    · exact writable other member

theorem readNames_write {names : List (Option UInt32)} (writable : ∀ name ∈ names, Writable name)
    (rest : Bytes) :
    readNames names.length (names.flatMap writeOptional ++ rest) = .ok (names, rest) := by
  induction names with
  | nil => rfl
  | cons name others ih =>
    have first := Leb128.optional_writeOptional (writable name (List.mem_cons_self ..))
      (others.flatMap writeOptional ++ rest)
    have later := ih fun name member => writable name (List.mem_cons_of_mem _ member)
    rw [List.flatMap_cons, List.append_assoc]
    refine Reading.bind_eq_ok_iff.mpr ⟨_, first, ?_⟩
    exact Reading.bind_eq_ok_iff.mpr ⟨_, later, rfl⟩

theorem encodable_of_read {bytes rest : Bytes} {item : Item}
    (found : read bytes = .ok (item, rest)) : item.Encodable := by
  rcases Reading.bind_eq_ok_iff.mp found with ⟨lineStart, _, found⟩
  rcases Reading.bind_eq_ok_iff.mp found with ⟨⟨count, _⟩, _, found⟩
  rcases Reading.bind_eq_ok_iff.mp found with ⟨⟨names, _⟩, readNames, found⟩
  rcases Reading.bind_eq_ok_iff.mp found with ⟨⟨instructions, _⟩, readInstructions, same⟩
  cases same
  rcases writable_of_readNames readNames with ⟨size, writable⟩
  refine ⟨?_, writable, Instruction.encodable_of_readAll readInstructions⟩
  rw [size]
  exact count.toNat_lt

theorem read_write {item : Item} (encodable : item.Encodable) (rest : Bytes) :
    read (item.write ++ rest) = .ok (item, rest) := by
  have count : (UInt32.ofNat item.parameterNames.length).toNat = item.parameterNames.length :=
    UInt32.toNat_ofNat_of_lt encodable.parameters
  have names := readNames_write encodable.names
    (item.instructions.flatMap Instruction.write ++ 0 :: rest)
  have instructions := Instruction.readAll_write encodable.instructions rest
  rw [← count] at names
  simp only [write, List.append_assoc, List.singleton_append]
  refine Reading.bind_eq_ok_iff.mpr ⟨_, Leb128.unsigned_writeUnsigned _ _, ?_⟩
  refine Reading.bind_eq_ok_iff.mpr ⟨_, Leb128.unsigned_writeUnsigned _ _, ?_⟩
  refine Reading.bind_eq_ok_iff.mpr ⟨_, names, ?_⟩
  exact Reading.bind_eq_ok_iff.mpr ⟨_, instructions, rfl⟩

end Item

end DebugTables.Dex
