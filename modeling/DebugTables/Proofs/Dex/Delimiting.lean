import Mathlib
import DebugTables.Proofs.Dex.Execution
import DebugTables.Proofs.Leb128

/-! Where encoded debug info ends. Its syntax is read to the end before an index is looked up or an
instruction executed, and the syntax itself says where that end is. So debug info that is cut off is
truncated at the cut, and bytes after its end make no difference. -/

namespace DebugTables.Dex
open Leb128 (selfDelimiting_optional selfDelimiting_signed selfDelimiting_unsigned)
open Reading (SelfDelimiting selfDelimiting_many selfDelimiting_ok)

namespace Instruction

theorem selfDelimiting_readStartLocal (extended : Bool) :
    SelfDelimiting .endOfInput (readStartLocal extended) := by
  refine selfDelimiting_unsigned.bind fun register => ?_
  refine selfDelimiting_optional.bind fun name => ?_
  refine selfDelimiting_optional.bind fun type => ?_
  cases extended with
  | false => exact selfDelimiting_ok _ (startLocal register name type none)
  | true =>
    exact selfDelimiting_optional.bind fun signature =>
      selfDelimiting_ok _ (startLocal register name type signature)

theorem selfDelimiting_read : SelfDelimiting .endOfInput read := by
  refine SelfDelimiting.cons (show read [] = _ from rfl) ?_
  intro byte
  simp only [read]
  cases Opcode.ofByte? byte with
  | none => exact selfDelimiting_ok _ (some (special byte))
  | some opcode =>
    cases opcode with
    | endSequence => exact selfDelimiting_ok _ none
    | advancePc =>
      exact selfDelimiting_unsigned.bind fun delta => selfDelimiting_ok _ (some (advancePc delta))
    | advanceLine =>
      exact selfDelimiting_signed.bind fun delta => selfDelimiting_ok _ (some (advanceLine delta))
    | startLocal =>
      exact (selfDelimiting_readStartLocal false).bind fun start => selfDelimiting_ok _ (some start)
    | startLocalExtended =>
      exact (selfDelimiting_readStartLocal true).bind fun start => selfDelimiting_ok _ (some start)
    | endLocal =>
      exact selfDelimiting_unsigned.bind fun register =>
        selfDelimiting_ok _ (some (endLocal register))
    | restartLocal =>
      exact selfDelimiting_unsigned.bind fun register =>
        selfDelimiting_ok _ (some (restartLocal register))
    | setPrologueEnd => exact selfDelimiting_ok _ (some setPrologueEnd)
    | setEpilogueBegin => exact selfDelimiting_ok _ (some setEpilogueBegin)
    | setFile =>
      exact selfDelimiting_optional.bind fun name => selfDelimiting_ok _ (some (setFile name))

theorem selfDelimiting_readAll : SelfDelimiting .endOfInput readAll :=
  selfDelimiting_many selfDelimiting_read

end Instruction

namespace Item

theorem selfDelimiting_readNames (count : Nat) : SelfDelimiting .endOfInput (readNames count) := by
  induction count with
  | zero => exact selfDelimiting_ok _ []
  | succ count ih =>
    refine selfDelimiting_optional.bind fun name => ?_
    exact ih.bind fun others => selfDelimiting_ok _ (name :: others)

theorem selfDelimiting_read : SelfDelimiting .endOfInput read := by
  refine selfDelimiting_unsigned.bind fun lineStart => ?_
  refine selfDelimiting_unsigned.bind fun count => ?_
  refine (selfDelimiting_readNames count.toNat).bind fun names => ?_
  exact Instruction.selfDelimiting_readAll.bind fun instructions =>
    selfDelimiting_ok _ (mk lineStart names instructions)

end Item

namespace DebugInfo

variable {pools : Pools} {bytes : Bytes}

/-- What stops the syntax is reported as truncation, so bytes that are not truncated have it all. -/
theorem exists_item_of_complete
    (complete : ∀ offset, decode pools bytes ≠ .error (.truncated offset)) :
    ∃ item rest, Item.read bytes = .ok (item, rest) := by
  cases read : Item.read bytes with
  | ok result => exact ⟨result.1, result.2, rfl⟩
  | error fault =>
    have truncated : decode pools bytes = .error (.truncated (bytes.length - fault.left)) := by
      rw [decode, read]
    exact absurd truncated (complete _)

theorem decode_of_end (read : Item.read bytes = .error .endOfInput) :
    decode pools bytes = .error (.truncated bytes.length) := by
  rw [decode, read]
  rfl

/-- Debug info ends where its own bytes say. If it is not truncated, it is truncated at the cut
wherever it is cut off before some point, and past that point any bytes may follow. -/
theorem decode_self_delimiting (pools : Pools) (bytes : Bytes)
    (complete : ∀ offset, decode pools bytes ≠ .error (.truncated offset)) :
    ∃ size ≤ bytes.length,
      (∀ cut < size, decode pools (bytes.take cut) = .error (.truncated cut)) ∧
      ∀ tail, decode pools (bytes.take size ++ tail) = decode pools bytes := by
  obtain ⟨item, rest, read⟩ := exists_item_of_complete complete
  obtain ⟨part, split, delimits⟩ := Item.selfDelimiting_read bytes rest item read
  have whole : bytes.take part.length = part := by rw [split, List.take_left]
  refine ⟨part.length, by rw [split, List.length_append]; exact Nat.le_add_right .., ?_, ?_⟩
  · intro cut shorter
    have start : bytes.take cut = part.take cut := by
      rw [split, List.take_append_of_le_length shorter.le]
    have missing : part.drop cut ≠ [] := by
      rw [Ne, List.drop_eq_nil_iff]
      omega
    have ended := delimits.cut (part.take cut) _ (List.take_append_drop cut part).symm missing
    rw [start, decode_of_end ended, List.length_take_of_le shorter.le]
  · intro tail
    rw [whole, decode_of_read (delimits.whole tail), decode_of_read read]

/-- A type that the pools do not have, and a byte after the end. -/
theorem decode_self_delimiting_misindexed :
    let pools : Pools := ⟨["x"], []⟩
    let bytes : Bytes := [0x80, 0x01, 0x00, 0x03, 0x00, 0x01, 0x05, 0x00, 0xFF]
    (∀ offset, decode pools bytes ≠ .error (.truncated offset)) ∧
      ∃ size ≤ 9, (∀ cut < size, decode pools (bytes.take cut) = .error (.truncated cut)) ∧
        ∀ tail, decode pools (bytes.take size ++ tail) = .error (.typeIndex 4) := by
  intro pools bytes
  have found : decode pools bytes = .error (.typeIndex 4) := by cbv
  have complete (offset : Nat) : decode pools bytes ≠ .error (.truncated offset) := by
    simp [found]
  obtain ⟨size, bound, cut, longer⟩ := decode_self_delimiting pools bytes complete
  exact ⟨complete, size, bound, cut, fun tail => found ▸ longer tail⟩

end DebugInfo

end DebugTables.Dex
