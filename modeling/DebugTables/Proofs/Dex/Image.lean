import Mathlib
import DebugTables.Proofs.Dex.Texts

/-! Which debug info has an encoding. Execution leads forward only, restarts only what was started
and takes all texts from the pools. Debug info that keeps to this is what instructions made for it
give: one for each event, after moves to its line and its address. -/

namespace DebugTables.Dex

/-- What debug info has to keep to so that bytes can stand for it. -/
structure DebugInfo.Encodable (pools : Pools) (info : DebugInfo) : Prop where
  ordered : info.events.Pairwise (·.offset ≤ ·.offset)
  restarts : ∀ before register found offset after,
    info.events = before ++ .restartLocal register found offset :: after →
      lastStarted register before = some found
  names : ∀ name, some name ∈ info.parameterNames → Indexed pools.strings name
  strings : ∀ event ∈ info.events, ∀ text ∈ event.strings, Indexed pools.strings text
  types : ∀ event ∈ info.events, ∀ text ∈ event.types, Indexed pools.types text
  parameters : info.parameterNames.length < 0x100000000

variable {pools : Pools} {position next : Position} {events : List Event}

/-- Events that some instructions with an encoding have from a position on. -/
def Executable (pools : Pools) (position : Position) (events : List Event) : Prop :=
  ∃ instructions : List Instruction, (∀ instruction ∈ instructions, instruction.Encodable) ∧
    Instruction.events pools position instructions = .ok events

theorem Executable.step {instruction : Instruction} {event : Option Event}
    (encodable : instruction.Encodable) (advanced : position.advance instruction = .ok next)
    (emits : Emits pools next instruction event)
    (executable : Executable pools (next.remember event) events) :
    Executable pools position (event.toList ++ events) := by
  rcases executable with ⟨instructions, encodables, executed⟩
  refine ⟨instruction :: instructions, ?_, ?_⟩
  · intro other member
    rcases List.mem_cons.mp member with same | member
    · exact same ▸ encodable
    · exact encodables other member
  · exact events_cons_iff.mpr ⟨next, event, events, advanced, emits, executed, rfl⟩

theorem Executable.of_address {address : UInt32} (forward : position.address ≤ address)
    (executable : Executable pools { position with address } events) :
    Executable pools position events := by
  have distance := UInt32.toNat_sub_of_le _ _ forward
  rw [UInt32.le_iff_toNat_le] at forward
  apply @Executable.step pools position { position with address } events
    (.advancePc (address - position.address)) none trivial _ .advancePc executable
  refine Position.advance_eq_ok_iff.mpr ⟨?_, ?_, rfl⟩
  · simp [Instruction.lineDelta]
  · rw [Instruction.addressDelta, distance]
    dsimp only
    omega

theorem Executable.of_near {line : UInt32}
    (near : -2 ^ 31 ≤ (line.toNat : Int) - position.line.toNat ∧
      (line.toNat : Int) - position.line.toNat < 2 ^ 31)
    (executable : Executable pools { position with line } events) :
    Executable pools position events := by
  have distance := Int32.toInt_ofInt_of_le near.1 near.2
  apply @Executable.step pools position { position with line } events
    (.advanceLine (Int32.ofInt (line.toNat - position.line.toNat))) none trivial _ .advanceLine
    executable
  refine Position.advance_eq_ok_iff.mpr ⟨?_, ?_, rfl⟩
  · rw [Instruction.lineDelta, distance]
    dsimp only
    omega
  · simp [Instruction.addressDelta]

/-- A line that is too far for one move is reached by three, each a third of the way. -/
theorem Executable.of_line {line : UInt32}
    (executable : Executable pools { position with line } events) :
    Executable pools position events := by
  have start := position.line.toNat_lt
  have stop := line.toNat_lt
  have first : (UInt32.ofNat ((2 * position.line.toNat + line.toNat) / 3)).toNat =
      (2 * position.line.toNat + line.toNat) / 3 :=
    UInt32.toNat_ofNat_of_lt (show _ < 0x100000000 by omega)
  have second : (UInt32.ofNat ((position.line.toNat + 2 * line.toNat) / 3)).toNat =
      (position.line.toNat + 2 * line.toNat) / 3 :=
    UInt32.toNat_ofNat_of_lt (show _ < 0x100000000 by omega)
  apply @Executable.of_near pools position events
    (UInt32.ofNat ((2 * position.line.toNat + line.toNat) / 3))
  · omega
  apply @Executable.of_near pools _ events
    (UInt32.ofNat ((position.line.toNat + 2 * line.toNat) / 3))
  · dsimp only
    omega
  apply @Executable.of_near pools _ events line
  · dsimp only
    omega
  exact executable

/-- The line an event is executed at, any line for most events. -/
def Event.lineFrom (line : UInt32) : Event → UInt32
  | .lineNumber line _ => line
  | _ => line

/-- At its line and its address an event has an instruction of its own that moves no further. -/
theorem exists_instruction {event : Event} (atAddress : position.address = event.offset)
    (atLine : position.line = event.lineFrom position.line)
    (recalls : ∀ register found offset, event = .restartLocal register found offset →
      position.started[register]? = some found)
    (strings : ∀ text ∈ event.strings, Indexed pools.strings text)
    (types : ∀ text ∈ event.types, Indexed pools.types text) :
    ∃ instruction : Instruction, instruction.Encodable ∧ instruction.lineDelta = 0 ∧
      instruction.addressDelta = 0 ∧ Emits pools position instruction (some event) := by
  cases event with
  | startLocal register info offset =>
    cases atAddress
    have nameKnown : ∀ text ∈ some info.name, Indexed pools.strings text := by
      intro text same
      exact strings text (Option.mem_some.mp same ▸ List.mem_cons_self ..)
    have typeKnown : ∀ text ∈ some info.descriptor, Indexed pools.types text := by
      intro text same
      exact types text (Option.mem_some.mp same ▸ List.mem_cons_self ..)
    have signatureKnown : ∀ text ∈ info.signature, Indexed pools.strings text := by
      intro text present
      exact strings text (List.mem_cons_of_mem _ (Option.mem_toList.mpr present))
    rcases string_image.mpr nameKnown with ⟨name, writableName, named⟩
    rcases type_image.mpr typeKnown with ⟨type, writableType, typed⟩
    rcases string_image.mpr signatureKnown with ⟨signature, writableSignature, signed⟩
    exact ⟨.startLocal register name type signature,
      ⟨writableName, writableType, writableSignature⟩, rfl, rfl, .startLocal named typed signed⟩
  | restartLocal register info offset =>
    cases atAddress
    exact ⟨.restartLocal register, trivial, rfl, rfl,
      .restartLocal (recalls register info position.address rfl)⟩
  | endLocal register offset =>
    cases atAddress
    exact ⟨.endLocal register, trivial, rfl, rfl, .endLocal⟩
  | lineNumber line offset =>
    cases atAddress
    cases atLine
    exact ⟨.special 14, rfl, rfl, rfl, .lineNumber⟩
  | prologueEnd offset =>
    cases atAddress
    exact ⟨.setPrologueEnd, trivial, rfl, rfl, .prologueEnd⟩
  | epilogueBegin offset =>
    cases atAddress
    exact ⟨.setEpilogueBegin, trivial, rfl, rfl, .epilogueBegin⟩
  | setSourceFile name offset =>
    cases atAddress
    have known : ∀ text ∈ name, Indexed pools.strings text := by
      intro text present
      exact strings text (Option.mem_toList.mpr present)
    rcases string_image.mpr known with ⟨index, writable, named⟩
    exact ⟨.setFile index, writable, rfl, rfl, .setSourceFile named⟩

theorem executable_of_events (ordered : events.Pairwise (·.offset ≤ ·.offset))
    (reached : ∀ event ∈ events, position.address ≤ event.offset)
    (recalls : Recalls position.started events)
    (strings : ∀ event ∈ events, ∀ text ∈ event.strings, Indexed pools.strings text)
    (types : ∀ event ∈ events, ∀ text ∈ event.types, Indexed pools.types text) :
    Executable pools position events := by
  induction events generalizing position with
  | nil => exact ⟨[], nofun, rfl⟩
  | cons event rest ih =>
    rcases List.pairwise_cons.mp ordered with ⟨first, ordered⟩
    have head : event ∈ event :: rest := List.mem_cons_self ..
    apply Executable.of_address (reached event head)
    apply @Executable.of_line _ _ _ (event.lineFrom position.line)
    -- The moves change no memory, so what the rest restarts is the same at the target.
    let target : Position :=
      { position with line := event.lineFrom position.line, address := event.offset }
    rcases (@recalls_cons_iff target event rest).mp recalls with ⟨restart, recalls⟩
    have line : target.line = event.lineFrom target.line := by
      cases event <;> rfl
    rcases exists_instruction rfl line restart (strings event head) (types event head) with
      ⟨instruction, encodable, still, here, emits⟩
    apply @Executable.step pools _ target rest instruction (some event) encodable _ emits
    · apply ih ordered _ recalls
      · exact fun other member => strings other (List.mem_cons_of_mem _ member)
      · exact fun other member => types other (List.mem_cons_of_mem _ member)
      · rw [Position.address_remember]
        exact first
    · refine Position.advance_eq_ok_iff.mpr ⟨?_, ?_, rfl⟩
      · rw [still, Int.add_zero]
      · rw [here, Nat.add_zero]

namespace DebugInfo

variable {info : DebugInfo}

theorem encodable_of_decode {bytes : Bytes} (decoded : decode pools bytes = .ok info) :
    info.Encodable pools := by
  rcases decode_eq_ok_iff.mp decoded with ⟨item, rest, read, made⟩
  rcases ofItem_eq_ok_iff.mp made with ⟨-, names, executed⟩
  have encodable := Item.encodable_of_read read
  rcases indexed_of_names encodable.names names with ⟨size, indexedNames⟩
  have recalls := recalls_of_events executed
  have known : Position.Known pools ⟨item.lineStart, 0, ∅⟩ := by
    intro register info remembered
    rw [Std.ExtTreeMap.getElem?_empty] at remembered
    cases remembered
  have indexed := indexed_of_events known encodable.instructions executed
  refine ⟨(events_ordered executed).2, ?_, indexedNames,
    fun event member => (indexed event member).1, fun event member => (indexed event member).2,
    size ▸ encodable.parameters⟩
  intro before register found offset after same
  have recalled := recalls before register found offset after same
  rwa [Std.ExtTreeMap.getElem?_empty, Option.or_none] at recalled

theorem exists_encoding (encodable : info.Encodable pools) :
    ∃ bytes, decode pools bytes = .ok info := by
  rcases exists_indices encodable.names with ⟨indices, size, writable, names⟩
  have recalls : Recalls (∅ : Std.ExtTreeMap UInt32 Local) info.events := by
    intro before register found offset after same
    rw [Std.ExtTreeMap.getElem?_empty, Option.or_none]
    exact encodable.restarts before register found offset after same
  rcases @executable_of_events pools ⟨info.lineStart, 0, ∅⟩ _ encodable.ordered
    (fun _ _ => UInt32.zero_le) recalls encodable.strings encodable.types with
    ⟨instructions, encodables, executed⟩
  have read := @Item.read_write ⟨info.lineStart, indices, instructions⟩
    ⟨size ▸ encodable.parameters, writable, encodables⟩ []
  exact ⟨_, decode_eq_ok_iff.mpr ⟨_, [], read, ofItem_eq_ok_iff.mpr ⟨rfl, names, executed⟩⟩⟩

/-- Some bytes decode to debug info exactly if its events come in the order of their offsets, every
restart brings back the last local started in its register, all texts have an index in their pool,
and the parameters can be counted. Lines and registers may be any words. -/
theorem decode_image (pools : Pools) (info : DebugInfo) :
    (∃ bytes, decode pools bytes = .ok info) ↔ info.Encodable pools := by
  refine ⟨?_, exists_encoding⟩
  intro encoded
  rcases encoded with ⟨bytes, decoded⟩
  exact encodable_of_decode decoded

end DebugInfo

end DebugTables.Dex
