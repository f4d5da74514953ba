import Mathlib
import DebugTables.Dex.DebugInfo

/-! One step of executing debug info as a relation, and what a whole run keeps: the address never
goes back, so events come in the order of their offsets. -/

namespace DebugTables.Dex

/-- What an instruction does at the position it has led to: most give an event there, moves give
none. -/
inductive Emits (pools : Pools) (position : Position) : Instruction → Option Event → Prop where
  | advancePc {delta : UInt32} : Emits pools position (.advancePc delta) none
  | advanceLine {delta : Int32} : Emits pools position (.advanceLine delta) none
  | startLocal {register : UInt32} {name type signature : Option UInt32} {info : Local}
      (named : pools.string name = .ok (some info.name))
      (typed : pools.type type = .ok (some info.descriptor))
      (signed : pools.string signature = .ok info.signature) :
      Emits pools position (.startLocal register name type signature)
        (some (.startLocal register info position.address))
  | endLocal {register : UInt32} :
      Emits pools position (.endLocal register) (some (.endLocal register position.address))
  | restartLocal {register : UInt32} {info : Local}
      (remembered : position.started[register]? = some info) :
      Emits pools position (.restartLocal register)
        (some (.restartLocal register info position.address))
  | prologueEnd : Emits pools position .setPrologueEnd (some (.prologueEnd position.address))
  | epilogueBegin : Emits pools position .setEpilogueBegin (some (.epilogueBegin position.address))
  | setSourceFile {index : Option UInt32} {name : Option String}
      (named : pools.string index = .ok name) :
      Emits pools position (.setFile index) (some (.setSourceFile name position.address))
  | lineNumber {opcode : UInt8} :
      Emits pools position (.special opcode) (some (.lineNumber position.line position.address))

namespace Position

theorem advance_eq_ok_iff {position next : Position} {instruction : Instruction} :
    position.advance instruction = .ok next ↔
      (next.line.toNat : Int) = position.line.toNat + instruction.lineDelta ∧
        next.address.toNat = position.address.toNat + instruction.addressDelta ∧
        next.started = position.started := by
  rw [← Word.ofInt?_eq_some_iff, ← Word.ofNat?_eq_some_iff, advance]
  cases next with
  | mk line address started =>
    split
    · next found reached fits inside =>
      rw [fits, inside, Except.ok.injEq, mk.injEq, Option.some.injEq, Option.some.injEq]
      exact ⟨fun same => ⟨same.1, same.2.1, same.2.2.symm⟩,
        fun same => ⟨same.1, same.2.1, same.2.2.symm⟩⟩
    · next outside =>
      refine ⟨nofun, ?_⟩
      intro same
      exact absurd same.2.1 (outside _ _ same.1)

theorem require_eq_ok_iff {α : Type} {fault : DebugInfoError} {found : Option α} {value : α} :
    require fault found = .ok value ↔ found = some value := by
  cases found with
  | none => exact ⟨nofun, nofun⟩
  | some other => rw [require, Except.ok.injEq, Option.some.injEq]

theorem emits_of_event? {pools : Pools} {position : Position} {instruction : Instruction}
    {event : Option Event} (found : position.event? pools instruction = .ok event) :
    Emits pools position instruction event := by
  cases instruction with
  | advancePc delta => cases found; exact .advancePc
  | advanceLine delta => cases found; exact .advanceLine
  | startLocal register name type signature =>
    rcases Reading.bind_eq_ok_iff.mp found with ⟨_, foundName, found⟩
    rcases Reading.bind_eq_ok_iff.mp found with ⟨name, named, found⟩
    rcases Reading.bind_eq_ok_iff.mp found with ⟨_, foundType, found⟩
    rcases Reading.bind_eq_ok_iff.mp found with ⟨descriptor, typed, found⟩
    rcases Reading.bind_eq_ok_iff.mp found with ⟨signature, foundSignature, same⟩
    rw [require_eq_ok_iff] at named typed
    cases named
    cases typed
    cases same
    exact @Emits.startLocal _ _ _ _ _ _ ⟨name, descriptor, signature⟩ foundName foundType
      foundSignature
  | endLocal register => cases found; exact .endLocal
  | restartLocal register =>
    rcases Reading.bind_eq_ok_iff.mp found with ⟨info, remembered, same⟩
    cases same
    exact .restartLocal (require_eq_ok_iff.mp remembered)
  | setPrologueEnd => cases found; exact .prologueEnd
  | setEpilogueBegin => cases found; exact .epilogueBegin
  | setFile index =>
    rcases Reading.bind_eq_ok_iff.mp found with ⟨name, named, same⟩
    cases same
    exact .setSourceFile named
  | special opcode => cases found; exact .lineNumber

theorem event?_of_emits {pools : Pools} {position : Position} {instruction : Instruction}
    {event : Option Event} (emits : Emits pools position instruction event) :
    position.event? pools instruction = .ok event := by
  cases emits with
  | advancePc => rfl
  | advanceLine => rfl
  | startLocal named typed signed =>
    refine Reading.bind_eq_ok_iff.mpr ⟨_, named, ?_⟩
    refine Reading.bind_eq_ok_iff.mpr ⟨_, require_eq_ok_iff.mpr rfl, ?_⟩
    refine Reading.bind_eq_ok_iff.mpr ⟨_, typed, ?_⟩
    refine Reading.bind_eq_ok_iff.mpr ⟨_, require_eq_ok_iff.mpr rfl, ?_⟩
    exact Reading.bind_eq_ok_iff.mpr ⟨_, signed, rfl⟩
  | endLocal => rfl
  | restartLocal remembered =>
    exact Reading.bind_eq_ok_iff.mpr ⟨_, require_eq_ok_iff.mpr remembered, rfl⟩
  | prologueEnd => rfl
  | epilogueBegin => rfl
  | setSourceFile named => exact Reading.bind_eq_ok_iff.mpr ⟨_, named, rfl⟩
  | lineNumber => rfl

theorem event?_eq_ok_iff {pools : Pools} {position : Position} {instruction : Instruction}
    {event : Option Event} :
    position.event? pools instruction = .ok event ↔ Emits pools position instruction event :=
  ⟨emits_of_event?, event?_of_emits⟩

/-- An event stands at the address it is executed at. -/
theorem offset_of_emits {pools : Pools} {position : Position} {instruction : Instruction}
    {event : Event} (emits : Emits pools position instruction (some event)) :
    event.offset = position.address := by
  cases emits <;> rfl

@[simp]
theorem address_remember (position : Position) (event : Option Event) :
    (position.remember event).address = position.address := by
  unfold remember
  split <;> rfl

@[simp]
theorem line_remember (position : Position) (event : Option Event) :
    (position.remember event).line = position.line := by
  unfold remember
  split <;> rfl

end Position

theorem events_cons_iff {pools : Pools} {position : Position} {instruction : Instruction}
    {rest : List Instruction} {events : List Event} :
    Instruction.events pools position (instruction :: rest) = .ok events ↔
      ∃ next event others, position.advance instruction = .ok next ∧
        Emits pools next instruction event ∧
        Instruction.events pools (next.remember event) rest = .ok others ∧
        events = event.toList ++ others := by
  rw [Instruction.events]
  refine ⟨?_, ?_⟩
  · intro ok
    rcases Reading.bind_eq_ok_iff.mp ok with ⟨next, advanced, ok⟩
    rcases Reading.bind_eq_ok_iff.mp ok with ⟨event, found, ok⟩
    rcases Reading.bind_eq_ok_iff.mp ok with ⟨others, executed, same⟩
    cases same
    exact ⟨next, event, others, advanced, Position.event?_eq_ok_iff.mp found, executed, rfl⟩
  · intro step
    rcases step with ⟨next, event, others, advanced, emits, executed, same⟩
    rw [same]
    apply Reading.bind_eq_ok_iff.mpr ⟨next, advanced, _⟩
    apply Reading.bind_eq_ok_iff.mpr ⟨event, Position.event?_eq_ok_iff.mpr emits, _⟩
    exact Reading.bind_eq_ok_iff.mpr ⟨others, executed, rfl⟩

theorem events_ordered {pools : Pools} {position : Position} {instructions : List Instruction}
    {events : List Event} (executed : Instruction.events pools position instructions = .ok events) :
    (∀ event ∈ events, position.address ≤ event.offset) ∧
      events.Pairwise (·.offset ≤ ·.offset) := by
  induction instructions generalizing position events with
  | nil =>
    cases executed
    exact ⟨by simp, .nil⟩
  | cons instruction rest ih =>
    rcases events_cons_iff.mp executed with ⟨next, event, others, advanced, emits, executed, same⟩
    have forward : position.address ≤ next.address := by
      rw [UInt32.le_iff_toNat_le, (Position.advance_eq_ok_iff.mp advanced).2.1]
      exact Nat.le_add_right ..
    have ⟨later, ordered⟩ := ih executed
    rw [Position.address_remember] at later
    rw [same]
    cases event with
    | none => exact ⟨fun event member => UInt32.le_trans forward (later event member), ordered⟩
    | some event =>
      have here := Position.offset_of_emits emits
      refine ⟨?_, List.pairwise_cons.mpr ⟨?_, ordered⟩⟩
      · intro other member
        rcases List.mem_cons.mp member with same | member
        · rw [same, here]
          exact forward
        · exact UInt32.le_trans forward (later other member)
      · intro other member
        rw [here]
        exact later other member

theorem ofItem_eq_ok_iff {pools : Pools} {item : Item} {info : DebugInfo} :
    DebugInfo.ofItem pools item = .ok info ↔ info.lineStart = item.lineStart ∧
      item.parameterNames.mapM pools.string = .ok info.parameterNames ∧
      Instruction.events pools ⟨item.lineStart, 0, ∅⟩ item.instructions = .ok info.events := by
  refine ⟨?_, ?_⟩
  · intro ok
    rcases Reading.bind_eq_ok_iff.mp ok with ⟨names, found, ok⟩
    rcases Reading.bind_eq_ok_iff.mp ok with ⟨events, executed, same⟩
    cases same
    exact ⟨rfl, found, executed⟩
  · intro parts
    rcases info with ⟨lineStart, names, events⟩
    rcases parts with ⟨same, found, executed⟩
    cases same
    apply Reading.bind_eq_ok_iff.mpr ⟨names, found, _⟩
    exact Reading.bind_eq_ok_iff.mpr ⟨events, executed, rfl⟩

theorem DebugInfo.decode_of_read {pools : Pools} {bytes rest : Bytes} {item : Item}
    (read : Item.read bytes = .ok (item, rest)) : decode pools bytes = ofItem pools item := by
  rw [decode, read]

theorem decode_eq_ok_iff {pools : Pools} {bytes : Bytes} {info : DebugInfo} :
    DebugInfo.decode pools bytes = .ok info ↔
      ∃ item rest, Item.read bytes = .ok (item, rest) ∧ DebugInfo.ofItem pools item = .ok info := by
  unfold DebugInfo.decode
  split
  · next fault failed => simp [failed]
  · next item rest found => simp [found]

theorem ordered_of_decode {pools : Pools} {bytes : Bytes} {info : DebugInfo}
    (decoded : DebugInfo.decode pools bytes = .ok info) :
    info.events.Pairwise (·.offset ≤ ·.offset) := by
  rcases decode_eq_ok_iff.mp decoded with ⟨item, rest, -, made⟩
  exact (events_ordered (ofItem_eq_ok_iff.mp made).2.2).2

end DebugTables.Dex
