import Std.Data.ExtTreeMap
import DebugTables.Dex.Event
import DebugTables.Dex.Instruction
import DebugTables.Log
import DebugTables.Text.Numeral

/-! The meaning of encoded debug info. A line and an address run along with the instructions, and a
register remembers the last local started in it, for the instruction that restarts it. -/

namespace DebugTables.Dex

inductive DebugInfoError where
  | truncated (offset : Nat)
  | stringIndex (index : UInt32)
  | typeIndex (index : UInt32)
  | nameless (register offset : UInt32)
  | typeless (register offset : UInt32)
  | overflow (offset : UInt32)
  | restartWithoutStart (register offset : UInt32)
  deriving DecidableEq, Repr

def DebugInfoError.message : DebugInfoError → String
  | .truncated offset => "truncated debug info at byte " ++ Numeral.decimal offset
  | .stringIndex index => "string index " ++ Numeral.decimal index.toNat ++ " out of range"
  | .typeIndex index => "type index " ++ Numeral.decimal index.toNat ++ " out of range"
  | .nameless register offset =>
    "local started in v" ++ Numeral.decimal register.toNat ++ " at " ++
      Numeral.hexadecimal offset.toNat ++ " has no name"
  | .typeless register offset =>
    "local started in v" ++ Numeral.decimal register.toNat ++ " at " ++
      Numeral.hexadecimal offset.toNat ++ " has no type"
  | .overflow offset => "line or address overflow at " ++ Numeral.hexadecimal offset.toNat
  | .restartWithoutStart register offset =>
    "restart of v" ++ Numeral.decimal register.toNat ++ " at " ++
      Numeral.hexadecimal offset.toNat ++ " which never held a local"

/-- The strings and type descriptors that indices refer to. -/
structure Pools where
  strings : List String
  types : List String

namespace Pools

def string (pools : Pools) : Option UInt32 → Except DebugInfoError (Option String)
  | none => .ok none
  | some index =>
    match pools.strings[index.toNat]? with
    | some text => .ok (some text)
    | none => .error (.stringIndex index)

def type (pools : Pools) : Option UInt32 → Except DebugInfoError (Option String)
  | none => .ok none
  | some index =>
    match pools.types[index.toNat]? with
    | some text => .ok (some text)
    | none => .error (.typeIndex index)

end Pools

/-- Where the instructions have got to. -/
structure Position where
  line : UInt32
  address : UInt32
  /-- The last local started in each register. -/
  started : Std.ExtTreeMap UInt32 Local

namespace Position

/-- The line and the address after an instruction, which both have to stay words. -/
def advance (position : Position) (instruction : Instruction) : Except DebugInfoError Position :=
  match Word.ofInt? (position.line.toNat + instruction.lineDelta),
      Word.ofNat? (position.address.toNat + instruction.addressDelta) with
  | some line, some address => .ok { position with line, address }
  | _, _ => .error (.overflow position.address)

def require {α : Type} (fault : DebugInfoError) : Option α → Except DebugInfoError α
  | some value => .ok value
  | none => .error fault

/-- The event of an instruction at the position it has led to. -/
def event? (pools : Pools) (position : Position) :
    Instruction → Except DebugInfoError (Option Event)
  | .advancePc _ => .ok none
  | .advanceLine _ => .ok none
  | .startLocal register name type signature => do
    let name ← require (.nameless register position.address) (← pools.string name)
    let descriptor ← require (.typeless register position.address) (← pools.type type)
    let signature ← pools.string signature
    return some (.startLocal register ⟨name, descriptor, signature⟩ position.address)
  | .endLocal register => .ok (some (.endLocal register position.address))
  | .restartLocal register => do
    let info ← require (.restartWithoutStart register position.address) position.started[register]?
    return some (.restartLocal register info position.address)
  | .setPrologueEnd => .ok (some (.prologueEnd position.address))
  | .setEpilogueBegin => .ok (some (.epilogueBegin position.address))
  | .setFile name => do
    let name ← pools.string name
    return some (.setSourceFile name position.address)
  | .special _ => .ok (some (.lineNumber position.line position.address))

/-- Keeps a local that an event starts. -/
def remember (position : Position) : Option Event → Position
  | some (.startLocal register info _) =>
    { position with started := position.started.insert register info }
  | _ => position

end Position

/-- The events of instructions from a position on. -/
def Instruction.events (pools : Pools) (position : Position) :
    List Instruction → Except DebugInfoError (List Event)
  | [] => .ok []
  | instruction :: rest => do
    let position ← position.advance instruction
    let event ← position.event? pools instruction
    let events ← Instruction.events pools (position.remember event) rest
    return event.toList ++ events

namespace DebugInfo

/-- Looks up the parameter names and executes the instructions. -/
def ofItem (pools : Pools) (item : Item) : Except DebugInfoError DebugInfo := do
  let parameterNames ← item.parameterNames.mapM pools.string
  let events ← Instruction.events pools ⟨item.lineStart, 0, ∅⟩ item.instructions
  return ⟨item.lineStart, parameterNames, events⟩

/-- The debug info that bytes encode. The bytes have to be complete before any index is looked up.
-/
def decode (pools : Pools) (bytes : Bytes) : Except DebugInfoError DebugInfo :=
  match Item.read bytes with
  | .error fault => .error (.truncated (bytes.length - fault.left))
  | .ok (item, _) => ofItem pools item

def decodedRecord (info : DebugInfo) : Record :=
  ⟨.trace, "Decoded debug info: line_start " ++ Numeral.decimal info.lineStart.toNat ++ ", " ++
    Numeral.decimal info.parameterNames.length ++ " parameters, " ++
    Numeral.decimal info.events.length ++ " events"⟩

/-- Decodes debug info and records it. -/
def read (pools : Pools) (bytes : Bytes) : Attempt DebugInfoError DebugInfo :=
  ExceptT.mk <| match decode pools bytes with
    | .error fault => ⟨.error fault, []⟩
    | .ok info => ⟨.ok info, [info.decodedRecord]⟩

end DebugInfo

end DebugTables.Dex
