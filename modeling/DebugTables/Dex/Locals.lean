import Std.Data.ExtTreeMap
import DebugTables.Dex.Event
import DebugTables.Dex.Frame
import DebugTables.Log
import DebugTables.Method
import DebugTables.Text.Numeral

/-! The local variable table of a dex method, from its events. A range opens where a local starts,
or restarts in a register that holds nothing, and closes where the register is given up or taken
over. What still lives after the last event lives to the end of the code. Ranges come in the order
of their closing. -/

namespace DebugTables.Dex

inductive ReconstructionError where
  | undefinedRegister (register offset : UInt32)
  | unsupportedEvent (kind : String) (offset : UInt32)
  | registerOutOfRange (register count : UInt32)
  | parameterWindow (ins : Nat) (count : UInt32)
  | negativeRange (register start stop : UInt32)
  deriving DecidableEq, Repr

def ReconstructionError.message : ReconstructionError → String
  | .undefinedRegister register offset =>
    "register v" ++ Numeral.decimal register.toNat ++ " is undefined at " ++
      Numeral.hexadecimal offset.toNat
  | .unsupportedEvent kind offset =>
    "unsupported debug event " ++ kind ++ " at " ++ Numeral.hexadecimal offset.toNat
  | .registerOutOfRange register count =>
    "register v" ++ Numeral.decimal register.toNat ++ " is outside the frame of " ++
      Numeral.decimal count.toNat ++ " registers"
  | .parameterWindow ins count =>
    Numeral.decimal ins ++ " parameter registers do not fit in a frame of " ++
      Numeral.decimal count.toNat ++ " registers"
  | .negativeRange register start stop =>
    "register v" ++ Numeral.decimal register.toNat ++ " ends at " ++
      Numeral.hexadecimal stop.toNat ++ " before it starts at " ++ Numeral.hexadecimal start.toNat

/-- What a register holds, and since when. -/
structure Occupant where
  start : UInt32
  name : String
  descriptor : String
  deriving DecidableEq, Repr

/-- The registers that hold something. -/
abbrev Live := Std.ExtTreeMap UInt32 Occupant

/-- The variable of an occupant whose range ends at `stop`. -/
def Occupant.close (register stop : UInt32) (occupant : Occupant) :
    Except ReconstructionError LocalVariable :=
  if stop < occupant.start then .error (.negativeRange register occupant.start stop)
  else .ok ⟨occupant.start, stop - occupant.start, occupant.name, occupant.descriptor, register⟩

namespace Live

/-- The registers on entry. -/
def atEntry (count : UInt32) (arrivals : List Arrival) : Live :=
  Std.ExtTreeMap.ofList ((Arrival.slots count.toNat arrivals).map fun (register, arrival) =>
    (register, (⟨0, arrival.name, arrival.descriptor⟩ : Occupant)))

/-- A local event has to name a register of the frame. -/
def inFrame (count register : UInt32) : Except ReconstructionError Unit :=
  if register < count then .ok () else .error (.registerOutOfRange register count)

/-- The registers after an event. A restart changes nothing where something still lives. -/
def next (live : Live) : Event → Live
  | .startLocal register info offset => live.insert register ⟨offset, info.name, info.descriptor⟩
  | .restartLocal register info offset =>
    if register ∈ live then live
    else live.insert register ⟨offset, info.name, info.descriptor⟩
  | .endLocal register _ => live.erase register
  | .lineNumber _ _ => live
  | .prologueEnd _ => live
  | .epilogueBegin _ => live
  | .setSourceFile _ _ => live

/-- The variables whose ranges an event closes, or why the event cannot happen here. -/
def closing (live : Live) (count : UInt32) :
    Event → Except ReconstructionError (List LocalVariable)
  | .startLocal register _ offset => do
    inFrame count register
    match live[register]? with
    | none => return []
    | some occupant => return [← occupant.close register offset]
  | .restartLocal register _ _ => do
    inFrame count register
    return []
  | .endLocal register offset => do
    inFrame count register
    match live[register]? with
    | none => throw (.undefinedRegister register offset)
    | some occupant => return [← occupant.close register offset]
  | .lineNumber _ _ => return []
  | .prologueEnd _ => return []
  | .epilogueBegin _ => return []
  | .setSourceFile name offset =>
    throw (.unsupportedEvent (Event.setSourceFile name offset).kind offset)

/-- The registers after all events. -/
def after (live : Live) (events : List Event) : Live :=
  events.foldl next live

/-- The variables closed by events, in the order of the events. -/
def closings (live : Live) (count : UInt32) :
    List Event → Except ReconstructionError (List LocalVariable)
  | [] => .ok []
  | event :: rest => do
    let closed ← live.closing count event
    let others ← (live.next event).closings count rest
    return closed ++ others

/-- Closes what lives at the end of the code, in the order of the registers. -/
def finish (live : Live) (codeSize : UInt32) : Except ReconstructionError (List LocalVariable) :=
  live.toList.mapM fun (register, occupant) => occupant.close register codeSize

end Live

namespace Frame

/-- The variables of a frame with named arrivals. -/
def localsFrom (frame : Frame) (arrivals : List Arrival) (events : List Event) :
    Except ReconstructionError (List LocalVariable) := do
  if frame.registerCount.toNat < frame.insSize then
    throw (.parameterWindow frame.insSize frame.registerCount)
  let entry := Live.atEntry frame.registerCount arrivals
  let closed ← entry.closings frame.registerCount events
  let remaining ← (entry.after events).finish frame.codeSize
  return closed ++ remaining

/-- The variables that events describe. Without all parameter names the method has no variables. -/
def locals (frame : Frame) (events : List Event) :
    Except ReconstructionError (List LocalVariable) :=
  match frame.arrivals? with
  | none => .ok []
  | some arrivals => frame.localsFrom arrivals events

def localsRecords (frame : Frame) : List Record :=
  match frame.arrivals? with
  | none => [⟨.trace, "Skipping local reconstruction, not all parameters are named"⟩]
  | some _ => []

/-- Reconstructs the variables and records it if there can be none. -/
def readLocals (frame : Frame) (events : List Event) :
    Attempt ReconstructionError (List LocalVariable) :=
  ExceptT.mk ⟨frame.locals events, frame.localsRecords⟩

end Frame

end DebugTables.Dex
