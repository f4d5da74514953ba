import DebugTables.Word

/-! What a dex method's debug info says, event by event. Offsets count code units. -/

namespace DebugTables.Dex

structure Local where
  name : String
  descriptor : String
  signature : Option String
  deriving DecidableEq, Repr

inductive Event where
  | startLocal (register : UInt32) (info : Local) (offset : UInt32)
  | restartLocal (register : UInt32) (info : Local) (offset : UInt32)
  | endLocal (register offset : UInt32)
  | lineNumber (line offset : UInt32)
  | prologueEnd (offset : UInt32)
  | epilogueBegin (offset : UInt32)
  | setSourceFile (name : Option String) (offset : UInt32)
  deriving DecidableEq, Repr

namespace Event

def kind : Event → String
  | .startLocal .. => "StartLocal"
  | .restartLocal .. => "RestartLocal"
  | .endLocal .. => "EndLocal"
  | .lineNumber .. => "LineNumber"
  | .prologueEnd .. => "PrologueEnd"
  | .epilogueBegin .. => "EpilogueBegin"
  | .setSourceFile .. => "SetSourceFile"

def offset : Event → UInt32
  | .startLocal _ _ offset => offset
  | .restartLocal _ _ offset => offset
  | .endLocal _ offset => offset
  | .lineNumber _ offset => offset
  | .prologueEnd offset => offset
  | .epilogueBegin offset => offset
  | .setSourceFile _ offset => offset

end Event

structure DebugInfo where
  lineStart : UInt32
  /-- A missing name leaves its parameter unnamed. -/
  parameterNames : List (Option String)
  events : List Event
  deriving DecidableEq, Repr

end DebugTables.Dex
