import DebugTables.Dex.DebugInfo
import DebugTables.Dex.Locals
import DebugTables.Method
import DebugTables.SourceMap.Error

/-! What both formats share when methods are taken out of classes: the options, the failures, and
the names by which a class tells its origin. -/

namespace DebugTables

structure Options where
  /-- Passes over classes that carry no Kotlin metadata. -/
  kotlinOnly : Bool := true
  deriving DecidableEq, Repr

/-- The type of the metadata that the Kotlin compiler puts on each of its classes. -/
def kotlinMetadata : String := "Lkotlin/Metadata;"

/-- Why a class or a method has no tables, with the name of the class or the method. -/
inductive ExtractError where
  | format (owner : String) (cause : FormatError)
  | reconstruction (method : String) (cause : Dex.ReconstructionError)
  | debugInfo (method : String) (cause : Dex.DebugInfoError)
  deriving DecidableEq, Repr

def ExtractError.message : ExtractError → String
  | .format owner cause => "class " ++ owner ++ ": " ++ cause.message
  | .reconstruction method cause => "method " ++ method ++ ": " ++ cause.message
  | .debugInfo method cause => "method " ++ method ++ ": " ++ cause.message

/-- Records how many methods of a format a batch gave. -/
def counted (format : String) (methods : List Method) : Logged (List Method) := do
  Logged.emit .debug
    ("Extracted " ++ Numeral.decimal methods.length ++ " " ++ format ++ " methods")
  return methods

/-- What a batch keeps of one unit: a failing one leaves a warning and nothing else. -/
def keepOrWarn {α : Type} (warning : String) (attempt : Attempt ExtractError (List α)) :
    Logged (List α) := do
  match ← attempt.outcome with
  | .ok values => return values
  | .error fault =>
    Logged.emit .warn (warning ++ fault.message)
    return []

/-- Joins what a batch keeps of each unit. -/
def keepEach {α β : Type} (keep : α → Logged (List β)) : List α → Logged (List β)
  | [] => return []
  | first :: rest => do
    let kept ← keep first
    let others ← keepEach keep rest
    return kept ++ others

end DebugTables
