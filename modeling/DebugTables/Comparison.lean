import DebugTables.ClassFile
import DebugTables.Dex.Class
import DebugTables.FlatMethod
import DebugTables.Matcher

/-! The two formats of one program side by side: the methods of both, and in flat form what they
have in common. -/

namespace DebugTables

/-- A matched pair in flat form. -/
structure FlatPair where
  key : String
  jvm : FlatMethod
  dex : FlatMethod
  deriving DecidableEq, Repr

def MatchedPair.flatten (pair : MatchedPair) : FlatPair :=
  ⟨pair.key, pair.jvm.flatten, pair.dex.flatten⟩

structure Comparison where
  jvm : List Method
  dex : List Method
  pairs : List MatchedPair
  /-- Side by side with `pairs`. -/
  flat : List FlatPair
  deriving DecidableEq

/-- Extracts both batches, the class files first, and matches their methods. -/
def compareBatches (options : Options) (readers : ClassFile.Readers) (files : List ClassFile)
    (definitions : List Dex.ClassDef) : Logged Comparison := do
  let jvm ← ClassFile.extractAll options readers files
  let dex ← Dex.ClassDef.extractAll options definitions
  let pairs ← matchMethods jvm dex
  return ⟨jvm, dex, pairs, pairs.map (·.flatten)⟩

end DebugTables
