import Std.Data.ExtTreeMap
import DebugTables.Log
import DebugTables.Method
import DebugTables.Text.Numeral

/-! Pairs the methods of the two formats by their keys. Of several methods with one key on one side
the last one counts, and pairs come in the order of their keys. -/

namespace DebugTables

inductive Side where
  | jvm
  | dex
  deriving DecidableEq, Repr

def Side.name : Side → String
  | .jvm => "jvm"
  | .dex => "dex"

/-- What is known of one key so far. -/
structure Sides where
  jvm : Option Method
  dex : Option Method
  deriving DecidableEq

namespace Sides

def empty : Sides := ⟨none, none⟩

def get (sides : Sides) : Side → Option Method
  | .jvm => sides.jvm
  | .dex => sides.dex

def put (sides : Sides) (method : Method) : Side → Sides
  | .jvm => { sides with jvm := some method }
  | .dex => { sides with dex := some method }

end Sides

structure MatchedPair where
  key : String
  jvm : Method
  dex : Method
  deriving DecidableEq

structure Matcher where
  pairs : Std.ExtTreeMap String Sides
  deriving DecidableEq

namespace Matcher

def empty : Matcher := ⟨∅⟩

/-- The methods known under a key. -/
def sides (matcher : Matcher) (key : String) : Sides :=
  matcher.pairs[key]?.getD Sides.empty

/-- Adds a method on one side, in place of an earlier one of its key. -/
def add (matcher : Matcher) (side : Side) (method : Method) : Matcher :=
  ⟨matcher.pairs.insert method.key ((matcher.sides method.key).put method side)⟩

/-- Records that a method takes the place of another one. -/
def addRecords (matcher : Matcher) (side : Side) (method : Method) : List Record :=
  if ((matcher.sides method.key).get side).isSome then
    [⟨.debug, "Duplicate " ++ side.name ++ " method, keeping the last one"⟩]
  else []

def addLogged (matcher : Matcher) (side : Side) (method : Method) : Logged Matcher :=
  ⟨matcher.add side method, matcher.addRecords side method⟩

def addAll (matcher : Matcher) (side : Side) : List Method → Logged Matcher
  | [] => return matcher
  | first :: rest => do
    let matcher ← matcher.addLogged side first
    matcher.addAll side rest

/-- The number of keys on either side. -/
def size (matcher : Matcher) : Nat := matcher.pairs.size

def isEmpty (matcher : Matcher) : Bool := matcher.pairs.isEmpty

/-- The keys that both sides have, each with its methods. -/
def pairsOf (matcher : Matcher) : List MatchedPair :=
  matcher.pairs.toList.filterMap fun (key, sides) => do
    return ⟨key, ← sides.jvm, ← sides.dex⟩

def matched (matcher : Matcher) : Logged (List MatchedPair) := do
  let pairs := matcher.pairsOf
  Logged.emit .info ("Matched " ++ Numeral.decimal pairs.length ++ " of " ++
    Numeral.decimal matcher.size ++ " methods")
  return pairs

end Matcher

/-- The pairs that two lists of methods have in common. -/
def matchMethods (jvm dex : List Method) : Logged (List MatchedPair) := do
  let matcher ← Matcher.empty.addAll .jvm jvm
  let matcher ← matcher.addAll .dex dex
  matcher.matched

end DebugTables
