import DebugTables.SourceMap.Basic

/-! The debug tables of one method, in the form that both bytecode formats share. -/

namespace DebugTables

/-- From `offset` on the code belongs to `line`. -/
structure Location where
  offset : UInt32
  line : UInt32
  deriving DecidableEq, Repr

/-- A variable that lives in `slot` for `length` code offsets from `start` on. -/
structure LocalVariable where
  start : UInt32
  length : UInt32
  name : String
  descriptor : String
  slot : UInt32
  deriving DecidableEq, Repr

/-- The first offset past the range, which need not be a word. -/
def LocalVariable.stop (entry : LocalVariable) : Nat :=
  entry.start.toNat + entry.length.toNat

/-- What all methods of a class share. -/
structure ClassInfo where
  name : String
  sourceFile : Option String
  sourceMap : Option SourceMap
  deriving DecidableEq

structure Method where
  name : String
  descriptor : String
  flags : UInt32
  locations : List Location
  locals : List LocalVariable
  owner : ClassInfo
  deriving DecidableEq

/-- Class, name and descriptor, which tell a method from all others. -/
def Method.key (method : Method) : String :=
  method.owner.name ++ "." ++ method.name ++ method.descriptor

end DebugTables
