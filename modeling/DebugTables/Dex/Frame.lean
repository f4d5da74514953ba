import DebugTables.Word

/-! The registers of a dex method. Receiver and parameters fill the end of the frame in calling
order, and a long or a double takes two registers. -/

namespace DebugTables.Dex

structure Parameter where
  descriptor : String
  name : Option String
  signature : Option String
  deriving DecidableEq, Repr

structure Frame where
  registerCount : UInt32
  /-- The descriptor of `this`, unless the method is static. -/
  receiver : Option String
  parameters : List Parameter
  /-- Code units of all instructions together. -/
  codeSize : UInt32
  deriving DecidableEq, Repr

/-- The number of registers that a value takes. -/
def typeSize (descriptor : String) : Nat :=
  if descriptor = "J" ∨ descriptor = "D" then 2 else 1

/-- A value that the method is entered with. -/
structure Arrival where
  name : String
  descriptor : String
  size : Nat
  deriving DecidableEq, Repr

/-- The number of registers that arrivals take together. -/
def Arrival.total : List Arrival → Nat
  | [] => 0
  | first :: rest => first.size + total rest

/-- The number of registers that parameters take together. -/
def Parameter.total : List Parameter → Nat
  | [] => 0
  | first :: rest => typeSize first.descriptor + total rest

namespace Frame

/-- The number of registers that receiver and parameters take. The receiver always takes one. -/
def insSize (frame : Frame) : Nat :=
  (if frame.receiver.isSome then 1 else 0) + Parameter.total frame.parameters

/-- Receiver and parameters in calling order, if all parameters have names. -/
def arrivals? (frame : Frame) : Option (List Arrival) := do
  let receiver := frame.receiver.toList.map fun descriptor => ⟨"this", descriptor, 1⟩
  let parameters ← frame.parameters.mapM fun parameter =>
    parameter.name.map fun name => ⟨name, parameter.descriptor, typeSize parameter.descriptor⟩
  return receiver ++ parameters

end Frame

/-- The first register of each arrival in a frame of `count` registers: so far from the end as it
and those after it take. -/
def Arrival.slots (count : Nat) : List Arrival → List (UInt32 × Arrival)
  | [] => []
  | first :: rest =>
    (UInt32.ofNat (count - total (first :: rest)), first) :: slots count rest

end DebugTables.Dex
