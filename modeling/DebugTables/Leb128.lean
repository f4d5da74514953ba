import DebugTables.Reading

/-! Variable-length numbers: groups of seven bits, least significant group first, one group a byte,
and the top bit of a byte says that another one follows. A number of 32 bits takes at most five
bytes; bits beyond the word are dropped. -/

namespace DebugTables.Leb128

/-- Why bytes are no number. -/
inductive Fault where
  | endOfInput
  /-- The fifth byte announces another one, with `left` bytes after it. -/
  | tooLong (left : Nat)
  deriving DecidableEq, Repr

/-- How many bytes are left where the reader gave up. -/
def Fault.left : Fault → Nat
  | .endOfInput => 0
  | .tooLong left => left

/-- The groups of a number of at most `limit` bytes. -/
def groups : Nat → Bytes → Except Fault (List Nat × Bytes)
  | 0, rest => .error (.tooLong rest.length)
  | _ + 1, [] => .error .endOfInput
  | limit + 1, byte :: rest =>
    if byte < 0x80 then .ok ([byte.toNat], rest)
    else do
      let (more, rest) ← groups limit rest
      return (byte.toNat % 128 :: more, rest)

/-- The exact number that groups stand for. -/
def value : List Nat → Nat
  | [] => 0
  | group :: more => group + 128 * value more

/-- By how much a number is less when it is signed: its last group has the sign in its top bit. -/
def excess : List Nat → Nat
  | [] => 0
  | [last] => if 64 ≤ last then 128 else 0
  | _ :: more => 128 * excess more

def unsigned (bytes : Bytes) : Except Fault (UInt32 × Bytes) := do
  let (number, rest) ← groups 5 bytes
  return (UInt32.ofNat (value number), rest)

def signed (bytes : Bytes) : Except Fault (Int32 × Bytes) := do
  let (number, rest) ← groups 5 bytes
  return (Int32.ofInt (value number - excess number : Int), rest)

/-- The number before the encoded one, where zero stands for none. -/
def optional (bytes : Bytes) : Except Fault (Option UInt32 × Bytes) := do
  let (number, rest) ← unsigned bytes
  return (if number = 0 then none else some (number - 1), rest)

theorem groups_length_lt {limit : Nat} {bytes rest : Bytes} {number : List Nat}
    (read : groups limit bytes = .ok (number, rest)) : rest.length < bytes.length := by
  fun_induction groups limit bytes generalizing number rest with
  | case1 => cases read
  | case2 => cases read
  | case3 limit byte after last => cases read; simp
  | case4 limit byte after more ih =>
    obtain ⟨⟨others, final⟩, readOthers, same⟩ := Reading.bind_eq_ok_iff.mp read
    have := ih readOthers
    cases same
    simp only [List.length_cons]
    omega

theorem unsigned_length_lt {bytes rest : Bytes} {number : UInt32}
    (read : unsigned bytes = .ok (number, rest)) : rest.length < bytes.length := by
  obtain ⟨⟨found, final⟩, readGroups, same⟩ := Reading.bind_eq_ok_iff.mp read
  cases same
  exact groups_length_lt readGroups

theorem signed_length_lt {bytes rest : Bytes} {number : Int32}
    (read : signed bytes = .ok (number, rest)) : rest.length < bytes.length := by
  obtain ⟨⟨found, final⟩, readGroups, same⟩ := Reading.bind_eq_ok_iff.mp read
  cases same
  exact groups_length_lt readGroups

theorem optional_length_lt {bytes rest : Bytes} {number : Option UInt32}
    (read : optional bytes = .ok (number, rest)) : rest.length < bytes.length := by
  obtain ⟨⟨found, final⟩, readNumber, same⟩ := Reading.bind_eq_ok_iff.mp read
  cases same
  exact unsigned_length_lt readNumber

end DebugTables.Leb128
