/-! Numerals: decimal for counts and lines, hexadecimal for code offsets. -/

namespace DebugTables.Numeral

def decimal (n : Nat) : String :=
  String.ofList (Nat.toDigits 10 n)

/-- Lower-case digits after `0x`. -/
def hexadecimal (n : Nat) : String :=
  "0x" ++ String.ofList (Nat.toDigits 16 n)

end DebugTables.Numeral
