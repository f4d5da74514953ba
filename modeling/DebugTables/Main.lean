import DebugTables.CommandLine

/-! The program: fetches the files that the arguments name and prints the outcome. -/

namespace DebugTables.CommandLine

/-- The contents of a file, or nothing if it cannot be read. -/
def fetch (file : String) : IO (String × Option Bytes) := do
  try
    let contents ← IO.FS.readBinFile file
    return (file, some contents.data.toList)
  catch _ => return (file, none)

end DebugTables.CommandLine

open DebugTables CommandLine

def main (words : List String) : IO UInt32 := do
  let files := ((Arguments.ofWords? words).map (·.files)).getD []
  let contents ← files.mapM fetch
  let outcome := respond words fun file => (contents.lookup file).join
  IO.print outcome.output
  return outcome.exit
