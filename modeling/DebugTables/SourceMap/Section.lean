import DebugTables.Reading
import DebugTables.SourceMap.Basic
import DebugTables.SourceMap.Error
import DebugTables.SourceMap.Token

/-! Sections of a stratum as they are written. Every reader gets the size of the whole text and the
part that is still to be read, so an offset is their difference. A section ends before the next `*`
that could start an entry. -/

namespace DebugTables

/-! The marks `*S`, `*E`, `*F`, `*L`, `+`, `#`, `,` and `:`. -/

namespace Mark

def stratum : Bytes := [0x2A, 0x53]

def trailer : Bytes := [0x2A, 0x45]

def files : Bytes := [0x2A, 0x46]

def lines : Bytes := [0x2A, 0x4C]

def path : Bytes := [0x2B]

def fileId : Bytes := [0x23]

def count : Bytes := [0x2C]

def output : Bytes := [0x3A]

end Mark

structure FileEntry where
  id : UInt32
  file : SourceFile
  deriving DecidableEq, Repr

/-- A line mapping as written. Without a file id it means the file of the entry before. -/
structure LineEntry where
  inputStart : UInt32
  fileId : Option UInt32
  repeatCount : UInt32
  outputStart : UInt32
  increment : UInt32
  deriving DecidableEq, Repr

namespace LineEntry

/-- The mapping of an entry, where `running` is the file id of the entry before. -/
def mapping (running : UInt32) (entry : LineEntry) : LineMapping :=
  ⟨entry.inputStart, entry.fileId.getD running, entry.outputStart, entry.repeatCount,
    entry.increment⟩

/-- The mappings of entries in order, each handing its file id on to the next. -/
def mappings (running : UInt32) : List LineEntry → List LineMapping
  | [] => []
  | entry :: rest =>
    let mapping := entry.mapping running
    mapping :: mappings mapping.fileId rest

end LineEntry

inductive Section where
  | files (entries : List FileEntry)
  | lines (entries : List LineEntry)
  deriving DecidableEq, Repr

namespace Section

/-- Reads `part`, which has to be there. -/
def expect {α : Type} (size : Nat) (part : Part) (read : Bytes → Option (α × Bytes))
    (start : Bytes) : Except FormatError (α × Bytes) :=
  match read start with
  | some result => .ok result
  | none => .error (.expected part (size - start.length))

/-- Reads a number if `mark` announces one. -/
def announced (size : Nat) (mark : Bytes) (part : Part) (start : Bytes) :
    Except FormatError (Option UInt32 × Bytes) :=
  match Token.mark? mark start with
  | none => .ok (none, start)
  | some rest => do
    let (value, rest) ← expect size part Token.number? rest
    return (some value, rest)

/-- The mark between the input and the output half of a line entry. -/
def separator? (start : Bytes) : Option (Unit × Bytes) :=
  (Token.mark? Mark.output start).map ((), ·)

def fileEntry (size : Nat) (start : Bytes) : Except FormatError (FileEntry × Bytes) :=
  match Token.mark? Mark.path start with
  | none => do
    let (id, rest) ← expect size .fileId Token.number? start
    let (name, rest) ← expect size .fileName Token.name? rest
    return (⟨id, name, none⟩, rest)
  | some rest => do
    let (id, rest) ← expect size .fileId Token.number? rest
    let (name, rest) ← expect size .fileName Token.name? rest
    let (path, rest) ← expect size .absoluteFileName Token.name? rest
    return (⟨id, name, some path⟩, rest)

def lineEntry (size : Nat) (start : Bytes) : Except FormatError (LineEntry × Bytes) := do
  let (inputStart, rest) ← expect size .inputStartLine Token.number? start
  let (fileId, rest) ← announced size Mark.fileId .lineFileId rest
  let (repeatCount, rest) ← announced size Mark.count .repeatCount rest
  let ((), rest) ← expect size .colon separator? rest
  let (outputStart, rest) ← expect size .outputStartLine Token.number? rest
  let (increment, rest) ← announced size Mark.count .outputLineIncrement rest
  let entry : LineEntry := ⟨inputStart, fileId, repeatCount.getD 1, outputStart, increment.getD 1⟩
  if (entry.mapping 0).Proper then return (entry, rest)
  else throw (.invalidMapping (size - start.length))

theorem expect_eq_ok_iff {α : Type} {size : Nat} {part : Part} {read : Bytes → Option (α × Bytes)}
    {start : Bytes} {result : α × Bytes} :
    expect size part read start = .ok result ↔ read start = some result := by
  unfold expect
  split <;> simp [*]

theorem announced_length_le {size : Nat} {mark : Bytes} {part : Part} {start rest : Bytes}
    {value : Option UInt32} (read : announced size mark part start = .ok (value, rest)) :
    rest.length ≤ start.length := by
  unfold announced at read
  split at read
  · simp only [Except.ok.injEq, Prod.mk.injEq] at read
    exact Nat.le_of_eq (congrArg List.length read.2.symm)
  · next after marked =>
    obtain ⟨⟨number, last⟩, found, same⟩ := Reading.bind_eq_ok_iff.mp read
    have shorter := Token.number?_length_lt (expect_eq_ok_iff.mp found)
    have := Token.mark?_length_le marked
    cases same
    omega

theorem fileEntry_length_lt {size : Nat} {start rest : Bytes} {entry : FileEntry}
    (read : fileEntry size start = .ok (entry, rest)) : rest.length < start.length := by
  unfold fileEntry at read
  split at read
  · obtain ⟨⟨id, afterId⟩, foundId, read⟩ := Reading.bind_eq_ok_iff.mp read
    obtain ⟨⟨name, afterName⟩, foundName, same⟩ := Reading.bind_eq_ok_iff.mp read
    have := Token.number?_length_lt (expect_eq_ok_iff.mp foundId)
    have := Token.name?_length_lt (expect_eq_ok_iff.mp foundName)
    cases same
    omega
  · next afterMark marked =>
    obtain ⟨⟨id, afterId⟩, foundId, read⟩ := Reading.bind_eq_ok_iff.mp read
    obtain ⟨⟨name, afterName⟩, foundName, read⟩ := Reading.bind_eq_ok_iff.mp read
    obtain ⟨⟨path, afterPath⟩, foundPath, same⟩ := Reading.bind_eq_ok_iff.mp read
    have := Token.mark?_length_le marked
    have := Token.number?_length_lt (expect_eq_ok_iff.mp foundId)
    have := Token.name?_length_lt (expect_eq_ok_iff.mp foundName)
    have := Token.name?_length_lt (expect_eq_ok_iff.mp foundPath)
    cases same
    omega

theorem separator?_length_le {start rest : Bytes} (read : separator? start = some ((), rest)) :
    rest.length ≤ start.length := by
  obtain ⟨after, marked, same⟩ := Option.map_eq_some_iff.mp read
  have := Token.mark?_length_le marked
  cases same
  omega

theorem lineEntry_length_lt {size : Nat} {start rest : Bytes} {entry : LineEntry}
    (read : lineEntry size start = .ok (entry, rest)) : rest.length < start.length := by
  obtain ⟨⟨inputStart, afterInput⟩, foundInput, read⟩ := Reading.bind_eq_ok_iff.mp read
  obtain ⟨⟨fileId, afterFile⟩, foundFile, read⟩ := Reading.bind_eq_ok_iff.mp read
  obtain ⟨⟨repeats, afterRepeat⟩, foundRepeat, read⟩ := Reading.bind_eq_ok_iff.mp read
  obtain ⟨⟨_, afterColon⟩, foundColon, read⟩ := Reading.bind_eq_ok_iff.mp read
  obtain ⟨⟨outputStart, afterOutput⟩, foundOutput, read⟩ := Reading.bind_eq_ok_iff.mp read
  obtain ⟨⟨increment, afterIncrement⟩, foundIncrement, read⟩ := Reading.bind_eq_ok_iff.mp read
  have := Token.number?_length_lt (expect_eq_ok_iff.mp foundInput)
  have := announced_length_le foundFile
  have := announced_length_le foundRepeat
  have := separator?_length_le (expect_eq_ok_iff.mp foundColon)
  have := Token.number?_length_lt (expect_eq_ok_iff.mp foundOutput)
  have := announced_length_le foundIncrement
  dsimp only at read
  split at read
  · cases read
    omega
  · cases read

/-- Whether no entry can start here. -/
def atEnd : Bytes → Bool
  | [] => true
  | byte :: _ => byte = 0x2A

/-- Reads one entry, or nothing at the end of the section. -/
def entryStep {α : Type} (entry : Bytes → Except FormatError (α × Bytes)) :
    Reading.Step FormatError α := fun start =>
  if atEnd start then .ok (none, start)
  else do
    let (value, rest) ← entry start
    return (some value, rest)

theorem entryStep_shrinks {α : Type} {entry : Bytes → Except FormatError (α × Bytes)}
    (takes : ∀ {start rest : Bytes} {a : α}, entry start = .ok (a, rest) →
      rest.length < start.length) : Reading.Shrinks (entryStep entry) where
  item := by
    intro start rest a read
    unfold entryStep at read
    split at read
    · cases read
    · obtain ⟨⟨value, after⟩, found, same⟩ := Reading.bind_eq_ok_iff.mp read
      cases same
      exact takes found
  stop := by
    intro start rest read
    unfold entryStep at read
    split at read
    · cases read
      exact Nat.le_refl _
    · obtain ⟨⟨value, after⟩, found, same⟩ := Reading.bind_eq_ok_iff.mp read
      cases same

def fileEntries (size : Nat) (start : Bytes) : Except FormatError (List FileEntry × Bytes) :=
  (Reading.many (entryStep (fileEntry size)) (entryStep_shrinks fileEntry_length_lt) start).all

def lineEntries (size : Nat) (start : Bytes) : Except FormatError (List LineEntry × Bytes) :=
  (Reading.many (entryStep (lineEntry size)) (entryStep_shrinks lineEntry_length_lt) start).all

/-- Reads one section of the stratum `name`, or nothing where no section starts. -/
def step (size : Nat) (name : String) : Reading.Step FormatError Section := fun start =>
  match Token.mark? Mark.files start, Token.mark? Mark.lines start with
  | some rest, _ => do
    let (entries, rest) ← fileEntries size rest
    return (some (.files entries), rest)
  | none, some rest => do
    let (entries, rest) ← lineEntries size rest
    return (some (.lines entries), rest)
  | none, none =>
    if Mark.stratum <+: start ∨ Mark.trailer <+: start then .ok (none, start)
    else match start with
      | 0x2A :: after =>
        let letter := after.head?.elim ' ' fun byte => Char.ofNat byte.toNat
        .error (.unsupportedSection name letter)
      | _ => .ok (none, start)

theorem step_shrinks (size : Nat) (name : String) : Reading.Shrinks (step size name) where
  item := by
    intro start rest part read
    unfold step at read
    split at read
    · next after _ marked =>
      obtain ⟨⟨entries, last⟩, found, same⟩ := Reading.bind_eq_ok_iff.mp read
      have := Token.mark?_length_le marked
      have := Reading.all_rest_length_le found
      cases same
      simp only [Mark.files, List.length_cons, List.length_nil] at *
      omega
    · next after _ marked =>
      obtain ⟨⟨entries, last⟩, found, same⟩ := Reading.bind_eq_ok_iff.mp read
      have := Token.mark?_length_le marked
      have := Reading.all_rest_length_le found
      cases same
      simp only [Mark.lines, List.length_cons, List.length_nil] at *
      omega
    · split at read
      · cases read
      · split at read <;> cases read
  stop := by
    intro start rest read
    unfold step at read
    split at read
    · obtain ⟨_, _, same⟩ := Reading.bind_eq_ok_iff.mp read
      cases same
    · obtain ⟨_, _, same⟩ := Reading.bind_eq_ok_iff.mp read
      cases same
    · split at read
      · cases read
        exact Nat.le_refl _
      · split at read <;> cases read
        exact Nat.le_refl _

/-- All sections of the stratum `name`, up to where no further one starts. -/
def readAll (size : Nat) (name : String) (start : Bytes) :
    Except FormatError (List Section × Bytes) :=
  (Reading.many (step size name) (step_shrinks size name) start).all

/-- The files that a section declares. -/
def declaredFiles : Section → List FileEntry
  | .files entries => entries
  | .lines _ => []

def declaredLines : Section → List LineEntry
  | .files _ => []
  | .lines entries => entries

end Section

end DebugTables
