import DebugTables.Word

/-! Reading bytes from the front. A reader gives what it read together with the bytes that are left,
or a fault. Many things in a row are read by one step that is repeated until it stops or fails; a
step that reads something has to leave less than it got, so the repetition ends. -/

namespace DebugTables.Reading

variable {ε α β : Type}

theorem bind_eq_ok_iff {first : Except ε α} {next : α → Except ε β} {result : β} :
    first >>= next = .ok result ↔ ∃ value, first = .ok value ∧ next value = .ok result := by
  cases first <;> simp [bind, Except.bind]

theorem bind_eq_error_iff {first : Except ε α} {next : α → Except ε β} {fault : ε} :
    first >>= next = .error fault ↔
      first = .error fault ∨ ∃ value, first = .ok value ∧ next value = .error fault := by
  cases first <;> simp [bind, Except.bind]

/-- A step reads one thing and may be repeated, or it reads nothing and ends the row. -/
abbrev Step (ε α : Type) := Bytes → Except ε (Option α × Bytes)

structure Shrinks (step : Step ε α) : Prop where
  item : ∀ {start rest : Bytes} {a : α}, step start = .ok (some a, rest) →
    rest.length < start.length
  stop : ∀ {start rest : Bytes}, step start = .ok (none, rest) → rest.length ≤ start.length

/-- What was read in a row, and the bytes that are left or the fault that ended it. -/
structure Run (ε α : Type) where
  items : List α
  ending : Except ε Bytes

namespace Run

def cons (a : α) (run : Run ε α) : Run ε α := ⟨a :: run.items, run.ending⟩

/-- All items and the bytes that are left, if no fault ended the row. -/
def all (run : Run ε α) : Except ε (List α × Bytes) :=
  run.ending.map fun rest => (run.items, rest)

end Run

/-- The outcome of one step from `start`, which shrinks if it is an item. -/
inductive Progress (ε α : Type) (start : Bytes) where
  | item (a : α) (rest : Bytes) (shorter : rest.length < start.length)
  | stop (rest : Bytes)
  | fail (fault : ε)

def Progress.of (start : Bytes) : (result : Except ε (Option α × Bytes)) →
    (∀ {rest : Bytes} {a : α}, result = .ok (some a, rest) → rest.length < start.length) →
    Progress ε α start
  | .ok (some a, rest), shrinks => .item a rest (shrinks rfl)
  | .ok (none, rest), _ => .stop rest
  | .error fault, _ => .fail fault

/-- Repeats a step. -/
def many (step : Step ε α) (shrinks : Shrinks step) (start : Bytes) : Run ε α :=
  match Progress.of start (step start) shrinks.item with
  | .item a rest _ => (many step shrinks rest).cons a
  | .stop rest => ⟨[], .ok rest⟩
  | .fail fault => ⟨[], .error fault⟩
termination_by start.length

section laws

variable {step : Step ε α} {shrinks : Shrinks step} {start rest : Bytes}

private theorem progress_of_eq (shrinks : Shrinks step) {result : Except ε (Option α × Bytes)}
    (same : step start = result) :
    Progress.of start (step start) shrinks.item =
      Progress.of start result (fun {_ _} found => shrinks.item (same.trans found)) := by
  subst same
  rfl

theorem many_item {a : α} (read : step start = .ok (some a, rest)) :
    many step shrinks start = (many step shrinks rest).cons a := by
  rw [many, progress_of_eq shrinks read]
  rfl

theorem many_stop (read : step start = .ok (none, rest)) :
    many step shrinks start = ⟨[], .ok rest⟩ := by
  rw [many, progress_of_eq shrinks read]
  rfl

theorem many_fail {fault : ε} (read : step start = .error fault) :
    many step shrinks start = ⟨[], .error fault⟩ := by
  rw [many, progress_of_eq shrinks read]
  rfl

/-- What holds where a step stops or fails, and before an item where it holds after it, holds of all
runs. -/
theorem many_induction {motive : Bytes → Run ε α → Prop}
    (item : ∀ start a rest, step start = .ok (some a, rest) →
      motive rest (many step shrinks rest) → motive start ((many step shrinks rest).cons a))
    (stop : ∀ start rest, step start = .ok (none, rest) → motive start ⟨[], .ok rest⟩)
    (fail : ∀ start fault, step start = .error fault → motive start ⟨[], .error fault⟩)
    (start : Bytes) : motive start (many step shrinks start) := by
  induction size : start.length using Nat.strongRecOn generalizing start with
  | ind n ih =>
    match read : step start with
    | .ok (some a, rest) =>
      have shorter := shrinks.item read
      rw [many_item read]
      exact item start a rest read (ih rest.length (size ▸ shorter) rest rfl)
    | .ok (none, rest) =>
      rw [many_stop read]
      exact stop start rest read
    | .error fault =>
      rw [many_fail read]
      exact fail start fault read

theorem many_rest_length_le (ended : (many step shrinks start).ending = .ok rest) :
    rest.length ≤ start.length := by
  revert ended
  refine many_induction
    (motive := fun start run => run.ending = .ok rest → rest.length ≤ start.length) ?_ ?_ ?_ start
  · intro start a after read ih ended
    have shorter := shrinks.item read
    have := ih ended
    omega
  · intro start after read ended
    cases ended
    exact shrinks.stop read
  · intro start fault read ended
    cases ended

theorem all_rest_length_le {items : List α}
    (read : (many step shrinks start).all = .ok (items, rest)) : rest.length ≤ start.length := by
  unfold Run.all at read
  match ended : (many step shrinks start).ending with
  | .ok after =>
    rw [ended] at read
    cases read
    exact many_rest_length_le ended
  | .error fault =>
    rw [ended] at read
    cases read

end laws

end DebugTables.Reading
