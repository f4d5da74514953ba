import Mathlib
import DebugTables.Proofs.Reading.Row

/-! Readers whose input says itself where it ends. Such a reader takes the same bytes whatever comes
after them, and it runs out of bytes wherever they are cut off. Readers that are put together from
such readers are of this kind as well. -/

namespace DebugTables.Reading

variable {ε α β : Type} {short : ε}

/-- Bytes are read as one value whatever comes after them, and the reader is short of bytes where
some of them are missing at the end. -/
structure Delimits (short : ε) (read : Bytes → Except ε (α × Bytes)) (part : Bytes) (a : α) :
    Prop where
  whole : ∀ tail, read (part ++ tail) = .ok (a, tail)
  cut : ∀ start missing, part = start ++ missing → missing ≠ [] → read start = .error short

/-- Whatever is read is delimited. -/
def SelfDelimiting (short : ε) (read : Bytes → Except ε (α × Bytes)) : Prop :=
  ∀ start rest a, read start = .ok (a, rest) →
    ∃ part, start = part ++ rest ∧ Delimits short read part a

section combine

variable {read : Bytes → Except ε (α × Bytes)} {next : α × Bytes → Except ε (β × Bytes)}
  {part more : Bytes} {a : α} {b : β}

theorem delimits_nil (short : ε) (a : α) : Delimits short (fun rest => .ok (a, rest)) [] a where
  whole := fun _ => rfl
  cut := by
    intro start missing split present
    exact absurd (List.append_eq_nil_iff.mp split.symm).2 present

theorem Delimits.cons {byte : UInt8} (empty : read [] = .error short)
    (after : Delimits short (fun rest => read (byte :: rest)) part a) :
    Delimits short read (byte :: part) a where
  whole := after.whole
  cut := by
    intro start missing split present
    cases start with
    | nil => exact empty
    | cons first start =>
      obtain ⟨rfl, same⟩ := List.cons.inj split
      exact after.cut start missing same present

/-- What is read next may depend on what was read first. -/
theorem Delimits.bind (first : Delimits short read part a)
    (second : Delimits short (fun rest => next (a, rest)) more b) :
    Delimits short (fun start => read start >>= next) (part ++ more) b where
  whole := by
    intro tail
    rw [List.append_assoc]
    exact bind_eq_ok_iff.mpr ⟨_, first.whole (more ++ tail), second.whole tail⟩
  cut := by
    intro start missing split present
    rcases List.append_eq_append_iff.mp split with ⟨between, rfl, same⟩ | ⟨between, same, rest⟩
    · exact bind_eq_error_iff.mpr
        (.inr ⟨_, first.whole between, second.cut between missing same present⟩)
    · cases between with
      | nil =>
        -- The cut falls between the two parts, so only the second one is missing.
        rw [List.append_nil] at same
        have read := first.whole []
        rw [List.append_nil, same] at read
        exact bind_eq_error_iff.mpr (.inr ⟨_, read, second.cut [] missing (rest ▸ rfl) present⟩)
      | cons byte between =>
        exact bind_eq_error_iff.mpr (.inl (first.cut start _ same (List.cons_ne_nil _ _)))

theorem selfDelimiting_ok (short : ε) (a : α) :
    SelfDelimiting short (fun rest => .ok (a, rest)) := by
  intro start rest found read
  cases read
  exact ⟨[], rfl, delimits_nil short a⟩

theorem SelfDelimiting.cons (empty : read [] = .error short)
    (after : ∀ byte, SelfDelimiting short fun rest => read (byte :: rest)) :
    SelfDelimiting short read := by
  intro start rest a found
  cases start with
  | nil =>
    rw [empty] at found
    cases found
  | cons byte start =>
    obtain ⟨part, rfl, delimits⟩ := after byte start rest a found
    exact ⟨byte :: part, rfl, delimits.cons empty⟩

theorem SelfDelimiting.bind (first : SelfDelimiting short read)
    (second : ∀ a, SelfDelimiting short fun rest => next (a, rest)) :
    SelfDelimiting short fun start => read start >>= next := by
  intro start rest b found
  obtain ⟨⟨a, middle⟩, foundFirst, foundSecond⟩ := bind_eq_ok_iff.mp found
  obtain ⟨part, rfl, delimits⟩ := first start middle a foundFirst
  obtain ⟨more, rfl, delimitsMore⟩ := second a middle rest b foundSecond
  exact ⟨part ++ more, (List.append_assoc ..).symm, delimits.bind delimitsMore⟩

end combine

section rows

variable {step : Step ε α} {shrinks : Shrinks step} {part more : Bytes} {a : α} {items : List α}

/-- What a row has after the outcome of its first step. -/
def manyAfter (step : Step ε α) (shrinks : Shrinks step) :
    Option α × Bytes → Except ε (List α × Bytes)
  | (some a, rest) => do
    let (others, rest) ← (many step shrinks rest).all
    return (a :: others, rest)
  | (none, rest) => return ([], rest)

theorem all_many (step : Step ε α) (shrinks : Shrinks step) (start : Bytes) :
    (many step shrinks start).all = step start >>= manyAfter step shrinks := by
  match read : step start with
  | .ok (some a, rest) =>
    rw [many_item read]
    change Run.all _ = manyAfter step shrinks (some a, rest)
    rw [manyAfter, Run.all, Run.all]
    cases ended : (many step shrinks rest).ending with
    | error fault => simp only [Run.cons, ended]; rfl
    | ok last => simp only [Run.cons, ended]; rfl
  | .ok (none, rest) =>
    rw [many_stop read]
    rfl
  | .error fault =>
    rw [many_fail read]
    rfl

theorem Delimits.stop (last : Delimits short step part none) :
    Delimits short (fun start => (many step shrinks start).all) part [] := by
  have row : Delimits short (fun start => step start >>= manyAfter step shrinks) (part ++ []) [] :=
    last.bind (delimits_nil short [])
  rw [List.append_nil] at row
  exact funext (all_many step shrinks) ▸ row

theorem Delimits.item (first : Delimits short step part (some a))
    (others : Delimits short (fun start => (many step shrinks start).all) more items) :
    Delimits short (fun start => (many step shrinks start).all) (part ++ more) (a :: items) := by
  have later : Delimits short (fun rest => manyAfter step shrinks (some a, rest)) (more ++ [])
      (a :: items) :=
    others.bind (delimits_nil short (a :: items))
  rw [List.append_nil] at later
  exact funext (all_many step shrinks) ▸ first.bind later

/-- A row ends where its step stops, so it is delimited if the steps are. -/
theorem selfDelimiting_many (each : SelfDelimiting short step) :
    SelfDelimiting short fun start => (many step shrinks start).all := by
  intro start rest items read
  obtain ⟨last, row, stop⟩ := many_all_eq_ok_iff.mp read
  clear read
  induction row with
  | done =>
    obtain ⟨part, rfl, delimits⟩ := each _ _ _ stop
    exact ⟨part, rfl, delimits.stop⟩
  | more first _ ih =>
    obtain ⟨part, rfl, delimits⟩ := each _ _ _ first
    obtain ⟨more, rfl, others⟩ := ih stop
    exact ⟨part ++ more, (List.append_assoc ..).symm, delimits.item others⟩

end rows

end DebugTables.Reading
