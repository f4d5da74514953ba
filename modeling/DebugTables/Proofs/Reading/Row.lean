import Mathlib
import DebugTables.Reading

/-! Rows of things in bytes, and how a repeated step reads them: it reads a row exactly if each
thing of the row is read where it stands and the step stops after the last one. -/

namespace DebugTables.Reading

/-- Things of one kind, one after the other. An item stands between the bytes it starts at and the
bytes after it. -/
inductive Row {α : Type} (item : Bytes → α → Bytes → Prop) : Bytes → List α → Bytes → Prop where
  | done {start : Bytes} : Row item start [] start
  | more {start middle rest : Bytes} {a : α} {items : List α} (first : item start a middle)
      (others : Row item middle items rest) : Row item start (a :: items) rest

/-- A list that is printed one by one is a row, if each item may stand before what follows. -/
theorem row_flatMap {α β : Type} {item : Bytes → β → Bytes → Prop} {follow : Bytes → Prop}
    {print : α → Bytes} {value : α → β} {list : List α} {rest : Bytes} (ends : follow rest)
    (starts : ∀ {start b rest}, item start b rest → follow start)
    (each : ∀ a ∈ list, ∀ rest, follow rest → item (print a ++ rest) (value a) rest) :
    Row item (list.flatMap print ++ rest) (list.map value) rest ∧
      follow (list.flatMap print ++ rest) := by
  induction list with
  | nil => exact ⟨.done, ends⟩
  | cons a list ih =>
    rcases ih (fun a member => each a (List.mem_cons_of_mem _ member)) with ⟨row, next⟩
    have first := each a (List.mem_cons_self ..) _ next
    rw [List.flatMap_cons, List.append_assoc]
    exact ⟨.more first row, starts first⟩

variable {ε α : Type} {start rest : Bytes} {items : List α}

section rows

variable {item other : Bytes → α → Bytes → Prop}

/-- Items may be replaced by what they mean where another item or the end of the row follows. -/
theorem Row.imp {follow : Bytes → Prop} (row : Row item start items rest) (ends : follow rest)
    (starts : ∀ {start a rest}, item start a rest → follow start)
    (step : ∀ {start a rest}, item start a rest → follow rest → other start a rest) :
    Row other start items rest ∧ follow start := by
  induction row with
  | done => exact ⟨.done, ends⟩
  | more first _ ih =>
    obtain ⟨others, next⟩ := ih ends
    exact ⟨.more (step first next) others, starts first⟩

theorem Row.mono (row : Row item start items rest)
    (step : ∀ {start a rest}, item start a rest → other start a rest) :
    Row other start items rest := by
  induction row with
  | done => exact .done
  | more first _ ih => exact .more (step first) ih

theorem Row.forall_of_item {holds : α → Prop} (row : Row item start items rest)
    (each : ∀ {start a rest}, item start a rest → holds a) : ∀ a ∈ items, holds a := by
  induction row with
  | done => simp
  | more first _ ih =>
    intro a member
    rcases List.mem_cons.mp member with same | later
    · exact same ▸ each first
    · exact ih a later

/-- Of two rows that start together one goes on where the other is done. -/
theorem Row.continues {others : List α} {otherRest : Bytes}
    (row : Row item start items rest) (otherRow : Row item start others otherRest)
    (unique : ∀ {start a rest b otherRest}, item start a rest → item start b otherRest →
      a = b ∧ rest = otherRest) :
    (∃ more, Row item rest more otherRest ∧ others = items ++ more) ∨
      ∃ more, Row item otherRest more rest ∧ items = others ++ more := by
  induction row generalizing others with
  | done => exact .inl ⟨others, otherRow, rfl⟩
  | @more start middle rest a items first later ih =>
    cases otherRow with
    | done => exact .inr ⟨a :: items, .more first later, rfl⟩
    | more otherFirst otherLater =>
      obtain ⟨rfl, rfl⟩ := unique first otherFirst
      rcases ih otherLater with ⟨more, row, same⟩ | ⟨more, row, same⟩
      · exact .inl ⟨more, row, congrArg (a :: ·) same⟩
      · exact .inr ⟨more, row, congrArg (a :: ·) same⟩

end rows

theorem Run.all_eq_ok_iff {run : Run ε α} :
    run.all = .ok (items, rest) ↔ run.items = items ∧ run.ending = .ok rest := by
  unfold Run.all
  cases run.ending <;> simp [Except.map]

variable {step : Step ε α} {shrinks : Shrinks step}

/-- A repeated step reads a row of items and then stops. -/
theorem many_all_eq_ok_iff : (many step shrinks start).all = .ok (items, rest) ↔
    ∃ last, Row (fun start a rest => step start = .ok (some a, rest)) start items last ∧
      step last = .ok (none, rest) := by
  rw [Run.all_eq_ok_iff]
  refine ⟨?_, ?_⟩
  · intro parts
    rcases parts with ⟨rfl, ended⟩
    revert ended
    refine many_induction (motive := fun start run => run.ending = .ok rest → ∃ last,
      Row (fun start a rest => step start = .ok (some a, rest)) start run.items last ∧
        step last = .ok (none, rest)) ?_ ?_ ?_ start
    · intro start a middle first ih ended
      obtain ⟨last, row, stop⟩ := ih ended
      exact ⟨last, .more first row, stop⟩
    · intro start after stop ended
      cases ended
      exact ⟨start, .done, stop⟩
    · intro start fault failed ended
      cases ended
  · intro parts
    rcases parts with ⟨last, row, stop⟩
    induction row with
    | done => rw [many_stop stop]; exact ⟨rfl, rfl⟩
    | more first _ ih =>
      obtain ⟨same, ended⟩ := ih stop
      rw [many_item first, ← same]
      exact ⟨rfl, ended⟩

end DebugTables.Reading
