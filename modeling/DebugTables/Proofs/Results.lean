import Mathlib
import DebugTables.Reading

/-! Steps that may fail, one after the other: a list that is gone through item by item, and two
lists that are made in turn. All of it succeeds if every step does, and otherwise the first step that
fails says why. -/

namespace DebugTables

variable {ε α β : Type} {f : α → Except ε β} {list : List α}

theorem mapM_eq_ok_iff {results : List β} :
    list.mapM f = .ok results ↔ List.Forall₂ (fun a b => f a = .ok b) list results := by
  induction list generalizing results with
  | nil =>
    rw [List.forall₂_nil_left_iff]
    exact ⟨fun ok => (Except.ok.inj ok).symm, fun same => same ▸ rfl⟩
  | cons a rest ih =>
    rw [List.mapM_cons, Reading.bind_eq_ok_iff, List.forall₂_cons_left_iff]
    constructor
    · intro ok
      obtain ⟨b, first, ok⟩ := ok
      obtain ⟨others, rest, same⟩ := Reading.bind_eq_ok_iff.mp ok
      cases same
      exact ⟨b, others, first, ih.mp rest, rfl⟩
    · intro parts
      obtain ⟨b, others, first, rest, rfl⟩ := parts
      exact ⟨b, first, Reading.bind_eq_ok_iff.mpr ⟨others, ih.mpr rest, rfl⟩⟩

theorem exists_mapM_eq_ok (each : ∀ a ∈ list, ∃ b, f a = .ok b) :
    ∃ results, list.mapM f = .ok results := by
  induction list with
  | nil => exact ⟨[], rfl⟩
  | cons a rest ih =>
    obtain ⟨b, first⟩ := each a (List.mem_cons_self ..)
    obtain ⟨others, found⟩ := ih fun a member => each a (List.mem_cons_of_mem _ member)
    exact ⟨b :: others, mapM_eq_ok_iff.mpr (.cons first (mapM_eq_ok_iff.mp found))⟩

/-- What fails is the first element for which it fails. -/
theorem mapM_eq_error_iff {fault : ε} :
    list.mapM f = .error fault ↔ ∃ before a after, list = before ++ a :: after ∧
      (∀ earlier ∈ before, ∃ b, f earlier = .ok b) ∧ f a = .error fault := by
  induction list with
  | nil => simp [pure, Except.pure]
  | cons first rest ih =>
    rw [List.mapM_cons, Reading.bind_eq_error_iff]
    constructor
    · rintro (failed | ⟨b, ok, failed⟩)
      · exact ⟨[], first, rest, rfl, by simp, failed⟩
      · rcases Reading.bind_eq_error_iff.mp failed with failed | ⟨others, -, done⟩
        · obtain ⟨before, a, after, rfl, each, failed⟩ := ih.mp failed
          exact ⟨first :: before, a, after, rfl, List.forall_mem_cons.mpr ⟨⟨b, ok⟩, each⟩, failed⟩
        · cases done
    · rintro ⟨_ | ⟨earlier, before⟩, a, after, split, each, failed⟩
      · obtain ⟨rfl, rfl⟩ := List.cons.inj split
        exact Or.inl failed
      · obtain ⟨rfl, rfl⟩ := List.cons.inj split
        obtain ⟨⟨b, ok⟩, each⟩ := List.forall_mem_cons.mp each
        have later := ih.mpr ⟨before, a, after, rfl, each, failed⟩
        exact Or.inr ⟨b, ok, Reading.bind_eq_error_iff.mpr (Or.inl later)⟩

theorem append_eq_ok_iff {first second : Except ε (List α)} {result : List α} :
    (do return (← first) ++ (← second)) = .ok result ↔
      ∃ a b, first = .ok a ∧ second = .ok b ∧ result = a ++ b := by
  rw [Reading.bind_eq_ok_iff]
  constructor
  · intro ok
    obtain ⟨a, first, ok⟩ := ok
    obtain ⟨b, second, same⟩ := Reading.bind_eq_ok_iff.mp ok
    cases same
    exact ⟨a, b, first, second, rfl⟩
  · intro parts
    obtain ⟨a, b, first, second, rfl⟩ := parts
    exact ⟨a, first, Reading.bind_eq_ok_iff.mpr ⟨b, second, rfl⟩⟩

theorem append_eq_error_iff {first second : Except ε (List α)} {fault : ε} :
    (do return (← first) ++ (← second)) = .error fault ↔
      first = .error fault ∨ (∃ a, first = .ok a) ∧ second = .error fault := by
  rw [Reading.bind_eq_error_iff, ← exists_and_right]
  refine or_congr_right (exists_congr fun a => and_congr_right fun _ => ?_)
  rw [Reading.bind_eq_error_iff]
  simp [pure, Except.pure]

/-- Results are all good exactly where they are those of the values they hold. -/
theorem mapM_id_eq_ok_iff {results : List (Except ε α)} {values : List α} :
    results.mapM id = .ok values ↔ results = values.map .ok := by
  rw [mapM_eq_ok_iff, ← List.forall₂_eq_eq_eq, List.forall₂_map_right_iff]
  rfl

end DebugTables
