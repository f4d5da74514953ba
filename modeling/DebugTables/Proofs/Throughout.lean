import Mathlib

/-! What holds of every item of a list in view of the items before it, as of events that fit to what
earlier events have led to. It is shown from the front, one item after the other, and where it fails
there is a first item that it fails for. -/

namespace DebugTables

variable {α : Type} {stands : List α → α → Prop} {items : List α}

/-- Each item stands as it should to the items before it. -/
def Throughout (stands : List α → α → Prop) (items : List α) : Prop :=
  ∀ before item after, items = before ++ item :: after → stands before item

theorem throughout_nil : Throughout stands [] := by
  intro before item after same
  cases before <;> cases same

theorem Throughout.of_append {before after : List α} (whole : Throughout stands (before ++ after)) :
    Throughout stands before := by
  intro first item more same
  exact whole first item (more ++ after) (by rw [same, List.append_assoc]; rfl)

theorem throughout_concat_iff {item : α} : Throughout stands (items ++ [item]) ↔
    Throughout stands items ∧ stands items item := by
  constructor
  · intro whole
    exact ⟨whole.of_append, whole items item [] rfl⟩
  · rintro ⟨earlier, last⟩ before other after same
    rcases after.eq_nil_or_concat' with rfl | ⟨middle, final, rfl⟩
    · obtain ⟨rfl, alone⟩ := List.append_inj' same rfl
      cases alone
      exact last
    · rw [← List.cons_append, ← List.append_assoc] at same
      exact earlier before other middle (List.append_inj' same rfl).1

/-- Where not all items stand as they should, there is a first one that does not. -/
theorem exists_first_of_not_throughout (fails : ¬Throughout stands items) :
    ∃ before item after, items = before ++ item :: after ∧ Throughout stands before ∧
      ¬stands before item := by
  induction items using List.reverseRecOn with
  | nil => exact absurd throughout_nil fails
  | append_singleton items item ih =>
    by_cases earlier : Throughout stands items
    · have last : ¬stands items item :=
        fun stands => fails (throughout_concat_iff.mpr ⟨earlier, stands⟩)
      exact ⟨items, item, [], rfl, earlier, last⟩
    · obtain ⟨before, other, after, rfl, standing, failing⟩ := ih earlier
      exact ⟨before, other, after ++ [item], by simp, standing, failing⟩

end DebugTables
