import Mathlib
import DebugTables.Proofs.SourceMap.Printed

/-! Texts that are the same but for the blanks between their parts. Each run of blanks of the one is
a run of blanks of the other, so words, numbers and marks stand in both, and what follows them is
again the same but for the blanks. -/

namespace DebugTables.Grammar

/-- The same bytes, save that each longest run of blanks may be another run of blanks. -/
inductive Respaced : Bytes → Bytes → Prop where
  | nil : Respaced [] []
  | solid {byte : UInt8} {rest other : Bytes} (solid : Token.isBlank byte = false)
      (later : Respaced rest other) : Respaced (byte :: rest) (byte :: other)
  | blanks {gap otherGap rest other : Bytes} (nonempty : gap ≠ []) (otherNonempty : otherGap ≠ [])
      (separated : Gap gap rest) (otherSeparated : Gap otherGap other)
      (later : Respaced rest other) : Respaced (gap ++ rest) (otherGap ++ other)

/-- The same text with one space for each run of blanks. -/
def squeeze : Bytes → Bytes
  | [] => []
  | byte :: rest =>
    if Token.isBlank byte then 0x20 :: squeeze (Token.skipBlanks rest) else byte :: squeeze rest
termination_by bytes => bytes.length
decreasing_by
  · exact Nat.lt_succ_of_le (Token.skipBlanks_length_le rest)
  · exact Nat.lt_succ_self _

/-- The same value read, and the same left but for the blanks. -/
structure InStep {α : Type} (first second : α × Bytes) : Prop where
  value : first.1 = second.1
  rest : Respaced first.2 second.2

section respaced

variable {start other : Bytes}

theorem Respaced.skipBlanks (respaced : Respaced start other) :
    Respaced (Token.skipBlanks start) (Token.skipBlanks other) := by
  cases respaced with
  | nil => exact .nil
  | solid solid later =>
    rw [Token.skipBlanks, Token.skipBlanks, List.dropWhile_cons_of_neg (by simp [solid]),
      List.dropWhile_cons_of_neg (by simp [solid])]
    exact .solid solid later
  | blanks nonempty otherNonempty separated otherSeparated later =>
    rwa [skipBlanks_append separated, skipBlanks_append otherSeparated]

/-- Both start with the same byte, with a blank each, or not at all. -/
theorem Respaced.head (respaced : Respaced start other) : start.head? = other.head? ∨
    ∃ byte otherByte, start.head? = some byte ∧ other.head? = some otherByte ∧
      Token.isBlank byte = true ∧ Token.isBlank otherByte = true := by
  cases respaced with
  | nil => exact Or.inl rfl
  | solid solid later => exact Or.inl rfl
  | @blanks gap otherGap rest other nonempty otherNonempty separated otherSeparated later =>
    obtain ⟨byte, gap, rfl⟩ := List.exists_cons_of_ne_nil nonempty
    obtain ⟨otherByte, otherGap, rfl⟩ := List.exists_cons_of_ne_nil otherNonempty
    exact Or.inr ⟨byte, otherByte, rfl, rfl, separated.blank _ (List.mem_cons_self ..),
      otherSeparated.blank _ (List.mem_cons_self ..)⟩

/-- A longest run of bytes that are no blanks is the same in both. -/
theorem Respaced.run (inside : UInt8 → Bool)
    (outside : ∀ byte, Token.isBlank byte = true → inside byte = false)
    (respaced : Respaced start other) : start.takeWhile inside = other.takeWhile inside ∧
      Respaced (start.drop (start.takeWhile inside).length)
        (other.drop (other.takeWhile inside).length) := by
  induction respaced with
  | nil => exact ⟨rfl, .nil⟩
  | @solid byte rest other solid later ih =>
    cases within : inside byte with
    | true =>
      rw [List.takeWhile_cons_of_pos within, List.takeWhile_cons_of_pos within]
      exact ⟨congrArg (byte :: ·) ih.1, ih.2⟩
    | false =>
      rw [List.takeWhile_cons_of_neg (by simp [within]),
        List.takeWhile_cons_of_neg (by simp [within])]
      exact ⟨rfl, .solid solid later⟩
  | @blanks gap otherGap rest other nonempty otherNonempty separated otherSeparated later =>
    have ends (gap rest : Bytes) (nonempty : gap ≠ []) (separated : Gap gap rest) :
        (gap ++ rest).takeWhile inside = [] := by
      obtain ⟨byte, gap, rfl⟩ := List.exists_cons_of_ne_nil nonempty
      have blank := separated.blank byte (List.mem_cons_self ..)
      exact List.takeWhile_cons_of_neg (by simp [outside byte blank])
    rw [ends gap rest nonempty separated, ends otherGap other otherNonempty otherSeparated]
    exact ⟨rfl, .blanks nonempty otherNonempty separated otherSeparated later⟩

theorem Respaced.symm (respaced : Respaced start other) : Respaced other start := by
  induction respaced with
  | nil => exact .nil
  | solid solid later ih => exact .solid solid ih
  | blanks nonempty otherNonempty separated otherSeparated later ih =>
    exact .blanks otherNonempty nonempty otherSeparated separated ih

theorem Respaced.eq_nil_iff (respaced : Respaced start other) : start = [] ↔ other = [] := by
  cases respaced with
  | nil => exact Iff.rfl
  | solid solid later => simp
  | blanks nonempty otherNonempty separated otherSeparated later =>
    simp [nonempty, otherNonempty]

theorem Respaced.of_solid {byte : UInt8} {rest : Bytes} (respaced : Respaced start other)
    (split : start = byte :: rest) (solid : Token.isBlank byte = false) :
    ∃ otherRest, other = byte :: otherRest ∧ Respaced rest otherRest := by
  cases respaced with
  | nil => cases split
  | solid own later =>
    cases split
    exact ⟨_, rfl, later⟩
  | blanks nonempty otherNonempty separated otherSeparated later =>
    obtain ⟨first, gap, rfl⟩ := List.exists_cons_of_ne_nil nonempty
    cases split
    rw [separated.blank byte (List.mem_cons_self ..)] at solid
    cases solid

/-- A mark without blanks that stands in one text stands in the other. -/
theorem Respaced.mark {mark : Bytes} (solid : mark.all (!Token.isBlank ·) = true)
    (respaced : Respaced start other) (starts : mark <+: start) :
    mark <+: other ∧ Respaced (start.drop mark.length) (other.drop mark.length) := by
  induction mark generalizing start other with
  | nil => exact ⟨List.nil_prefix, respaced⟩
  | cons byte mark ih =>
    rw [List.all_cons, Bool.and_eq_true, Bool.not_eq_true'] at solid
    obtain ⟨after, rfl⟩ := starts
    obtain ⟨otherRest, rfl, later⟩ := respaced.of_solid rfl solid.1
    obtain ⟨starts, dropped⟩ := ih solid.2 later (List.prefix_append mark after)
    exact ⟨List.cons_prefix_cons.mpr ⟨rfl, starts⟩, dropped⟩

theorem Respaced.mark_iff {mark : Bytes} (solid : mark.all (!Token.isBlank ·) = true)
    (respaced : Respaced start other) : mark <+: start ↔ mark <+: other :=
  ⟨fun starts => (respaced.mark solid starts).1, fun starts => (respaced.symm.mark solid starts).1⟩

theorem squeeze_gap {gap rest : Bytes} (nonempty : gap ≠ []) (separated : Gap gap rest) :
    squeeze (gap ++ rest) = 0x20 :: squeeze rest := by
  obtain ⟨byte, gap, rfl⟩ := List.exists_cons_of_ne_nil nonempty
  obtain ⟨blank, longest⟩ := separated
  rw [List.forall_mem_cons] at blank
  rw [List.cons_append, squeeze, if_pos blank.1, skipBlanks_append ⟨blank.2, longest⟩]

/-- Texts are respaced exactly if they are the same with one space for each run of blanks. -/
theorem respaced_iff_squeeze : Respaced start other ↔ squeeze start = squeeze other := by
  constructor
  · intro respaced
    induction respaced with
    | nil => rfl
    | solid solid later ih =>
      rw [squeeze, squeeze, if_neg (by simp [solid]), if_neg (by simp [solid]), ih]
    | blanks nonempty otherNonempty separated otherSeparated later ih =>
      rw [squeeze_gap nonempty separated, squeeze_gap otherNonempty otherSeparated, ih]
  · intro same
    fun_induction squeeze start generalizing other with
    | case1 =>
      cases other with
      | nil => exact .nil
      | cons byte rest =>
        rw [squeeze] at same
        split at same <;> cases same
    | case2 byte rest blank ih =>
      cases other with
      | nil => rw [squeeze] at same; cases same
      | cons otherByte otherRest =>
        rw [squeeze] at same
        split at same
        · next otherBlank =>
          obtain ⟨gap, split, separated⟩ := gap_skipBlanks rest
          obtain ⟨otherGap, otherSplit, otherSeparated⟩ := gap_skipBlanks otherRest
          have later := ih (List.cons.inj same).2
          rw [split, otherSplit, ← List.cons_append, ← List.cons_append]
          exact .blanks (List.cons_ne_nil _ _) (List.cons_ne_nil _ _)
            ⟨List.forall_mem_cons.mpr ⟨blank, separated.blank⟩, separated.longest⟩
            ⟨List.forall_mem_cons.mpr ⟨otherBlank, otherSeparated.blank⟩, otherSeparated.longest⟩
            later
        · next otherSolid =>
          rw [← (List.cons.inj same).1] at otherSolid
          exact absurd rfl otherSolid
    | case3 byte rest solid ih =>
      cases other with
      | nil => rw [squeeze] at same; cases same
      | cons otherByte otherRest =>
        rw [squeeze] at same
        split at same
        · next otherBlank =>
          rw [(List.cons.inj same).1] at solid
          exact absurd rfl solid
        · next otherSolid =>
          obtain ⟨rfl, tails⟩ := List.cons.inj same
          exact .solid (by simpa using solid) (ih tails)

instance : Decidable (Respaced start other) :=
  decidable_of_iff _ respaced_iff_squeeze.symm

theorem word?_inStep (respaced : Respaced start other) :
    Option.Rel InStep (Token.word? start) (Token.word? other) := by
  obtain ⟨same, dropped⟩ := respaced.run (!Token.isBlank ·) (by simp)
  simp only [Token.word?, same] at dropped ⊢
  split
  · exact .none
  · exact .some ⟨rfl, dropped.skipBlanks⟩

theorem name?_inStep (respaced : Respaced start other) :
    Option.Rel InStep (Token.name? start) (Token.name? other) := by
  have words := word?_inStep respaced
  rw [Token.name?, Token.name?]
  generalize Token.word? start = first, Token.word? other = second at words
  cases words with
  | none => exact .none
  | some words => exact .some ⟨congrArg Utf8.decode words.value, words.rest⟩

theorem number?_inStep (respaced : Respaced start other) :
    Option.Rel InStep (Token.number? start) (Token.number? other) := by
  have outside (byte : UInt8) (blank : Token.isBlank byte = true) : Token.isDigit byte = false := by
    rw [Bool.eq_false_iff]
    intro digit
    rw [solid_of_isDigit digit] at blank
    cases blank
  obtain ⟨same, dropped⟩ := respaced.run Token.isDigit outside
  simp only [Token.number?, same] at dropped ⊢
  split
  · exact .none
  · cases Word.ofNat? (Token.digitsValue (other.takeWhile Token.isDigit)) with
    | none => exact .none
    | some value => exact .some ⟨rfl, dropped.skipBlanks⟩

/-- A mark is read in both, or in none. -/
theorem mark?_inStep {mark : Bytes} (solid : mark.all (!Token.isBlank ·) = true)
    (respaced : Respaced start other) :
    Option.Rel Respaced (Token.mark? mark start) (Token.mark? mark other) := by
  by_cases starts : mark <+: start
  · obtain ⟨otherStarts, dropped⟩ := respaced.mark solid starts
    rw [Token.mark?, Token.mark?, if_pos starts, if_pos otherStarts]
    exact .some dropped.skipBlanks
  · rw [Token.mark?, Token.mark?, if_neg starts, if_neg (mt (respaced.mark_iff solid).mpr starts)]
    exact .none

end respaced

end DebugTables.Grammar
