import Mathlib
import DebugTables.Proofs.SourceMap.Grammar

/-! The smallest parts of the format are read as the format has them: a longest run is what is taken
while its class lasts, and a gap is what is skipped. -/

namespace DebugTables.Grammar

theorem skipBlanks_append {gap rest : Bytes} (separated : Gap gap rest) :
    Token.skipBlanks (gap ++ rest) = rest := by
  rw [Token.skipBlanks, List.dropWhile_append_of_pos separated.blank]
  cases rest with
  | nil => rfl
  | cons byte rest =>
    have solid := separated.longest byte rfl
    simp [solid]

/-- All bytes split into the blanks in front and the rest. -/
theorem gap_skipBlanks (bytes : Bytes) :
    ∃ gap, bytes = gap ++ Token.skipBlanks bytes ∧ Gap gap (Token.skipBlanks bytes) := by
  refine ⟨bytes.takeWhile Token.isBlank, List.takeWhile_append_dropWhile.symm, ?_, ?_⟩
  · intro byte member
    exact List.mem_takeWhile_imp member
  · intro byte member
    have := List.head?_dropWhile_not Token.isBlank bytes
    rw [Token.skipBlanks] at member
    simp_all

theorem Run.of_split {inside : UInt8 → Bool} {start run gap rest : Bytes}
    (same : start = run ++ (gap ++ rest)) (nonempty : run ≠ [])
    (within : ∀ byte ∈ run, inside byte = true)
    (longest : ∀ byte ∈ (gap ++ rest).head?, inside byte = false) (separated : Gap gap rest) :
    Run inside start run rest :=
  same ▸ .mk nonempty within longest separated

theorem run_iff {inside : UInt8 → Bool} {start run rest : Bytes} :
    Run inside start run rest ↔ start.takeWhile inside = run ∧ run ≠ [] ∧
      Token.skipBlanks (start.drop run.length) = rest := by
  refine ⟨?_, ?_⟩
  · intro parts
    rcases parts with ⟨nonempty, within, longest, separated⟩
    next gap =>
    refine ⟨?_, nonempty, ?_⟩
    · rw [List.takeWhile_append_of_pos within]
      cases tail : gap ++ rest with
      | nil => simp
      | cons byte tail =>
        rw [tail] at longest
        simp [longest byte rfl]
    · rw [List.drop_left, skipBlanks_append separated]
  · intro parts
    rcases parts with ⟨rfl, nonempty, rfl⟩
    have parts : start.takeWhile inside ++ start.dropWhile inside = start :=
      List.takeWhile_append_dropWhile
    have tail : start.drop (start.takeWhile inside).length = start.dropWhile inside := by
      have dropped := @List.drop_left _ (start.takeWhile inside) (start.dropWhile inside)
      rwa [parts] at dropped
    obtain ⟨gap, same, separated⟩ := gap_skipBlanks (start.dropWhile inside)
    have within : ∀ byte ∈ start.takeWhile inside, inside byte = true :=
      fun byte member => List.mem_takeWhile_imp member
    have longest := List.head?_dropWhile_not inside start
    rw [tail]
    refine @Run.of_split _ _ _ gap _ ?_ nonempty within ?_ separated
    · rw [← same, parts]
    · rw [← same]
      intro byte member
      rw [Option.mem_def] at member
      simpa [member] using longest

theorem word?_eq_some_iff {start word rest : Bytes} :
    Token.word? start = some (word, rest) ↔ Word start word rest := by
  rw [Word, run_iff, Token.word?]
  split
  · next empty =>
    rw [empty]
    refine ⟨?_, ?_⟩
    · intro read
      cases read
    · intro parts
      rcases parts with ⟨same, nonempty, -⟩
      exact absurd same.symm nonempty
  · next found =>
    simp only [Option.some.injEq, Prod.mk.injEq]
    refine ⟨?_, ?_⟩
    · intro parts
      rcases parts with ⟨rfl, same⟩
      exact ⟨rfl, found, same⟩
    · intro parts
      rcases parts with ⟨rfl, nonempty, same⟩
      exact ⟨rfl, same⟩

theorem name?_eq_some_iff {start rest : Bytes} {name : String} :
    Token.name? start = some (name, rest) ↔
      ∃ word, Word start word rest ∧ Utf8.decode word = name := by
  simp only [Token.name?, Option.map_eq_some_iff, Prod.exists, Prod.mk.injEq, word?_eq_some_iff]
  refine ⟨?_, ?_⟩
  · intro parts
    rcases parts with ⟨word, after, read, rfl, rfl⟩
    exact ⟨word, read, rfl⟩
  · intro parts
    rcases parts with ⟨word, read, rfl⟩
    exact ⟨word, rest, read, rfl, rfl⟩

theorem number?_eq_some_iff {start rest : Bytes} {value : UInt32} :
    Token.number? start = some (value, rest) ↔ Number start value rest := by
  simp only [Number, run_iff, Token.number?]
  split
  · next empty =>
    rw [empty]
    refine ⟨?_, ?_⟩
    · intro read
      cases read
    · intro parts
      rcases parts with ⟨digits, ⟨same, nonempty, -⟩, -⟩
      exact absurd same.symm nonempty
  · next found =>
    simp only [Option.map_eq_some_iff, Prod.mk.injEq, Word.ofNat?_eq_some_iff]
    refine ⟨?_, ?_⟩
    · intro parts
      rcases parts with ⟨number, value, rfl, same⟩
      exact ⟨_, ⟨rfl, found, same⟩, value.symm⟩
    · intro parts
      rcases parts with ⟨digits, ⟨rfl, nonempty, same⟩, stands⟩
      exact ⟨value, stands.symm, rfl, same⟩

theorem marked_append (mark after : Bytes) :
    Marked mark (mark ++ after) (Token.skipBlanks after) := by
  obtain ⟨gap, split, separated⟩ := gap_skipBlanks after
  have marked := @Marked.mk mark gap _ separated
  rwa [← split] at marked

theorem mark?_eq_some_iff {mark start rest : Bytes} :
    Token.mark? mark start = some rest ↔ Marked mark start rest := by
  rw [Token.mark?]
  refine ⟨?_, ?_⟩
  · intro read
    split at read
    · next starts =>
      obtain ⟨after, rfl⟩ := starts
      rw [List.drop_left, Option.some.injEq] at read
      exact read ▸ marked_append mark after
    · cases read
  · intro parts
    rcases parts with ⟨separated⟩
    rw [if_pos (List.prefix_append _ _), List.drop_left, skipBlanks_append separated]

theorem mark?_eq_none_iff {mark start : Bytes} :
    Token.mark? mark start = none ↔ ¬mark <+: start := by
  rw [Token.mark?]
  split
  · next starts => simp [starts]
  · next differs => simp [differs]

section heads

variable {mark start rest : Bytes} {value : UInt32}

theorem Run.head {inside : UInt8 → Bool} {run : Bytes} (text : Run inside start run rest) :
    ∃ byte, start.head? = some byte ∧ inside byte = true := by
  obtain ⟨nonempty, within, -, -⟩ := text
  cases run with
  | nil => exact absurd rfl nonempty
  | cons byte run => exact ⟨byte, rfl, within byte (List.mem_cons_self ..)⟩

theorem Number.head (text : Number start value rest) :
    ∃ byte, start.head? = some byte ∧ Token.isDigit byte = true := by
  obtain ⟨digits, run, -⟩ := text
  exact run.head

theorem Marked.starts (text : Marked mark start rest) : mark <+: start := by
  obtain ⟨separated⟩ := text
  exact List.prefix_append _ _

theorem head_of_prefix_singleton {byte : UInt8} (starts : [byte] <+: start) :
    start.head? = some byte := by
  obtain ⟨after, rfl⟩ := starts
  rfl

theorem Marked.excludes {byte other : UInt8} (text : Marked [byte] start rest)
    (differs : byte ≠ other) : ¬[other] <+: start := by
  intro starts
  have heads := head_of_prefix_singleton text.starts
  rw [head_of_prefix_singleton starts, Option.some.injEq] at heads
  exact differs heads.symm

theorem Optional.excludes {byte other : UInt8} {found : Option UInt32}
    (text : Optional [byte] start found rest) (differs : byte ≠ other)
    (ends : ¬[other] <+: rest) : ¬[other] <+: start := by
  cases text with
  | absent => exact ends
  | present marked number => exact marked.excludes differs

theorem Number.excludes {byte : UInt8} (text : Number start value rest)
    (other : Token.isDigit byte = false) : ¬[byte] <+: start := by
  intro starts
  obtain ⟨head, same, digit⟩ := text.head
  rw [head_of_prefix_singleton starts, Option.some.injEq] at same
  rw [same, digit] at other
  cases other

end heads

end DebugTables.Grammar
