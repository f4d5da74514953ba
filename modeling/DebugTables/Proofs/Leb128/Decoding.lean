import Mathlib
import DebugTables.Proofs.Leb128.Gathering

/-! What any bytes are read as. Both readers stop at the first byte that announces no other one, the
one with the sum of the groups as far as a word goes, the other with that sum less what the sign takes.
The writers give encodings that no other one is shorter than, and these are read back. -/

namespace DebugTables.Leb128

/-- The bytes are one number, whose groups add up to `n`. -/
def Encodes (n : Nat) (bytes : Bytes) : Prop :=
  ∃ before last, bytes = before ++ [last] ∧ Whole before last ∧ groupSum bytes = n

/-- The bytes are one number, whose groups add up to `n` less what the sign takes. -/
def EncodesSigned (n : Int) (bytes : Bytes) : Prop :=
  ∃ before last, bytes = before ++ [last] ∧ Whole before last ∧ signedSum before last = n

structure Shortest (encoding : Bytes → Prop) (bytes : Bytes) : Prop where
  encodes : encoding bytes
  least : ∀ other, encoding other → bytes.length ≤ other.length

theorem length_bytesOf (number : List Nat) : (bytesOf number).length = number.length := by
  fun_induction bytesOf number <;> simp [*]

theorem exists_whole_bytesOf {number : List Nat} (nonempty : number ≠ [])
    (small : ∀ group ∈ number, group < 128) : ∃ before last,
      bytesOf number = before ++ [last] ∧ Whole before last ∧
        (before ++ [last]).map groupOf = number := by
  fun_induction bytesOf number with
  | case1 => exact absurd rfl nonempty
  | case2 last =>
    have bound := small last List.mem_cons_self
    have ends := lastByte_lt bound
    refine ⟨[], UInt8.ofNat last, rfl, ⟨by simp, ends⟩, ?_⟩
    rw [List.nil_append, List.map_singleton, groupOf_of_ends ends, toNat_lastByte bound]
  | case3 group more several ih =>
    have bound := small group List.mem_cons_self
    have low : groupOf (UInt8.ofNat (group + 128)) = group := announcingByte_mod bound
    have others := ih several fun group member => small group (List.mem_cons_of_mem _ member)
    obtain ⟨before, last, same, whole, groups⟩ := others
    have longer := whole_cons_iff.mpr ⟨le_announcingByte bound, whole⟩
    refine ⟨UInt8.ofNat (group + 128) :: before, last, ?_, longer, ?_⟩
    · rw [same, List.cons_append]
    · rw [List.cons_append, List.map_cons, groups, low]

/-- No encoding has fewer bytes than groups are needed. -/
theorem unsignedGroups_length_le_of_encodes {n : Nat} {bytes : Bytes} (encodes : Encodes n bytes) :
    (unsignedGroups n).length ≤ bytes.length := by
  obtain ⟨before, last, rfl, -, sum⟩ := encodes
  have bound := groupSum_lt (before ++ [last])
  rw [sum, pow_mul, List.length_append, List.length_singleton] at bound
  rw [List.length_append, List.length_singleton]
  exact unsignedGroups_length_le bound

theorem signedGroups_length_le_of_encodes {n : Int} {bytes : Bytes}
    (encodes : EncodesSigned n bytes) : (signedGroups n).length ≤ bytes.length := by
  obtain ⟨before, last, rfl, whole, sum⟩ := encodes
  have bounds := @signedSum_bounds before last whole.ends
  rw [sum] at bounds
  rw [List.length_append, List.length_singleton]
  exact signedGroups_length_le bounds.1 bounds.2

theorem shortest_unsigned (n : Nat) : Shortest (Encodes n) (bytesOf (unsignedGroups n)) := by
  constructor
  · obtain ⟨before, last, same, whole, groups⟩ :=
      exists_whole_bytesOf (unsignedGroups_ne_nil n) (unsignedGroups_lt n)
    refine ⟨before, last, same, whole, ?_⟩
    rw [same, ← value_map_groupOf, groups, value_unsignedGroups]
  · intro other encodes
    rw [length_bytesOf]
    exact unsignedGroups_length_le_of_encodes encodes

theorem shortest_signed (n : Int) : Shortest (EncodesSigned n) (bytesOf (signedGroups n)) := by
  constructor
  · obtain ⟨before, last, same, whole, groups⟩ :=
      exists_whole_bytesOf (signedGroups_ne_nil n) (signedGroups_lt n)
    refine ⟨before, last, same, whole, ?_⟩
    rw [signedSum, ← excess_map_groupOf whole.ends, ← value_map_groupOf, groups,
      value_signedGroups]
  · intro other encodes
    rw [length_bytesOf]
    exact signedGroups_length_le_of_encodes encodes

theorem unsigned_of_shortest {number : UInt32} {bytes : Bytes}
    (shortest : Shortest (Encodes number.toNat) bytes) (rest : Bytes) :
    unsigned (bytes ++ rest) = .ok (number, rest) := by
  obtain ⟨before, last, rfl, whole, sum⟩ := shortest.encodes
  have least := shortest.least _ (shortest_unsigned number.toNat).encodes
  have most := unsignedGroups_toNat_length_le number
  rw [length_bytesOf, List.length_append, List.length_singleton] at least
  rw [List.append_assoc, List.singleton_append, unsigned_of_whole whole (by omega), sum,
    UInt32.ofNat_toNat]

theorem signed_of_shortest {number : Int32} {bytes : Bytes}
    (shortest : Shortest (EncodesSigned number.toInt) bytes) (rest : Bytes) :
    signed (bytes ++ rest) = .ok (number, rest) := by
  obtain ⟨before, last, rfl, whole, sum⟩ := shortest.encodes
  have least := shortest.least _ (shortest_signed number.toInt).encodes
  have most := signedGroups_toInt_length_le number
  rw [length_bytesOf, List.length_append, List.length_singleton] at least
  rw [List.append_assoc, List.singleton_append, signed_of_whole whole (by omega), sum,
    Int32.ofInt_toInt]

/-- The words that the readers give are the exact numbers but for multiples of the first number that
is no word. -/
theorem residues_of_whole {before : Bytes} {last : UInt8} (whole : Whole before last)
    (short : before.length < 5) (after : Bytes) : ∃ natural integer,
      unsigned (before ++ last :: after) = .ok (natural, after) ∧
      natural.toNat = groupSum (before ++ [last]) % 2 ^ 32 ∧
      signed (before ++ last :: after) = .ok (integer, after) ∧
      integer.toInt ≡ signedSum before last [ZMOD 2 ^ 32] := by
  refine ⟨_, _, unsigned_of_whole whole short after, UInt32.toNat_ofNat',
    signed_of_whole whole short after, ?_⟩
  rw [Int32.toInt_ofInt]
  exact Int.bmod_emod ..

/-- Reading a number stops at the first byte that announces no other one, if that is among the first
five, and gives the sum of the groups up to there as far as a word goes. Otherwise it fails after
five bytes, or at the end of fewer. The word is also what its groups make when they are put into
their places one by one. So a number is read back from any shortest encoding of it, whatever comes
after that, and it has one. -/
theorem decode_as_group_sums :
    (∀ bytes : Bytes,
      (∀ before last after, bytes = before ++ last :: after → Whole before last →
        before.length < 5 → ∃ natural integer,
          unsigned bytes = .ok (natural, after) ∧
          natural.toNat = groupSum (before ++ [last]) % 2 ^ 32 ∧
          signed bytes = .ok (integer, after) ∧
          integer.toInt ≡ groupSum (before ++ [last]) - signWeight (before.length + 1) last
            [ZMOD 2 ^ 32]) ∧
      ((∀ byte ∈ bytes.take 5, 0x80 ≤ byte) →
        let fault : Fault := if 5 ≤ bytes.length then .tooLong (bytes.length - 5) else .endOfInput
        unsigned bytes = .error fault ∧ signed bytes = .error fault) ∧
      unsigned bytes = (gather 5 0 0 bytes).map (fun (gathered, rest) => (gathered.word, rest)) ∧
      signed bytes = (gather 5 0 0 bytes).map fun (gathered, rest) => (gathered.extended, rest)) ∧
    (∀ number : UInt32, Shortest (Encodes number.toNat) (writeUnsigned number) ∧
      ∀ encoding rest, Shortest (Encodes number.toNat) encoding →
        unsigned (encoding ++ rest) = .ok (number, rest)) ∧
    ∀ number : Int32, Shortest (EncodesSigned number.toInt) (writeSigned number) ∧
      ∀ encoding rest, Shortest (EncodesSigned number.toInt) encoding →
        signed (encoding ++ rest) = .ok (number, rest) := by
  refine ⟨?_, ?_, ?_⟩
  · intro bytes
    refine ⟨?_, ?_, unsigned_eq_gather bytes, signed_eq_gather bytes⟩
    · intro before last after split whole short
      rw [split]
      exact residues_of_whole whole short after
    · intro announced
      exact ⟨unsigned_of_unended announced, signed_of_unended announced⟩
  · intro number
    refine ⟨shortest_unsigned number.toNat, ?_⟩
    intro encoding rest shortest
    exact unsigned_of_shortest shortest rest
  · intro number
    refine ⟨shortest_signed number.toInt, ?_⟩
    intro encoding rest shortest
    exact signed_of_shortest shortest rest

/-- A fifth group that reaches over the word and has the sign, and bytes that never end. -/
theorem decode_as_group_sums_overhanging :
    let bytes : Bytes := [0x80, 0x80, 0x80, 0x80, 0x78, 0x05]
    let endless : Bytes := [0xFF, 0x80, 0xFF, 0x80, 0xFF, 0x01]
    (Whole [0x80, 0x80, 0x80, 0x80] 0x78 ∧ ∀ byte ∈ endless.take 5, 0x80 ≤ byte) ∧
    unsigned bytes = .ok (0x80000000, [0x05]) ∧ signed bytes = .ok (-0x80000000, [0x05]) ∧
    unsigned endless = .error (.tooLong 1) ∧
    Shortest (EncodesSigned (-65)) [0xBF, 0x7F] ∧ signed [0xBF, 0x7F, 0x02] = .ok (-65, [0x02]) := by
  intro bytes endless
  have whole : Whole [0x80, 0x80, 0x80, 0x80] 0x78 := ⟨by decide +kernel, by decide⟩
  have announced : ∀ byte ∈ endless.take 5, 0x80 ≤ byte := by decide +kernel
  obtain ⟨reads, -, back⟩ := decode_as_group_sums
  obtain ⟨natural, integer, readNatural, natural_eq, readInteger, integer_eq⟩ :=
    (reads bytes).1 [0x80, 0x80, 0x80, 0x80] 0x78 [0x05] rfl whole (by decide)
  have exact : groupSum [0x80, 0x80, 0x80, 0x80, 0x78] = 0x780000000 := by decide +kernel
  have sign : signWeight 5 0x78 = 0x800000000 := by decide +kernel
  have unsignedWord : natural = 0x80000000 := by
    apply UInt32.toNat_inj.mp
    rw [natural_eq]
    change groupSum [0x80, 0x80, 0x80, 0x80, 0x78] % 2 ^ 32 = _
    rw [exact]
    rfl
  have signedWord : integer = -0x80000000 := by
    have lower := integer.le_toInt
    have upper := integer.toInt_lt
    change integer.toInt % 2 ^ 32 = (groupSum [0x80, 0x80, 0x80, 0x80, 0x78] - signWeight 5 0x78) %
      2 ^ 32 at integer_eq
    rw [exact, sign] at integer_eq
    apply Int32.toInt_inj.mp
    change integer.toInt = -0x80000000
    omega
  have shortest : Shortest (EncodesSigned (-65)) [0xBF, 0x7F] := by
    have written : writeSigned (-65) = [0xBF, 0x7F] := by cbv
    rw [← written]
    exact (back (-65)).1
  refine ⟨⟨whole, announced⟩, ?_, ?_, ((reads endless).2.1 announced).1, shortest, ?_⟩
  · rw [readNatural, unsignedWord]
  · rw [readInteger, signedWord]
  · exact (back (-65)).2 [0xBF, 0x7F] [0x02] shortest

end DebugTables.Leb128
