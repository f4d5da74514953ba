/-! Exact arithmetic on 32-bit words. A sum or difference is taken over the integers first and then
either fits in a word or is refused, so nothing wraps around. -/

namespace DebugTables

/-- The bytes of a payload, first byte first. -/
abbrev Bytes := List UInt8

namespace Word

/-- The word of value `n`, if there is one. -/
def ofNat? (n : Nat) : Option UInt32 :=
  if n < 0x100000000 then some (UInt32.ofNat n) else none

/-- The word of value `n`, if there is one. -/
def ofInt? (n : Int) : Option UInt32 :=
  if n < 0 then none else ofNat? n.toNat

theorem ofNat?_eq_some_iff {n : Nat} {word : UInt32} : ofNat? n = some word ↔ word.toNat = n := by
  have bounded := word.toNat_lt
  unfold ofNat?
  split
  · next fits =>
    rw [Option.some.injEq, ← UInt32.toNat_inj, UInt32.toNat_ofNat', Nat.mod_eq_of_lt fits]
    exact eq_comm
  · next leaves => simp only [reduceCtorEq, false_iff]; omega

theorem ofNat?_eq_none_iff {n : Nat} : ofNat? n = none ↔ 0x100000000 ≤ n := by
  unfold ofNat?
  split <;> simp <;> omega

theorem ofInt?_eq_some_iff {n : Int} {word : UInt32} :
    ofInt? n = some word ↔ (word.toNat : Int) = n := by
  unfold ofInt?
  split
  · next negative => simp only [reduceCtorEq, false_iff]; omega
  · next natural => rw [ofNat?_eq_some_iff]; omega

theorem ofInt?_eq_none_iff {n : Int} : ofInt? n = none ↔ n < 0 ∨ 0x100000000 ≤ n := by
  unfold ofInt?
  split
  · next negative => simp [negative]
  · next natural => rw [ofNat?_eq_none_iff]; omega

end Word

end DebugTables
