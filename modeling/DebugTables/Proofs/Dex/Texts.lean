import Mathlib
import DebugTables.Proofs.Dex.Encoding
import DebugTables.Proofs.Dex.Restarts

/-! Where texts come from. An encoded index refers to any text of its pool, save one that is so far
back that no index reaches it. What registers remember has come from the strings, so all texts of
events have. -/

namespace DebugTables.Dex
open Leb128 (Writable)

/-- The texts that a local takes from the strings. -/
def Local.strings (info : Local) : List String :=
  info.name :: info.signature.toList

/-- The texts that an event takes from the strings. -/
def Event.strings : Event → List String
  | .startLocal _ info _ => info.strings
  | .restartLocal _ info _ => info.strings
  | .setSourceFile name _ => name.toList
  | _ => []

/-- The descriptor that an event takes from the types. -/
def Event.types : Event → List String
  | .startLocal _ info _ => [info.descriptor]
  | _ => []

/-- A text that an index can refer to. The last word is no index. -/
def Indexed (pool : List String) (text : String) : Prop :=
  ∃ index : Nat, index < 0xFFFFFFFF ∧ pool[index]? = some text

/-- What an optional index refers to in a pool. -/
def lookup (pool : List String) (fault : UInt32 → DebugInfoError) :
    Option UInt32 → Except DebugInfoError (Option String)
  | none => .ok none
  | some index =>
    match pool[index.toNat]? with
    | some text => .ok (some text)
    | none => .error (fault index)

theorem string_eq_lookup (pools : Pools) : pools.string = lookup pools.strings .stringIndex := by
  funext index
  cases index <;> rfl

theorem type_eq_lookup (pools : Pools) : pools.type = lookup pools.types .typeIndex := by
  funext index
  cases index <;> rfl

/-- The texts that written indices refer to. -/
theorem lookup_image {pool : List String} {fault : UInt32 → DebugInfoError}
    {text : Option String} : (∃ index, Writable index ∧ lookup pool fault index = .ok text) ↔
      ∀ known ∈ text, Indexed pool known := by
  refine ⟨?_, ?_⟩
  · intro written known present
    rcases written with ⟨index, writable, found⟩
    cases present
    cases index with
    | none => cases found
    | some index =>
      rw [lookup] at found
      split at found
      · next known there =>
        cases found
        exact ⟨index.toNat, writable index rfl, there⟩
      · cases found
  · intro indexed
    cases text with
    | none => exact ⟨none, nofun, rfl⟩
    | some text =>
      rcases indexed text rfl with ⟨index, bound, there⟩
      have word : (UInt32.ofNat index).toNat = index :=
        UInt32.toNat_ofNat_of_lt (Nat.lt_trans bound (by decide))
      refine ⟨some (UInt32.ofNat index), ?_, ?_⟩
      · intro other same
        cases same
        rw [word]
        exact bound
      · rw [lookup, word, there]

theorem string_image {pools : Pools} {text : Option String} :
    (∃ index, Writable index ∧ pools.string index = .ok text) ↔
      ∀ known ∈ text, Indexed pools.strings known := by
  rw [string_eq_lookup]
  exact lookup_image

theorem type_image {pools : Pools} {text : Option String} :
    (∃ index, Writable index ∧ pools.type index = .ok text) ↔
      ∀ known ∈ text, Indexed pools.types known := by
  rw [type_eq_lookup]
  exact lookup_image

theorem indexed_of_names {pools : Pools} {indices : List (Option UInt32)}
    {names : List (Option String)} (writable : ∀ index ∈ indices, Writable index)
    (found : indices.mapM pools.string = .ok names) :
    names.length = indices.length ∧ ∀ name, some name ∈ names → Indexed pools.strings name := by
  induction indices generalizing names with
  | nil =>
    cases found
    exact ⟨rfl, nofun⟩
  | cons index rest ih =>
    rw [List.mapM_cons] at found
    rcases Reading.bind_eq_ok_iff.mp found with ⟨first, foundFirst, found⟩
    rcases Reading.bind_eq_ok_iff.mp found with ⟨others, foundOthers, same⟩
    cases same
    rcases ih (fun index member => writable index (List.mem_cons_of_mem _ member)) foundOthers with
      ⟨size, indexed⟩
    refine ⟨congrArg Nat.succ size, ?_⟩
    intro name member
    rcases List.mem_cons.mp member with same | member
    · have here := writable index (List.mem_cons_self ..)
      exact string_image.mp ⟨index, here, foundFirst⟩ name same.symm
    · exact indexed name member

theorem exists_indices {pools : Pools} {names : List (Option String)}
    (indexed : ∀ name, some name ∈ names → Indexed pools.strings name) :
    ∃ indices : List (Option UInt32), indices.length = names.length ∧
      (∀ index ∈ indices, Writable index) ∧ indices.mapM pools.string = .ok names := by
  induction names with
  | nil => exact ⟨[], rfl, nofun, rfl⟩
  | cons name rest ih =>
    rcases ih fun name member => indexed name (List.mem_cons_of_mem _ member) with
      ⟨others, size, writable, foundOthers⟩
    have known : ∀ text ∈ name, Indexed pools.strings text := by
      intro text present
      exact indexed text (Option.mem_def.mp present ▸ List.mem_cons_self ..)
    rcases string_image.mpr known with ⟨index, writableIndex, found⟩
    refine ⟨index :: others, congrArg Nat.succ size, ?_, ?_⟩
    · intro other member
      rcases List.mem_cons.mp member with same | member
      · exact same ▸ writableIndex
      · exact writable other member
    · rw [List.mapM_cons]
      refine Reading.bind_eq_ok_iff.mpr ⟨name, found, ?_⟩
      exact Reading.bind_eq_ok_iff.mpr ⟨rest, foundOthers, rfl⟩

/-- All locals that registers remember have indexed texts. -/
def Position.Known (pools : Pools) (position : Position) : Prop :=
  ∀ (register : UInt32) (info : Local), position.started[register]? = some info →
    ∀ text ∈ info.strings, Indexed pools.strings text

theorem indexed_of_emits {pools : Pools} {position : Position} {instruction : Instruction}
    {event : Event} (known : position.Known pools) (encodable : instruction.Encodable)
    (emits : Emits pools position instruction (some event)) :
    (∀ text ∈ event.strings, Indexed pools.strings text) ∧
      ∀ text ∈ event.types, Indexed pools.types text := by
  cases emits with
  | startLocal named typed signed =>
    rcases encodable with ⟨writableName, writableType, writableSignature⟩
    have name := string_image.mp ⟨_, writableName, named⟩
    have descriptor := type_image.mp ⟨_, writableType, typed⟩
    have signature := string_image.mp ⟨_, writableSignature, signed⟩
    refine ⟨?_, ?_⟩
    · intro text member
      rcases List.mem_cons.mp member with same | member
      · exact same ▸ name _ rfl
      · exact signature text (Option.mem_toList.mp member)
    · intro text member
      exact List.mem_singleton.mp member ▸ descriptor _ rfl
  | restartLocal remembered => exact ⟨known _ _ remembered, nofun⟩
  | setSourceFile named =>
    refine ⟨?_, nofun⟩
    intro text member
    exact string_image.mp ⟨_, encodable, named⟩ text (Option.mem_toList.mp member)
  | _ => exact ⟨nofun, nofun⟩

theorem known_remember {pools : Pools} {position : Position} {event : Option Event}
    (known : position.Known pools)
    (indexed : ∀ found ∈ event, ∀ text ∈ found.strings, Indexed pools.strings text) :
    (position.remember event).Known pools := by
  cases event with
  | none => exact known
  | some event =>
    intro register info found
    rw [started_remember] at found
    rcases Option.or_eq_some_iff.mp found with starts | ⟨-, before⟩
    · rcases starts?_eq_some_iff.mp starts with ⟨offset, same⟩
      rw [same] at indexed
      exact indexed _ rfl
    · exact known register info before

theorem indexed_of_events {pools : Pools} {position : Position} {instructions : List Instruction}
    {events : List Event} (known : position.Known pools)
    (encodable : ∀ instruction ∈ instructions, instruction.Encodable)
    (executed : Instruction.events pools position instructions = .ok events) :
    ∀ event ∈ events, (∀ text ∈ event.strings, Indexed pools.strings text) ∧
      ∀ text ∈ event.types, Indexed pools.types text := by
  -- The memory is known before each instruction, and a started local enters it with known texts.
  induction instructions generalizing position events with
  | nil =>
    cases executed
    exact nofun
  | cons instruction rest ih =>
    rcases events_cons_iff.mp executed with ⟨next, event, others, advanced, emits, executed, same⟩
    have knownNext : next.Known pools := by
      intro register info remembered
      rw [(Position.advance_eq_ok_iff.mp advanced).2.2] at remembered
      exact known register info remembered
    have here : ∀ found ∈ event, (∀ text ∈ found.strings, Indexed pools.strings text) ∧
        ∀ text ∈ found.types, Indexed pools.types text := by
      intro event present
      rw [present] at emits
      exact indexed_of_emits knownNext (encodable instruction (List.mem_cons_self ..)) emits
    have later := ih (known_remember knownNext fun found present => (here found present).1)
      (fun instruction member => encodable instruction (List.mem_cons_of_mem _ member)) executed
    intro other member
    rw [same] at member
    rcases List.mem_append.mp member with first | member
    · exact here other (Option.mem_toList.mp first)
    · exact later other member

end DebugTables.Dex
