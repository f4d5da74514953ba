import Mathlib
import DebugTables.Proofs.Dex.Execution
import DebugTables.Proofs.Throughout

/-! Where decoded events stand. The line and the address that execution has got to are exact sums of
what the instructions so far move them by, so every event has the sums up to its own instruction.
Execution needs these sums to stay words, and reports the first instruction that leads out of them
by the address before it. -/

namespace DebugTables.Dex

namespace Instruction

/-- The exact line after instructions that start at `lineStart`. -/
def lineAfter (lineStart : UInt32) (instructions : List Instruction) : Int :=
  lineStart.toNat + (instructions.map lineDelta).sum

/-- The exact address after instructions. -/
def addressAfter (instructions : List Instruction) : Nat :=
  (instructions.map addressDelta).sum

/-- The line and the address after instructions are words. -/
structure InRange (lineStart : UInt32) (instructions : List Instruction) : Prop where
  line : 0 ≤ lineAfter lineStart instructions ∧ lineAfter lineStart instructions < 0x100000000
  address : addressAfter instructions < 0x100000000

/-- What an instruction takes from the pools, and the start before a restart. -/
def Supplied (pools : Pools) (before : List Instruction) : Instruction → Prop
  | .startLocal _ name type signature =>
    (∃ text, pools.string name = .ok (some text)) ∧ (∃ text, pools.type type = .ok (some text)) ∧
      ∃ text, pools.string signature = .ok text
  | .restartLocal register => ∃ name type signature,
      Instruction.startLocal register name type signature ∈ before
  | .setFile name => ∃ text, pools.string name = .ok text
  | _ => True

/-- Each instruction can be executed after those before it: it leads to words, and it has what it
needs. -/
def Executes (pools : Pools) (lineStart : UInt32) (instructions : List Instruction) : Prop :=
  ∀ before instruction after, instructions = before ++ instruction :: after →
    InRange lineStart (before ++ [instruction]) ∧ instruction.Supplied pools before

/-- The kind of event that an instruction gives, for the register it names. -/
inductive Gives : Instruction → Event → Prop where
  | startLocal {register offset : UInt32} {name type signature : Option UInt32} {info : Local} :
      Gives (.startLocal register name type signature) (.startLocal register info offset)
  | endLocal {register offset : UInt32} : Gives (.endLocal register) (.endLocal register offset)
  | restartLocal {register offset : UInt32} {info : Local} :
      Gives (.restartLocal register) (.restartLocal register info offset)
  | prologueEnd {offset : UInt32} : Gives .setPrologueEnd (.prologueEnd offset)
  | epilogueBegin {offset : UInt32} : Gives .setEpilogueBegin (.epilogueBegin offset)
  | setSourceFile {index : Option UInt32} {name : Option String} {offset : UInt32} :
      Gives (.setFile index) (.setSourceFile name offset)
  | lineNumber {opcode : UInt8} {line offset : UInt32} :
      Gives (.special opcode) (.lineNumber line offset)

theorem lineAfter_concat (lineStart : UInt32) (before : List Instruction)
    (instruction : Instruction) : lineAfter lineStart (before ++ [instruction]) =
      lineAfter lineStart before + instruction.lineDelta := by
  simp [lineAfter, Int.add_assoc]

theorem addressAfter_concat (before : List Instruction) (instruction : Instruction) :
    addressAfter (before ++ [instruction]) =
      addressAfter before + instruction.addressDelta := by
  simp [addressAfter]

theorem executes_nil (pools : Pools) (lineStart : UInt32) : Executes pools lineStart [] :=
  throughout_nil

theorem Executes.of_append {pools : Pools} {lineStart : UInt32} {before after : List Instruction}
    (executes : Executes pools lineStart (before ++ after)) : Executes pools lineStart before :=
  Throughout.of_append executes

theorem executes_concat_iff {pools : Pools} {lineStart : UInt32} {before : List Instruction}
    {instruction : Instruction} : Executes pools lineStart (before ++ [instruction]) ↔
      Executes pools lineStart before ∧
        InRange lineStart (before ++ [instruction]) ∧ instruction.Supplied pools before :=
  throughout_concat_iff

end Instruction

open Instruction

/-- Where instructions have led, and which registers they have started locals in. -/
structure Position.After (position : Position) (lineStart : UInt32) (before : List Instruction) :
    Prop where
  line : (position.line.toNat : Int) = lineAfter lineStart before
  address : position.address.toNat = addressAfter before
  started : ∀ register, (∃ info, position.started[register]? = some info) ↔
    ∃ name type signature, Instruction.startLocal register name type signature ∈ before

/-- A text is missing: its index lies outside the pools, or none is given where one is needed. -/
def DebugInfoError.Textual : DebugInfoError → Prop
  | .stringIndex _ => True
  | .typeIndex _ => True
  | .nameless _ _ => True
  | .typeless _ _ => True
  | _ => False

namespace Position

variable {pools : Pools} {position next : Position} {lineStart : UInt32}
  {before rest : List Instruction} {instruction : Instruction} {event : Option Event}

theorem after_nil (lineStart : UInt32) : After ⟨lineStart, 0, ∅⟩ lineStart [] := by
  refine ⟨by simp [lineAfter], rfl, ?_⟩
  intro register
  simp

/-- An instruction leads on exactly if the sums stay words. -/
theorem After.exists_advance_iff (reached : position.After lineStart before) :
    (∃ next, position.advance instruction = .ok next) ↔
      InRange lineStart (before ++ [instruction]) := by
  constructor
  · intro advanced
    obtain ⟨next, advanced⟩ := advanced
    obtain ⟨line, address, -⟩ := advance_eq_ok_iff.mp advanced
    have lineBound := next.line.toNat_lt
    have addressBound := next.address.toNat_lt
    refine ⟨?_, ?_⟩
    · rw [lineAfter_concat, ← reached.line, ← line]
      omega
    · rw [addressAfter_concat, ← reached.address, ← address]
      omega
  · intro inside
    obtain ⟨line, address⟩ := inside
    rw [lineAfter_concat, ← reached.line] at line
    rw [addressAfter_concat, ← reached.address] at address
    obtain ⟨newLine, fits⟩ := Option.ne_none_iff_exists'.mp
      (mt Word.ofInt?_eq_none_iff.mp (not_or.mpr ⟨not_lt.mpr line.1, not_le.mpr line.2⟩))
    obtain ⟨newAddress, inside⟩ := Option.ne_none_iff_exists'.mp
      (mt Word.ofNat?_eq_none_iff.mp (not_le.mpr address))
    exact ⟨⟨newLine, newAddress, position.started⟩, advance_eq_ok_iff.mpr
      ⟨Word.ofInt?_eq_some_iff.mp fits, Word.ofNat?_eq_some_iff.mp inside, rfl⟩⟩

theorem advance_eq_error {fault : DebugInfoError}
    (failed : position.advance instruction = .error fault) :
    fault = .overflow position.address := by
  unfold advance at failed
  split at failed
  · cases failed
  · exact (Except.error.inj failed).symm

/-- At its target an instruction has an event, or none to give, exactly if it has what it needs. -/
theorem After.exists_emits_iff (reached : position.After lineStart before)
    (kept : next.started = position.started) :
    (∃ event, Emits pools next instruction event) ↔ instruction.Supplied pools before := by
  constructor
  · intro emits
    obtain ⟨event, emits⟩ := emits
    cases emits with
    | startLocal named typed signed => exact ⟨⟨_, named⟩, ⟨_, typed⟩, ⟨_, signed⟩⟩
    | restartLocal remembered => exact (reached.started _).mp ⟨_, kept ▸ remembered⟩
    | setSourceFile named => exact ⟨_, named⟩
    | _ => trivial
  · intro supplied
    cases instruction with
    | startLocal register name type signature =>
      obtain ⟨⟨name, named⟩, ⟨descriptor, typed⟩, ⟨signature, signed⟩⟩ := supplied
      exact ⟨_, @Emits.startLocal _ _ _ _ _ _ ⟨name, descriptor, signature⟩ named typed signed⟩
    | restartLocal register =>
      obtain ⟨info, remembered⟩ := (reached.started register).mpr supplied
      exact ⟨_, .restartLocal (kept ▸ remembered)⟩
    | setFile index =>
      obtain ⟨name, named⟩ := supplied
      exact ⟨_, .setSourceFile named⟩
    | advancePc delta => exact ⟨_, .advancePc⟩
    | advanceLine delta => exact ⟨_, .advanceLine⟩
    | endLocal register => exact ⟨_, .endLocal⟩
    | setPrologueEnd => exact ⟨_, .prologueEnd⟩
    | setEpilogueBegin => exact ⟨_, .epilogueBegin⟩
    | special opcode => exact ⟨_, .lineNumber⟩

/-- One step keeps to the sums, and remembers the registers that have had a local started. -/
theorem After.step (reached : position.After lineStart before)
    (advanced : position.advance instruction = .ok next)
    (emits : Emits pools next instruction event) :
    (next.remember event).After lineStart (before ++ [instruction]) := by
  obtain ⟨line, address, kept⟩ := advance_eq_ok_iff.mp advanced
  refine ⟨?_, ?_, ?_⟩
  · rw [line_remember, line, reached.line, lineAfter_concat]
  · rw [address_remember, address, reached.address, addressAfter_concat]
  · intro register
    simp only [List.mem_append, List.mem_singleton, exists_or, ← reached.started, ← kept]
    cases emits with
    | @startLocal own name type signature info named typed signed =>
      by_cases same : own = register
      · subst same
        simp [remember]
      · simp [remember, Std.ExtTreeMap.getElem?_insert, same, Ne.symm same]
    | _ => simp [remember]

theorem require_eq_error {α : Type} {fault other : DebugInfoError} {found : Option α}
    (failed : require fault found = .error other) : other = fault ∧ found = none := by
  cases found with
  | none => exact ⟨(Except.error.inj failed).symm, rfl⟩
  | some value => cases failed

/-- Apart from texts, what an instruction can lack at a position is the start before a restart. -/
theorem event?_eq_error {fault : DebugInfoError}
    (failed : position.event? pools instruction = .error fault) : fault.Textual ∨
      ∃ register, instruction = .restartLocal register ∧ position.started[register]? = none ∧
        fault = .restartWithoutStart register position.address := by
  have string {index : Option UInt32} (failed : pools.string index = .error fault) :
      fault.Textual := by
    unfold Pools.string at failed
    split at failed
    · cases failed
    · split at failed
      · cases failed
      · cases failed
        trivial
  have type {index : Option UInt32} (failed : pools.type index = .error fault) :
      fault.Textual := by
    unfold Pools.type at failed
    split at failed
    · cases failed
    · split at failed
      · cases failed
      · cases failed
        trivial
  cases instruction with
  | startLocal register name typeIndex signature =>
    left
    rcases Reading.bind_eq_error_iff.mp failed with failed | ⟨_, -, failed⟩
    · exact string failed
    rcases Reading.bind_eq_error_iff.mp failed with failed | ⟨_, -, failed⟩
    · rw [(require_eq_error failed).1]
      trivial
    rcases Reading.bind_eq_error_iff.mp failed with failed | ⟨_, -, failed⟩
    · exact type failed
    rcases Reading.bind_eq_error_iff.mp failed with failed | ⟨_, -, failed⟩
    · rw [(require_eq_error failed).1]
      trivial
    rcases Reading.bind_eq_error_iff.mp failed with failed | ⟨_, -, done⟩
    · exact string failed
    · cases done
  | restartLocal register =>
    rcases Reading.bind_eq_error_iff.mp failed with failed | ⟨_, -, done⟩
    · obtain ⟨rfl, unstarted⟩ := require_eq_error failed
      exact Or.inr ⟨register, rfl, unstarted, rfl⟩
    · cases done
  | setFile index =>
    rcases Reading.bind_eq_error_iff.mp failed with failed | ⟨_, -, done⟩
    · exact Or.inl (string failed)
    · cases done
  | _ => cases failed

end Position

open Position

section run

variable {pools : Pools} {position : Position} {lineStart : UInt32}
  {before rest : List Instruction} {events : List Event}

/-- A step that succeeds is one that can be executed, and leads on as it should. -/
theorem Position.After.executes_step {next : Position} {event : Option Event}
    {instruction : Instruction} (reached : position.After lineStart before)
    (executes : Executes pools lineStart before)
    (advanced : position.advance instruction = .ok next)
    (emits : Emits pools next instruction event) :
    Executes pools lineStart (before ++ [instruction]) := by
  have kept := (advance_eq_ok_iff.mp advanced).2.2
  exact executes_concat_iff.mpr ⟨executes, reached.exists_advance_iff.mp ⟨next, advanced⟩,
    (reached.exists_emits_iff kept).mp ⟨event, emits⟩⟩

theorem Position.After.exists_step {instruction : Instruction}
    (reached : position.After lineStart before)
    (executes : Executes pools lineStart (before ++ [instruction])) :
    ∃ next event, position.advance instruction = .ok next ∧ Emits pools next instruction event ∧
      (next.remember event).After lineStart (before ++ [instruction]) := by
  obtain ⟨-, inside, supplied⟩ := executes_concat_iff.mp executes
  obtain ⟨next, advanced⟩ := reached.exists_advance_iff.mpr inside
  have kept := (advance_eq_ok_iff.mp advanced).2.2
  obtain ⟨event, emits⟩ := (reached.exists_emits_iff kept).mpr supplied
  exact ⟨next, event, advanced, emits, reached.step advanced emits⟩

/-- A run succeeds exactly if every instruction can be executed. -/
theorem exists_events_iff_executes (reached : position.After lineStart before)
    (executes : Executes pools lineStart before) :
    (∃ events, Instruction.events pools position rest = .ok events) ↔
      Executes pools lineStart (before ++ rest) := by
  induction rest generalizing position before with
  | nil =>
    rw [List.append_nil]
    exact ⟨fun _ => executes, fun _ => ⟨[], rfl⟩⟩
  | cons instruction rest ih =>
    rw [← List.singleton_append, ← List.append_assoc]
    constructor
    · intro ok
      obtain ⟨events, ok⟩ := ok
      obtain ⟨next, event, others, advanced, emits, executed, -⟩ := events_cons_iff.mp ok
      have further := reached.executes_step executes advanced emits
      exact (ih (reached.step advanced emits) further).mp ⟨others, executed⟩
    · intro whole
      have further := whole.of_append
      obtain ⟨next, event, advanced, emits, after⟩ := reached.exists_step further
      obtain ⟨others, executed⟩ := (ih after further).mpr whole
      exact ⟨_, events_cons_iff.mpr ⟨next, event, others, advanced, emits, executed, rfl⟩⟩

/-- An instruction cannot be executed at a position. -/
def Position.Faults (pools : Pools) (position : Position) (instruction : Instruction)
    (fault : DebugInfoError) : Prop :=
  position.advance instruction = .error fault ∨
    ∃ next, position.advance instruction = .ok next ∧
      next.event? pools instruction = .error fault

theorem events_cons_eq_error_iff {instruction : Instruction} {fault : DebugInfoError} :
    Instruction.events pools position (instruction :: rest) = .error fault ↔
      position.Faults pools instruction fault ∨
        ∃ next event, position.advance instruction = .ok next ∧
          Emits pools next instruction event ∧
          Instruction.events pools (next.remember event) rest = .error fault := by
  rw [Instruction.events]
  constructor
  · intro failed
    rcases Reading.bind_eq_error_iff.mp failed with failed | ⟨next, advanced, failed⟩
    · exact Or.inl (Or.inl failed)
    rcases Reading.bind_eq_error_iff.mp failed with failed | ⟨event, found, failed⟩
    · exact Or.inl (Or.inr ⟨next, advanced, failed⟩)
    rcases Reading.bind_eq_error_iff.mp failed with failed | ⟨others, -, done⟩
    · exact Or.inr ⟨next, event, advanced, event?_eq_ok_iff.mp found, failed⟩
    · cases done
  · rintro ((failed | ⟨next, advanced, failed⟩) | ⟨next, event, advanced, emits, failed⟩)
    · exact Reading.bind_eq_error_iff.mpr (Or.inl failed)
    · refine Reading.bind_eq_error_iff.mpr (Or.inr ⟨next, advanced, ?_⟩)
      exact Reading.bind_eq_error_iff.mpr (Or.inl failed)
    · refine Reading.bind_eq_error_iff.mpr (Or.inr ⟨next, advanced, ?_⟩)
      refine Reading.bind_eq_error_iff.mpr (Or.inr ⟨event, event?_eq_ok_iff.mpr emits, ?_⟩)
      exact Reading.bind_eq_error_iff.mpr (Or.inl failed)

/-- A run has a fault exactly if the first instruction that cannot be executed has it, where the
instructions up to it tell whether it has. -/
theorem events_eq_error_iff {fault : DebugInfoError} {fails : List Instruction → Instruction → Prop}
    (faults : ∀ {position : Position} {before : List Instruction} {instruction : Instruction},
      position.After lineStart before →
        (position.Faults pools instruction fault ↔ fails before instruction))
    (reached : position.After lineStart before) (executes : Executes pools lineStart before) :
    Instruction.events pools position rest = .error fault ↔
      ∃ first instruction later, rest = first ++ instruction :: later ∧
        Executes pools lineStart (before ++ first) ∧ fails (before ++ first) instruction := by
  induction rest generalizing position before with
  | nil =>
    refine ⟨nofun, ?_⟩
    rintro ⟨first, instruction, later, same, -⟩
    cases first <;> cases same
  | cons instruction rest ih =>
    rw [events_cons_eq_error_iff, faults reached]
    constructor
    · rintro (here | ⟨next, event, advanced, emits, failed⟩)
      · exact ⟨[], instruction, rest, rfl, by rwa [List.append_nil], by rwa [List.append_nil]⟩
      · have further := reached.executes_step executes advanced emits
        obtain ⟨first, other, later, same, parts⟩ :=
          (ih (reached.step advanced emits) further).mp failed
        refine ⟨instruction :: first, other, later, congrArg (instruction :: ·) same, ?_⟩
        rwa [← List.append_cons] at parts
    · rintro ⟨_ | ⟨head, first⟩, other, later, same, executed, failed⟩
      · cases same
        rw [List.append_nil] at failed
        exact Or.inl failed
      · cases same
        rw [List.append_cons before instruction first] at executed failed
        have further := executed.of_append
        obtain ⟨next, event, advanced, emits, after⟩ := reached.exists_step further
        exact Or.inr ⟨next, event, advanced, emits,
          (ih after further).mpr ⟨first, other, later, rfl, executed, failed⟩⟩

/-- A restart needs a start before it in its register, and nothing else. -/
theorem Position.After.restarts_unstarted_iff {register offset : UInt32} {instruction : Instruction}
    (reached : position.After lineStart before) :
    position.Faults pools instruction (.restartWithoutStart register offset) ↔
      instruction = .restartLocal register ∧
        (¬∃ name type signature, Instruction.startLocal register name type signature ∈ before) ∧
        offset.toNat = addressAfter before := by
  have unstarted_iff : position.started[register]? = none ↔
      ¬∃ name type signature, Instruction.startLocal register name type signature ∈ before := by
    rw [← reached.started, ← Option.isSome_iff_exists, Option.not_isSome_iff_eq_none]
  constructor
  · rintro (failed | ⟨next, advanced, failed⟩)
    · cases advance_eq_error failed
    · obtain ⟨-, address, kept⟩ := advance_eq_ok_iff.mp advanced
      rcases event?_eq_error failed with textual | ⟨own, rfl, unstarted, same⟩
      · cases textual
      · cases same
        rw [kept] at unstarted
        exact ⟨rfl, unstarted_iff.mp unstarted, address.trans reached.address⟩
  · rintro ⟨rfl, unstarted, address⟩
    right
    have stays : (position.advance (.restartLocal register)) = .ok position :=
      advance_eq_ok_iff.mpr ⟨(Int.add_zero _).symm, rfl, rfl⟩
    refine ⟨position, stays, ?_⟩
    rw [← reached.address, UInt32.toNat_inj] at address
    rw [event?, unstarted_iff.mpr unstarted, address]
    rfl

end run

namespace DebugInfo

variable {pools : Pools} {item : Item}

/-- With its parameter names known, debug info fails exactly as its instructions do. -/
theorem ofItem_eq_error_iff {names : List (Option String)} {fault : DebugInfoError}
    (named : item.parameterNames.mapM pools.string = .ok names) :
    ofItem pools item = .error fault ↔
      Instruction.events pools ⟨item.lineStart, 0, ∅⟩ item.instructions = .error fault := by
  constructor
  · intro failed
    rcases Reading.bind_eq_error_iff.mp failed with failed | ⟨_, -, failed⟩
    · rw [named] at failed
      cases failed
    rcases Reading.bind_eq_error_iff.mp failed with failed | ⟨events, -, done⟩
    · exact failed
    · cases done
  · intro failed
    refine Reading.bind_eq_error_iff.mpr (Or.inr ⟨names, named, ?_⟩)
    exact Reading.bind_eq_error_iff.mpr (Or.inl failed)

theorem exists_ofItem_iff {names : List (Option String)}
    (named : item.parameterNames.mapM pools.string = .ok names) :
    (∃ info, ofItem pools item = .ok info) ↔
      ∃ events, Instruction.events pools ⟨item.lineStart, 0, ∅⟩ item.instructions = .ok events := by
  constructor
  · intro made
    obtain ⟨info, made⟩ := made
    exact ⟨info.events, (ofItem_eq_ok_iff.mp made).2.2⟩
  · intro executed
    obtain ⟨events, executed⟩ := executed
    exact ⟨⟨item.lineStart, names, events⟩, ofItem_eq_ok_iff.mpr ⟨rfl, named, executed⟩⟩

end DebugInfo

end DebugTables.Dex
