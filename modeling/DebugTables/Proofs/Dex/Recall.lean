import Mathlib
import DebugTables.Proofs.Dex.FirstFault
import DebugTables.Proofs.Dex.Image
import DebugTables.Proofs.Dex.Openings
import DebugTables.Proofs.Dex.Positions

/-! What a restart opens again. Where debug info can be decoded, a restart that opens a range brings
back the last local that was live in its register. But the decoder only remembers what instructions
start, not what the method is entered with, so debug info that restarts a parameter before anything
is started in its register is refused. -/

namespace DebugTables.Dex

namespace Instruction

/-- A local is started in the register. -/
def Starts (register : UInt32) (instructions : List Instruction) : Prop :=
  ∃ name type signature, Instruction.startLocal register name type signature ∈ instructions

/-- Every restart comes after a start in its register. -/
def Restartable : List Instruction → Prop :=
  Throughout fun before instruction => ∀ register, instruction = .restartLocal register →
    Starts register before

/-- Apart from starts before their restarts, instructions have all that they need: they lead to
words and their texts are in the pools. -/
def Resolvable (pools : Pools) (lineStart : UInt32) : List Instruction → Prop :=
  Throughout fun before instruction => InRange lineStart (before ++ [instruction]) ∧
    ((∀ register, instruction ≠ .restartLocal register) → instruction.Supplied pools before)

section instructions

variable {pools : Pools} {lineStart : UInt32} {instructions : List Instruction}

theorem executes_iff : Executes pools lineStart instructions ↔
    Resolvable pools lineStart instructions ∧ Restartable instructions := by
  constructor
  · intro executes
    refine ⟨?_, ?_⟩
    · intro before instruction after split
      have needed := executes before instruction after split
      exact ⟨needed.1, fun _ => needed.2⟩
    · rintro before _ after split register rfl
      exact (executes before _ after split).2
  · rintro ⟨resolvable, restartable⟩ before instruction after split
    obtain ⟨inside, supplied⟩ := resolvable before instruction after split
    refine ⟨inside, ?_⟩
    by_cases restarts : ∃ register, instruction = .restartLocal register
    · obtain ⟨register, rfl⟩ := restarts
      exact restartable before _ after split register rfl
    · exact supplied (not_exists.mp restarts)

/-- Where not every restart comes after a start, there is a first one that does not. -/
theorem exists_first_unstarted (fails : ¬Restartable instructions) :
    ∃ before register after, instructions = before ++ .restartLocal register :: after ∧
      Restartable before ∧ ¬Starts register before := by
  obtain ⟨before, instruction, after, split, restartable, unstarted⟩ :=
    exists_first_of_not_throughout fails
  push Not at unstarted
  obtain ⟨register, rfl, unstarted⟩ := unstarted
  exact ⟨before, register, after, split, restartable, unstarted⟩

end instructions

end Instruction

open Instruction

section decoding

variable {pools : Pools} {item : Item} {names : List (Option String)}

theorem exists_ofItem_of_restartable (named : item.parameterNames.mapM pools.string = .ok names)
    (resolvable : Resolvable pools item.lineStart item.instructions)
    (restartable : Restartable item.instructions) : ∃ info, DebugInfo.ofItem pools item = .ok info := by
  have executes := executes_iff.mpr ⟨resolvable, restartable⟩
  rw [DebugInfo.exists_ofItem_iff named]
  exact (exists_events_iff_executes (Position.after_nil _) (executes_nil _ _)).mpr executes

/-- Debug info with a restart before any start in its register is refused at the first of them. -/
theorem exists_ofItem_eq_unstarted (named : item.parameterNames.mapM pools.string = .ok names)
    (resolvable : Resolvable pools item.lineStart item.instructions)
    (fails : ¬Restartable item.instructions) : ∃ before register after offset,
      item.instructions = before ++ .restartLocal register :: after ∧ Restartable before ∧
      ¬Starts register before ∧ UInt32.toNat offset = addressAfter before ∧
      DebugInfo.ofItem pools item = .error (.restartWithoutStart register offset) := by
  obtain ⟨before, register, after, split, restartable, unstarted⟩ := exists_first_unstarted fails
  have earlier : Resolvable pools item.lineStart before := Throughout.of_append (split ▸ resolvable)
  have executes := executes_iff.mpr ⟨earlier, restartable⟩
  have inside := (resolvable before _ after split).1.address
  rw [addressAfter_concat] at inside
  have offset : (UInt32.ofNat (addressAfter before)).toNat = addressAfter before :=
    UInt32.toNat_ofNat_of_lt (show _ < 0x100000000 by omega)
  refine ⟨before, register, after, _, split, restartable, unstarted, offset, ?_⟩
  rw [DebugInfo.ofItem_eq_error_iff named, events_eq_error_iff
    (fun reached => reached.restarts_unstarted_iff) (Position.after_nil _) (executes_nil _ _)]
  exact ⟨before, _, after, split, executes, rfl, unstarted, offset⟩

end decoding

section memory

variable {live : Live} {register : UInt32} {event : Event} {events before after : List Event}
  {info : Local} {occupant : Occupant}

/-- What a register held last, on entry or after some of the events. -/
def lastLive (live : Live) (register : UInt32) (events : List Event) : Option Occupant :=
  events.inits.reverse.findSome? fun first => (live.after first)[register]?

/-- Every restart names the local that was started last in its register. -/
def Recalling : List Event → Prop :=
  Throughout fun before event => ∀ register found offset,
    event = .restartLocal register found offset → lastStarted register before = some found

theorem getElem?_after_concat (live : Live) (register : UInt32) (events : List Event)
    (event : Event) : (live.after (events ++ [event]))[register]? =
      heldAfter register (live.after events)[register]? event := by
  rw [← getElem?_next, Live.after, List.foldl_concat]
  rfl

theorem lastLive_concat (live : Live) (register : UInt32) (events : List Event) (event : Event) :
    lastLive live register (events ++ [event]) =
      (live.after (events ++ [event]))[register]?.or (lastLive live register events) := by
  rw [lastLive, List.inits_append, List.reverse_append, List.findSome?_append]
  simp [lastLive]

/-- What a register holds it also held last. -/
theorem or_lastLive (live : Live) (register : UInt32) (events : List Event) :
    (live.after events)[register]?.or (lastLive live register events) =
      lastLive live register events := by
  rcases events.eq_nil_or_concat' with rfl | ⟨before, last, rfl⟩
  · simp [lastLive]
  · rw [lastLive_concat, ← Option.or_assoc, Option.or_self]

theorem lastStarted_concat (register : UInt32) (events : List Event) (event : Event) :
    lastStarted register (events ++ [event]) =
      (event.starts? register).or (lastStarted register events) := by
  rw [lastStarted, List.reverse_concat', List.findSome?_cons]
  cases event.starts? register <;> rfl

theorem restarts_of_enters (enters : event.enters? = some register)
    (unstarted : event.starts? register = none) :
    ∃ found offset, event = .restartLocal register found offset := by
  cases event with
  | startLocal slot given offset =>
    cases enters
    rw [Event.starts?, if_pos rfl] at unstarted
    cases unstarted
  | restartLocal slot found offset =>
    cases enters
    exact ⟨found, offset, rfl⟩
  | _ => cases enters

/-- Where restarts name what was started last, that is also what was live last. -/
theorem exists_lastLive (recalling : Recalling events)
    (started : lastStarted register events = some info) :
    ∃ occupant, lastLive live register events = some occupant ∧
      occupant.name = info.name ∧ occupant.descriptor = info.descriptor := by
  induction events using List.reverseRecOn with
  | nil => cases started
  | append_singleton events event ih =>
    obtain ⟨earlier, recalls⟩ := throughout_concat_iff.mp recalling
    rw [lastStarted_concat] at started
    rw [lastLive_concat, getElem?_after_concat]
    cases starts : event.starts? register with
    | some given =>
      obtain ⟨offset, rfl⟩ := starts?_eq_some_iff.mp starts
      rw [starts] at started
      cases started
      exact ⟨⟨offset, info.name, info.descriptor⟩, by simp [heldAfter], rfl, rfl⟩
    | none =>
      rw [starts, Option.none_or] at started
      rcases heldAfter_cases register (live.after events)[register]? event with
        ⟨-, kept⟩ | ⟨enters, -, entered⟩ | ⟨-, empty⟩
      · rw [kept, or_lastLive]
        exact ih earlier started
      · obtain ⟨found, offset, rfl⟩ := restarts_of_enters enters starts
        have same := (recalls register found offset rfl).symm.trans started
        cases same
        -- A restart in a register that holds something leaves it there.
        cases held : (live.after events)[register]? with
        | none => exact ⟨⟨offset, info.name, info.descriptor⟩, by simp [heldAfter], rfl, rfl⟩
        | some occupant =>
          have kept : heldAfter register (some occupant) (.restartLocal register info offset) =
            some occupant := by simp [heldAfter]
          rw [kept, ← held, or_lastLive]
          exact ih earlier started
      · rw [empty, Option.none_or]
        exact ih earlier started

theorem mem_openings {entry : UInt32 × Occupant}
    (opens : event.opens? ((live.after before)[·]?) = some entry) :
    Opening.before after entry ∈ openings (live[·]?) (before ++ event :: after) := by
  induction before generalizing live with
  | nil =>
    have here : event.opens? (live[·]?) = some entry := opens
    rw [List.nil_append, openings_cons, here]
    exact List.mem_append_left _ List.mem_cons_self
  | cons first before ih =>
    rw [List.cons_append, openings_cons]
    exact List.mem_append_right _ (ih opens)

theorem exists_mem_of_forall₂ {α β : Type} {relation : α → β → Prop} {list : List α}
    {others : List β} (all : List.Forall₂ relation list others) {a : α} (member : a ∈ list) :
    ∃ b ∈ others, relation a b := by
  induction all with
  | nil => cases member
  | cons here later ih =>
    rcases List.mem_cons.mp member with rfl | member
    · exact ⟨_, List.mem_cons_self, here⟩
    · obtain ⟨b, found, related⟩ := ih member
      exact ⟨b, List.mem_cons_of_mem _ found, related⟩

theorem exists_restarted_entry {frame : Frame} {arrivals : List Arrival} {offset : UInt32}
    {entries : List LocalVariable} (known : frame.arrivals? = some arrivals)
    (recalling : Recalling events) (found : frame.locals events = .ok entries)
    (split : events = before ++ .restartLocal register info offset :: after)
    (empty : ((Live.atEntry frame.registerCount arrivals).after before)[register]? = none) :
    ∃ occupant, lastLive (Live.atEntry frame.registerCount arrivals) register before =
        some occupant ∧
      ∃ entry ∈ entries, (Opening.before after
        (register, ⟨offset, occupant.name, occupant.descriptor⟩)).Gives frame.codeSize entry := by
  obtain ⟨-, closed, remaining, closings, finished, rfl⟩ := (locals_eq_ok_iff known).mp found
  obtain ⟨order, perm, -, gives⟩ := exists_closing_order closings finished
  have started := recalling before _ after split register info offset rfl
  have earlier : Recalling before := Throughout.of_append (split ▸ recalling)
  obtain ⟨occupant, last, name, descriptor⟩ := exists_lastLive earlier started
  have opens : (Event.restartLocal register info offset).opens?
      (((Live.atEntry frame.registerCount arrivals).after before)[·]?) =
        some (register, ⟨offset, info.name, info.descriptor⟩) := if_pos empty
  have opened := split ▸ mem_openings opens
  have ordered := perm.mem_iff.mpr (List.mem_append_right _ opened)
  obtain ⟨entry, listed, given⟩ := exists_mem_of_forall₂ gives ordered
  rw [← name, ← descriptor] at given
  exact ⟨occupant, last, entry, listed, given⟩

end memory

/-- Which restarts are decoded, and what they bring back. Debug info that is otherwise in order is
decoded where every restart comes after a start in its register, and is refused at the first
restart that does not, even where the register held a parameter. Whenever decoded debug info has
variables, each restart that opens a range gives a variable with the name and the descriptor of the
last local that was live in the register, be that what the method was entered with or not. -/
theorem restarts_bring_back_last_live (pools : Pools) (bytes rest : Bytes) (item : Item)
    (names : List (Option String)) (read : Item.read bytes = .ok (item, rest))
    (named : item.parameterNames.mapM pools.string = .ok names)
    (resolvable : Resolvable pools item.lineStart item.instructions) :
    (Restartable item.instructions → ∃ info, DebugInfo.decode pools bytes = .ok info) ∧
    (¬Restartable item.instructions → ∃ before register after offset,
      item.instructions = before ++ .restartLocal register :: after ∧ Restartable before ∧
      ¬Starts register before ∧ UInt32.toNat offset = addressAfter before ∧
      DebugInfo.decode pools bytes = .error (.restartWithoutStart register offset)) ∧
    ∀ info, DebugInfo.decode pools bytes = .ok info →
      ∀ frame : Frame, (∀ parameter ∈ frame.parameters, parameter.name.isSome) →
        ∃ arrivals, frame.arrivals? = some arrivals ∧
          ∀ entries, frame.locals info.events = .ok entries →
            ∀ before register found offset after,
              info.events = before ++ .restartLocal register found offset :: after →
              ((Live.atEntry frame.registerCount arrivals).after before)[register]? = none →
              ∃ occupant, lastLive (Live.atEntry frame.registerCount arrivals) register before =
                  some occupant ∧
                ∃ entry ∈ entries, (Opening.before after (register,
                  ⟨offset, occupant.name, occupant.descriptor⟩)).Gives frame.codeSize entry := by
  rw [DebugInfo.decode_of_read read]
  refine ⟨exists_ofItem_of_restartable named resolvable,
    exists_ofItem_eq_unstarted named resolvable, ?_⟩
  intro info made frame parametersNamed
  obtain ⟨arrivals, known⟩ := exists_arrivals parametersNamed
  refine ⟨arrivals, known, ?_⟩
  intro entries found before register restarted offset after split empty
  have decoded := (DebugInfo.decode_of_read read).trans made
  have recalling : Recalling info.events := by
    rintro first _ more same own given start rfl
    exact (DebugInfo.encodable_of_decode decoded).restarts first own given start more same
  exact exists_restarted_entry known recalling found split empty

/-- A local that takes over the register of a parameter, is ended there and restarted. -/
theorem restarts_bring_back_last_live_taken_over :
    let pools : Pools := ⟨["x"], ["S"]⟩
    let frame : Frame := ⟨1, none, [⟨"I", some "p", none⟩], 9⟩
    let arrival : Arrival := ⟨"p", "I", 1⟩
    let x : Local := ⟨"x", "S", none⟩
    let item : Item := ⟨0, [], [.advancePc 1, .startLocal 0 (some 0) (some 0) none, .advancePc 2,
      .endLocal 0, .advancePc 2, .restartLocal 0]⟩
    let bytes : Bytes := [0, 0, 1, 1, 3, 0, 1, 1, 1, 2, 5, 0, 1, 2, 6, 0, 0]
    let before : List Event := [.startLocal 0 x 1, .endLocal 0 3]
    let events : List Event := before ++ [.restartLocal 0 x 5]
    let entries : List LocalVariable :=
      [⟨0, 1, "p", "I", 0⟩, ⟨1, 2, "x", "S", 0⟩, ⟨5, 4, "x", "S", 0⟩]
    (Item.read bytes = .ok (item, []) ∧ item.parameterNames.mapM pools.string = .ok [] ∧
      Resolvable pools item.lineStart item.instructions) ∧
    (DebugInfo.decode pools bytes = .ok ⟨0, [], events⟩ ∧ frame.locals events = .ok entries) ∧
    ∃ occupant, lastLive (Live.atEntry 1 [arrival]) 0 before = some occupant ∧
      ∃ entry ∈ entries,
        (Opening.before [] (0, ⟨5, occupant.name, occupant.descriptor⟩)).Gives 9 entry := by
  intro pools frame arrival x item bytes before events entries
  have read : Item.read bytes = .ok (item, []) := by cbv
  have named : item.parameterNames.mapM pools.string = .ok [] := rfl
  have executed : Instruction.events pools ⟨0, 0, ∅⟩ item.instructions = .ok events := by cbv
  have executes := (exists_events_iff_executes (Position.after_nil 0)
    (executes_nil pools 0)).mp ⟨events, executed⟩
  have resolvable : Resolvable pools 0 item.instructions := (executes_iff.mp executes).1
  have decoded : DebugInfo.decode pools bytes = .ok ⟨0, [], events⟩ := by cbv
  have found : frame.locals events = .ok entries := by cbv
  have empty : ((Live.atEntry 1 [arrival]).after before)[(0 : UInt32)]? = none := by cbv
  refine ⟨⟨read, named, resolvable⟩, ⟨decoded, found⟩, ?_⟩
  obtain ⟨arrivals, known, restarts⟩ := (restarts_bring_back_last_live pools bytes [] item []
    read named resolvable).2.2 _ decoded frame (by decide)
  have given : frame.arrivals? = some [arrival] := by cbv
  rw [given] at known
  cases known
  exact restarts entries found before 0 x 5 [] rfl empty

/-- A parameter that is ended and restarted in its own register. Everything else is in order. -/
theorem restart_of_parameter_refused :
    let pools : Pools := ⟨["x"], []⟩
    let frame : Frame := ⟨1, none, [⟨"I", some "x", none⟩], 8⟩
    let arrival : Arrival := ⟨"x", "I", 1⟩
    let item : Item :=
      ⟨0, [some 0], [.advancePc 2, .endLocal 0, .advancePc 2, .restartLocal 0]⟩
    let bytes : Bytes := [0, 1, 1, 1, 2, 5, 0, 1, 2, 6, 0, 0]
    (Item.read bytes = .ok (item, []) ∧ item.parameterNames.mapM pools.string = .ok [some "x"] ∧
      Resolvable pools item.lineStart item.instructions) ∧
    (frame.arrivals? = some [arrival] ∧ frame.insSize ≤ frame.registerCount.toNat ∧
      ∀ before register after, item.instructions = before ++ .restartLocal register :: after →
        Starts register before ∨ frame.Enters register) ∧
    DebugInfo.decode pools bytes = .error (.restartWithoutStart 0 4) := by
  intro pools frame arrival item bytes
  have executed : Instruction.events pools ⟨0, 0, ∅⟩ [.advancePc 2, .endLocal 0, .advancePc 2] =
      .ok [.endLocal 0 2] := by cbv
  have executes := (exists_events_iff_executes (Position.after_nil 0)
    (executes_nil pools 0)).mp ⟨_, executed⟩
  have resolvable : Resolvable pools 0 item.instructions := by
    apply throughout_concat_iff.mpr ⟨(executes_iff.mp executes).1, _⟩
    exact ⟨⟨by decide, by decide⟩, fun other => absurd rfl (other 0)⟩
  refine ⟨⟨by cbv, by cbv, resolvable⟩, ⟨by cbv, by decide, ?_⟩, by cbv⟩
  intro before register after split
  have member : Instruction.restartLocal register ∈ item.instructions :=
    split ▸ List.mem_append_cons_self
  have own : register = 0 := by simpa [item] using member
  have entered : frame.Enters 0 := by
    change 0 ∈ frame.entered.map Prod.fst
    decide
  exact Or.inr (own ▸ entered)

end DebugTables.Dex
