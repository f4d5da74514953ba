import Mathlib
import DebugTables.Proofs.Batch
import DebugTables.Proofs.ClassInfo

/-! Extraction of many classes and of one. A batch gives what it gives of each class alone. A class
file in a batch gives what it gives on its own, or its failure as a warning. A dex class on its own
stops at the first method that fails, and in a batch goes on and leaves a warning for each. -/

namespace DebugTables

section results

variable {ε α β : Type} {f : α → Except ε β}

def fault? : Except ε α → Option ε
  | .ok _ => none
  | .error fault => some fault

/-- What succeeds, in order. -/
def succeeding (f : α → Except ε β) (items : List α) : List β :=
  items.filterMap fun item => (f item).toOption

/-- What fails, in order. -/
def faults (f : α → Except ε β) (items : List α) : List ε :=
  items.filterMap fun item => fault? (f item)

theorem succeeding_cons (item : α) (rest : List α) :
    succeeding f (item :: rest) = (f item).toOption.toList ++ succeeding f rest := by
  rw [succeeding, succeeding, List.filterMap_cons]
  cases f item <;> rfl

theorem faults_cons (item : α) (rest : List α) :
    faults f (item :: rest) = (fault? (f item)).toList ++ faults f rest := by
  rw [faults, faults, List.filterMap_cons]
  cases f item <;> rfl

theorem length_succeeding_add_length_faults (f : α → Except ε β) (items : List α) :
    (succeeding f items).length + (faults f items).length = items.length := by
  induction items with
  | nil => rfl
  | cons item rest ih =>
    rw [succeeding_cons, faults_cons, List.length_cons, ← ih]
    cases f item with
    | ok value => exact Nat.add_right_comm ..
    | error fault => rfl

/-- A run that stops at the first fault, by what a run that goes on would give. -/
theorem mapM_eq_of_faults (items : List α) : items.mapM f =
    match (faults f items).head? with
    | none => .ok (succeeding f items)
    | some fault => .error fault := by
  induction items with
  | nil => rfl
  | cons item rest ih =>
    rw [List.mapM_cons, ih, faults_cons, succeeding_cons]
    cases f item with
    | ok value =>
      rw [fault?, Option.toList_none, List.nil_append]
      cases (faults f rest).head? <;> rfl
    | error fault => rfl

end results

namespace Logged

/-- A computation has a value and leaves warnings. -/
structure Gives {α : Type} (logged : Logged α) (value : α) (warnings : List Record) : Prop where
  value : logged.value = value
  warnings : logged.warnings = warnings

end Logged

open Logged

section batch

variable {α β : Type} {keep : α → Logged (List β)}

theorem gives_keepEach (keep : α → Logged (List β)) (items : List α) :
    (keepEach keep items).Gives (items.flatMap fun item => (keep item).value)
      (items.flatMap fun item => (keep item).warnings) := by
  induction items with
  | nil => exact ⟨rfl, rfl⟩
  | cons item rest ih =>
    constructor
    · rw [keepEach, value_bind, value_bind, ih.value]
      rfl
    · rw [keepEach, warnings_bind, warnings_bind, ih.warnings, warnings_pure, List.append_nil]
      rfl

theorem gives_keepOrWarn (warning : String) (attempt : Attempt ExtractError (List β)) :
    (keepOrWarn warning attempt).Gives (attempt.outcome.value.toOption.getD [])
      (attempt.outcome.warnings ++
        (fault? attempt.outcome.value).toList.map fun fault => ⟨.warn, warning ++ fault.message⟩) := by
  cases result : attempt.outcome.value with
  | ok values =>
    rw [keepOrWarn, bind_of_value result]
    exact ⟨rfl, warnings_bind ..⟩
  | error fault =>
    rw [keepOrWarn, bind_of_value result]
    exact ⟨rfl, warnings_bind ..⟩

/-- A batch gives what it keeps of each unit. The count that it ends with is no warning. -/
theorem gives_batch (format : String) (keep : α → Logged (List Method)) (items : List α) :
    (do let methods ← keepEach keep items; counted format methods).Gives
      (items.flatMap fun item => (keep item).value)
      (items.flatMap fun item => (keep item).warnings) := by
  have kept := gives_keepEach keep items
  refine ⟨kept.value, ?_⟩
  rw [warnings_bind, kept.warnings, counted, warnings_bind]
  exact List.append_nil _

theorem gives_batch_singleton (format : String) (keep : α → Logged (List Method)) (item : α) :
    (do let methods ← keepEach keep [item]; counted format methods).Gives (keep item).value
      (keep item).warnings := by
  have whole := gives_batch format keep [item]
  rwa [List.flatMap_singleton, List.flatMap_singleton] at whole

/-- So a batch gives what it gives of each unit alone. -/
theorem gives_batch_alone (format : String) (keep : α → Logged (List Method)) (items : List α) :
    let batch (items : List α) : Logged (List Method) := do
      let methods ← keepEach keep items
      counted format methods
    (batch items).Gives (items.flatMap fun item => (batch [item]).value)
      (items.flatMap fun item => (batch [item]).warnings) := by
  intro batch
  have alone (item : α) : (batch [item]).Gives (keep item).value (keep item).warnings :=
    gives_batch_singleton format keep item
  simp only [(alone _).value, (alone _).warnings]
  exact gives_batch format keep items

end batch

namespace ClassFile

/-- A batch of one class file gives its methods, or a warning with its failure. -/
def Agrees (options : Options) (readers : Readers) (file : ClassFile) : Prop :=
  let batch := extractAll options readers [file]
  let alone := (file.extract options readers).outcome
  match alone.value with
  | .ok methods => batch.Gives methods alone.warnings
  | .error fault =>
    batch.Gives [] (alone.warnings ++ [⟨.warn, "Skipping class: " ++ fault.message⟩])

theorem agrees (options : Options) (readers : Readers) (file : ClassFile) :
    file.Agrees options readers := by
  have batch : (extractAll options readers [file]).Gives _ _ :=
    gives_batch_singleton "jvm" (keep options readers) file
  have kept := gives_keepOrWarn "Skipping class: " (file.extract options readers)
  unfold Agrees
  simp only
  cases result : (file.extract options readers).outcome.value with
  | ok methods =>
    rw [result] at kept
    exact ⟨batch.value.trans kept.value,
      (batch.warnings.trans kept.warnings).trans (List.append_nil _)⟩
  | error fault =>
    rw [result] at kept
    exact ⟨batch.value.trans kept.value, batch.warnings.trans kept.warnings⟩

end ClassFile

namespace Dex

variable {owner : ClassInfo} {type : String} {options : Options} {definition : ClassDef}

/-- The method with its tables, or why it has none. -/
def MethodDef.result (owner : ClassInfo) (type : String) (method : MethodDef) :
    Except ExtractError Method :=
  (method.extract owner type).outcome.value

theorem gives_keep (method : MethodDef) : (method.keep owner type).Gives
    (method.result owner type).toOption.toList
    ((fault? (method.result owner type)).toList.map fun fault =>
      ⟨.warn, "Skipping dex method: " ++ fault.message⟩) := by
  have kept := gives_keepOrWarn "Skipping dex method: "
    ((fun extracted => [extracted]) <$> method.extract owner type)
  rw [Attempt.outcome_map, value_map, warnings_map, silent_extract method owner type,
    List.nil_append] at kept
  unfold MethodDef.result
  cases result : (method.extract owner type).outcome.value with
  | ok extracted =>
    rw [result] at kept
    exact kept
  | error fault =>
    rw [result] at kept
    exact kept

theorem gives_keepEach_methods (methods : List MethodDef) :
    (keepEach (MethodDef.keep owner type) methods).Gives
      (succeeding (MethodDef.result owner type) methods)
      ((faults (MethodDef.result owner type) methods).map fun fault =>
        ⟨.warn, "Skipping dex method: " ++ fault.message⟩) := by
  have each := gives_keepEach (MethodDef.keep owner type) methods
  simp only [(gives_keep _).value, (gives_keep _).warnings] at each
  rwa [← List.map_flatMap, ← List.filterMap_eq_flatMap_toList,
    ← List.filterMap_eq_flatMap_toList] at each

theorem value_outcome_mapM {ε α β : Type} (f : α → Attempt ε β) (items : List α) :
    (items.mapM f).outcome.value = items.mapM fun item => (f item).outcome.value := by
  induction items with
  | nil => rfl
  | cons item rest ih =>
    rw [List.mapM_cons, List.mapM_cons, ← ih]
    simp only [Attempt.value_outcome_bind]
    rfl

theorem value_extract_of_gated (gated : options.kotlinOnly = true → definition.isKotlin = true) :
    (definition.extract options).outcome.value = (do
      let owner ← definition.info.outcome.value
      definition.methods.mapM (MethodDef.result owner definition.type)) := by
  have kept : (options.kotlinOnly && !definition.isKotlin) = false := by simpa using gated
  rw [ClassDef.extract, kept]
  simp only [Bool.false_eq_true, if_false]
  rw [Attempt.value_outcome_bind]
  congr 1
  funext owner
  exact value_outcome_mapM _ _

theorem format_of_info {fault : ExtractError}
    (failed : definition.info.outcome.value = .error fault) :
    ∃ cause, fault = .format definition.name cause := by
  rw [ClassDef.value_info, ClassInfo.ofDecoded] at failed
  split at failed
  · cases failed
    exact ⟨_, rfl⟩
  · cases failed

theorem reconstruction_of_result {method : MethodDef} {fault : ExtractError}
    (failed : method.result owner type = .error fault) :
    ∃ cause, fault = .reconstruction (method.label owner.name) cause := by
  unfold MethodDef.result MethodDef.extract at failed
  split at failed
  · cases failed
  · split at failed
    · cases failed
    · rw [Attempt.value_outcome_bind, Attempt.value_outcome_mapError] at failed
      rcases Reading.bind_eq_error_iff.mp failed with early | ⟨locals, -, done⟩
      · cases read : (Frame.readLocals _ _).outcome.value with
        | ok locals =>
          rw [read] at early
          cases early
        | error cause =>
          rw [read] at early
          cases early
          exact ⟨cause, rfl⟩
      · cases done

theorem gives_extractKept_of_owner (gated : options.kotlinOnly = true → definition.isKotlin = true)
    (known : definition.info.outcome.value = .ok owner) : (definition.extractKept options).Gives
      (succeeding (MethodDef.result owner definition.type) definition.methods)
      ((faults (MethodDef.result owner definition.type) definition.methods).map fun fault =>
        ⟨.warn, "Skipping dex method: " ++ fault.message⟩) := by
  have methods := @gives_keepEach_methods owner definition.type definition.methods
  rw [extractKept_of_owner gated known]
  refine ⟨methods.value, ?_⟩
  rw [warnings_bind, silent_info definition]
  exact methods.warnings

theorem gives_extractKept_of_fault (gated : options.kotlinOnly = true → definition.isKotlin = true)
    {fault : ExtractError} (failed : definition.info.outcome.value = .error fault) :
    (definition.extractKept options).Gives []
      [⟨.warn, "Skipping dex class: " ++ fault.message⟩] := by
  rw [extractKept_of_gated gated, bind_of_value failed]
  refine ⟨rfl, ?_⟩
  rw [warnings_bind, silent_info definition]
  rfl

/-- A batch of one class gives its methods if it has no failure. Of a class that fails itself it gives
a warning with the failure. Of a class that stops at a method it gives the methods that do not fail,
and a warning with the failure of each that does, the first of which is the one it stops at. -/
def ClassDef.Agrees (options : Options) (definition : ClassDef) : Prop :=
  let batch := extractAll options [definition]
  match (definition.extract options).outcome.value with
  | .ok methods => batch.Gives methods []
  | .error (.format name cause) =>
    batch.Gives []
      [⟨.warn, "Skipping dex class: " ++ (ExtractError.format name cause).message⟩]
  | .error (.reconstruction name cause) =>
    ∃ owner, definition.info.outcome.value = .ok owner ∧
      let result := MethodDef.result owner definition.type
      batch.Gives (succeeding result definition.methods)
        ((faults result definition.methods).map fun fault =>
          ⟨.warn, "Skipping dex method: " ++ fault.message⟩) ∧
      (faults result definition.methods).head? = some (.reconstruction name cause)
  | .error (.debugInfo _ _) => False

theorem gives_extractAll_of_owner
    (gated : options.kotlinOnly = true → definition.isKotlin = true)
    (known : definition.info.outcome.value = .ok owner) :
    (ClassDef.extractAll options [definition]).Gives
      (succeeding (MethodDef.result owner definition.type) definition.methods)
      ((faults (MethodDef.result owner definition.type) definition.methods).map fun fault =>
        ⟨.warn, "Skipping dex method: " ++ fault.message⟩) := by
  have batch := gives_batch_singleton "dex" (ClassDef.extractKept options) definition
  have kept := gives_extractKept_of_owner gated known
  exact ⟨batch.value.trans kept.value, batch.warnings.trans kept.warnings⟩

theorem agrees_of_owner (gated : options.kotlinOnly = true → definition.isKotlin = true)
    (known : definition.info.outcome.value = .ok owner) : definition.Agrees options := by
  have batch := gives_extractAll_of_owner gated known
  have alone : (definition.extract options).outcome.value =
      definition.methods.mapM (MethodDef.result owner definition.type) := by
    rw [value_extract_of_gated gated, known]
    rfl
  unfold ClassDef.Agrees
  rw [alone, mapM_eq_of_faults]
  cases first : (faults (MethodDef.result owner definition.type) definition.methods).head? with
  | none =>
    rw [List.head?_eq_none_iff.mp first] at batch
    exact batch
  | some fault =>
    obtain ⟨method, -, failed⟩ := List.mem_filterMap.mp (List.mem_of_head? first)
    have failed : method.result owner definition.type = .error fault := by
      cases result : method.result owner definition.type with
      | ok extracted =>
        rw [result] at failed
        cases failed
      | error other =>
        rw [result] at failed
        cases failed
        rfl
    obtain ⟨cause, rfl⟩ := reconstruction_of_result failed
    exact ⟨owner, known, batch, first⟩

theorem agrees (options : Options) (definition : ClassDef) : definition.Agrees options := by
  by_cases gated : options.kotlinOnly = true → definition.isKotlin = true
  · cases known : definition.info.outcome.value with
    | ok owner => exact agrees_of_owner gated known
    | error fault =>
      have alone : (definition.extract options).outcome.value = .error fault := by
        rw [value_extract_of_gated gated, known]
        rfl
      have batch := gives_batch_singleton "dex" (ClassDef.extractKept options) definition
      have kept := gives_extractKept_of_fault gated known
      obtain ⟨cause, rfl⟩ := format_of_info known
      unfold ClassDef.Agrees
      rw [alone]
      exact ⟨batch.value.trans kept.value, batch.warnings.trans kept.warnings⟩
  · obtain ⟨kotlinOnly, foreign⟩ := Classical.not_imp.mp gated
    have foreign : definition.isKotlin = false := Bool.eq_false_of_not_eq_true foreign
    have alone : (definition.extract options).outcome.value = .ok [] := by
      rw [ClassDef.extract, kotlinOnly, foreign]
      rfl
    have batch := gives_batch_singleton "dex" (ClassDef.extractKept options) definition
    rw [extractKept_of_foreign kotlinOnly foreign] at batch
    unfold ClassDef.Agrees
    rw [alone]
    exact batch

end Dex

/-- A batch agrees with single extraction. In both formats a batch gives what it gives of each class
alone, in order, and it gives of a class what the class gives on its own but for the way it fails. A
dex class that is not passed over and has an owner gives a method or a warning for each method.
Warnings of a class file that are not the batch's own are those of its readers. -/
theorem batch_agrees_with_single (options : Options) (readers : ClassFile.Readers) :
    ((∀ files, (ClassFile.extractAll options readers files).Gives
        (files.flatMap fun file => (ClassFile.extractAll options readers [file]).value)
        (files.flatMap fun file => (ClassFile.extractAll options readers [file]).warnings)) ∧
      ∀ definitions, (Dex.ClassDef.extractAll options definitions).Gives
        (definitions.flatMap fun definition =>
          (Dex.ClassDef.extractAll options [definition]).value)
        (definitions.flatMap fun definition =>
          (Dex.ClassDef.extractAll options [definition]).warnings)) ∧
    ((∀ file : ClassFile, file.Agrees options readers) ∧
      (readers.Silent → ∀ file : ClassFile,
        (file.extract options readers).outcome.warnings = [])) ∧
    (∀ definition : Dex.ClassDef, definition.Agrees options) ∧
    ∀ (definition : Dex.ClassDef) (owner : ClassInfo),
      (options.kotlinOnly = true → definition.isKotlin = true) →
      definition.info.outcome.value = .ok owner →
        (Dex.ClassDef.extractAll options [definition]).value.length +
          (Dex.ClassDef.extractAll options [definition]).warnings.length =
        definition.methods.length := by
  refine ⟨⟨gives_batch_alone "jvm" (ClassFile.keep options readers),
    gives_batch_alone "dex" (Dex.ClassDef.extractKept options)⟩,
    ⟨ClassFile.agrees options readers, fun silent => ClassFile.silent_extract silent⟩,
    Dex.agrees options, ?_⟩
  intro definition owner gated known
  have batch := Dex.gives_extractAll_of_owner gated known
  rw [batch.value, batch.warnings, List.length_map, length_succeeding_add_length_faults]

/-- A method between two that fail: one ends a local where none is, one has no such register. -/
theorem batch_agrees_with_single_mixed :
    let owner : ClassInfo := ⟨"A", none, none⟩
    let early : Dex.MethodDef := ⟨"e", [], "V", 8, some ⟨1, 4, some ⟨0, [], [.endLocal 0 2]⟩⟩⟩
    let good : Dex.MethodDef := ⟨"g", [], "V", 8, none⟩
    let late : Dex.MethodDef := ⟨"l", [], "V", 8, some ⟨1, 4, some ⟨0, [], [.endLocal 3 2]⟩⟩⟩
    let definition : Dex.ClassDef := ⟨"LA;", none, [⟨kotlinMetadata, none⟩], [early, good, late]⟩
    let undefined : ExtractError := .reconstruction "A.e()V" (.undefinedRegister 0 2)
    let outside : ExtractError := .reconstruction "A.l()V" (.registerOutOfRange 3 1)
    let batch := Dex.ClassDef.extractAll ⟨true⟩ [definition]
    ((definition.extract ⟨true⟩).outcome.value = .error undefined ∧ definition.isKotlin = true ∧
      definition.info.outcome.value = .ok owner ∧ ClassFile.Readers.standard.Silent) ∧
    batch.Gives [⟨"g", "()V", 8, [], [], owner⟩]
      [⟨.warn, "Skipping dex method: " ++ undefined.message⟩,
        ⟨.warn, "Skipping dex method: " ++ outside.message⟩] ∧
    batch.value.length + batch.warnings.length = 3 := by
  intro owner early good late definition undefined outside batch
  have kotlin : definition.isKotlin = true := by cbv
  have known : definition.info.outcome.value = .ok owner := by cbv
  have kept : succeeding (Dex.MethodDef.result owner "LA;") [early, good, late] =
      [⟨"g", "()V", 8, [], [], owner⟩] := by
    cbv
  have failed : faults (Dex.MethodDef.result owner "LA;") [early, good, late] =
      [undefined, outside] := by
    cbv
  have stops : (definition.extract ⟨true⟩).outcome.value = .error undefined := by
    rw [Dex.value_extract_of_gated fun _ => kotlin, known]
    change [early, good, late].mapM (Dex.MethodDef.result owner "LA;") = _
    rw [mapM_eq_of_faults, failed]
    rfl
  obtain ⟨-, ⟨-, -⟩, agrees, count⟩ := batch_agrees_with_single ⟨true⟩ .standard
  refine ⟨⟨stops, kotlin, known, ClassFile.Readers.silent_standard⟩, ?_, ?_⟩
  · have agreed := agrees definition
    unfold Dex.ClassDef.Agrees at agreed
    rw [stops] at agreed
    obtain ⟨found, known', gives, -⟩ := agreed
    cases known.symm.trans known'
    constructor
    · exact gives.value.trans kept
    · rw [gives.warnings, failed]
      rfl
  · exact count definition owner (fun _ => kotlin) known

end DebugTables
