import Mathlib
import DebugTables.Comparison
import DebugTables.Proofs.Warnings

/-! What a unit that fails changes in a batch: it leaves one warning, and everything else is as if
the unit were not there. A run with the unit is compared to one without it, from the unit itself on
to the comparison of both formats. -/

namespace DebugTables

namespace Logged

variable {α β : Type}

theorem bind_of_value {first : Logged α} {a : α} (value : first.value = a)
    (next : α → Logged β) : (first >>= next) = (first >>= fun _ => next a) := by
  subst value
  rfl

/-- The value of another computation, with warnings added in one place among its warnings. -/
structure Adds (added : List Record) (first second : Logged α) : Prop where
  value : first.value = second.value
  warnings : ∃ earlier later,
    second.warnings = earlier ++ later ∧ first.warnings = earlier ++ added ++ later

variable {added : List Record} {first second : Logged α}

theorem Adds.before {next : α → Logged β} (adds : Adds added first second) :
    Adds added (first >>= next) (second >>= next) := by
  obtain ⟨earlier, later, less, more⟩ := adds.warnings
  refine ⟨?_, earlier, later ++ (next second.value).warnings, ?_, ?_⟩
  · rw [value_bind, value_bind, adds.value]
  · rw [warnings_bind, less, List.append_assoc]
  · rw [warnings_bind, more, adds.value, List.append_assoc]

theorem Adds.after {next other : β → Logged α} {before : Logged β}
    (adds : Adds added (next before.value) (other before.value)) :
    Adds added (before >>= next) (before >>= other) := by
  obtain ⟨earlier, later, less, more⟩ := adds.warnings
  refine ⟨adds.value, before.warnings ++ earlier, later, ?_, ?_⟩
  · rw [warnings_bind, less, List.append_assoc]
  · rw [warnings_bind, more]
    simp only [List.append_assoc]

end Logged

open Logged

section batch

variable {α β : Type} {keep : α → Logged (List β)} {added : List Record}

theorem keepEach_append (first second : List α) : keepEach keep (first ++ second) = (do
    let kept ← keepEach keep first
    let others ← keepEach keep second
    return kept ++ others) := by
  induction first with
  | nil => simp [keepEach]
  | cons a rest ih =>
    rw [List.cons_append, keepEach, ih, keepEach]
    simp only [bind_assoc, pure_bind, List.append_assoc]

/-- What a part of a batch adds, the whole batch adds. -/
theorem adds_keepEach (before after : List α) {middle : List α} (other : List α)
    (adds : Adds added (keepEach keep middle) (keepEach keep other)) :
    Adds added (keepEach keep (before ++ middle ++ after))
      (keepEach keep (before ++ other ++ after)) := by
  rw [keepEach_append, keepEach_append, keepEach_append (before ++ other), keepEach_append]
  apply Adds.before
  apply Adds.after
  exact adds.before

theorem keepEach_singleton (keep : α → Logged (List β)) (a : α) : keepEach keep [a] = keep a := by
  simp [keepEach]

theorem adds_keepEach_insert {a : α} (before after : List α)
    (adds : Adds added (keep a) (pure [])) :
    Adds added (keepEach keep (before ++ a :: after)) (keepEach keep (before ++ after)) := by
  rw [← keepEach_singleton keep a] at adds
  have whole := adds_keepEach before after [] adds
  simpa only [List.append_assoc, List.singleton_append, List.nil_append] using whole

theorem adds_keepEach_replace {a b : α} (before after : List α)
    (adds : Adds added (keep a) (keep b)) :
    Adds added (keepEach keep (before ++ a :: after)) (keepEach keep (before ++ b :: after)) := by
  rw [← keepEach_singleton keep a, ← keepEach_singleton keep b] at adds
  have whole := adds_keepEach before after [b] adds
  simpa only [List.append_assoc, List.singleton_append] using whole

/-- What fails with one warning adds it, after those of its own records that are warnings. -/
theorem adds_warning (unit : Logged α) (text : String) :
    Adds (unit.warnings ++ [⟨.warn, text⟩])
      (do let _ ← unit; Logged.emit .warn text; return ([] : List β)) (pure []) :=
  ⟨rfl, [], [], rfl, by simp⟩

theorem adds_keepOrWarn {attempt : Attempt ExtractError (List β)} {fault : ExtractError}
    (warning : String) (failed : attempt.outcome.value = .error fault) :
    Adds (attempt.outcome.warnings ++ [⟨.warn, warning ++ fault.message⟩])
      (keepOrWarn warning attempt) (pure []) := by
  rw [keepOrWarn, bind_of_value failed]
  exact adds_warning attempt.outcome (warning ++ fault.message)

end batch

namespace ClassFile

variable {options : Options} {readers : Readers}

/-- What a batch keeps of one class. -/
def keep (options : Options) (readers : Readers) (file : ClassFile) : Logged (List Method) :=
  keepOrWarn "Skipping class: " (file.extract options readers)

theorem adds_keep_foreign {file : ClassFile} (kotlinOnly : options.kotlinOnly = true)
    (foreign : file.isKotlin = false) : Adds [] (file.keep options readers) (pure []) := by
  have passed : file.extract options readers = (do
      Attempt.emit .trace ("Skipping non-Kotlin class " ++ file.name)
      return []) := by
    rw [extract, kotlinOnly, foreign]
    rfl
  rw [keep, passed]
  exact ⟨rfl, [], [], rfl, rfl⟩

end ClassFile

namespace Dex

/-- What a batch keeps of one method. -/
def MethodDef.keep (owner : ClassInfo) (type : String) (method : MethodDef) :
    Logged (List Method) :=
  keepOrWarn "Skipping dex method: "
    ((fun extracted => [extracted]) <$> method.extract owner type)

section kept

variable {options : Options} {definition : ClassDef} {fault : ExtractError} {owner : ClassInfo}

theorem extractKept_of_foreign (kotlinOnly : options.kotlinOnly = true)
    (foreign : definition.isKotlin = false) : definition.extractKept options = pure [] := by
  rw [ClassDef.extractKept, kotlinOnly, foreign]
  rfl

theorem extractKept_of_gated (gated : options.kotlinOnly = true → definition.isKotlin = true) :
    definition.extractKept options = (do
      match ← definition.info.outcome with
      | .error fault =>
        Logged.emit .warn ("Skipping dex class: " ++ fault.message)
        return []
      | .ok owner => keepEach (MethodDef.keep owner definition.type) definition.methods) := by
  have kept : (options.kotlinOnly && !definition.isKotlin) = false := by simpa using gated
  rw [ClassDef.extractKept, kept]
  rfl

theorem extractKept_of_owner (gated : options.kotlinOnly = true → definition.isKotlin = true)
    (known : definition.info.outcome.value = .ok owner) :
    definition.extractKept options = (do
      let _ ← definition.info.outcome
      keepEach (MethodDef.keep owner definition.type) definition.methods) := by
  rw [extractKept_of_gated gated, bind_of_value known]

theorem adds_extractKept_failing (gated : options.kotlinOnly = true → definition.isKotlin = true)
    (failed : definition.info.outcome.value = .error fault) :
    Adds [⟨.warn, "Skipping dex class: " ++ fault.message⟩] (definition.extractKept options)
      (pure []) := by
  have adds : Adds _ _ (pure ([] : List Method)) :=
    adds_warning definition.info.outcome ("Skipping dex class: " ++ fault.message)
  rw [silent_info definition] at adds
  rw [extractKept_of_gated gated, bind_of_value failed]
  exact adds

theorem adds_keep_failing {method : MethodDef} {type : String}
    (failed : (method.extract owner type).outcome.value = .error fault) :
    Adds [⟨.warn, "Skipping dex method: " ++ fault.message⟩] (method.keep owner type)
      (pure []) := by
  have fails : ((fun extracted => [extracted]) <$> method.extract owner type).outcome.value =
      .error fault := by
    rw [Attempt.outcome_map, value_map, failed]
    rfl
  have adds := adds_keepOrWarn "Skipping dex method: " fails
  rw [(silent_extract method owner type).map] at adds
  exact adds

/-- A failing method of a class that has an owner only adds its warning. -/
theorem adds_extractKept_insert {bad : MethodDef} (early late : List MethodDef)
    (gated : options.kotlinOnly = true → definition.isKotlin = true)
    (known : definition.info.outcome.value = .ok owner)
    (failed : (bad.extract owner definition.type).outcome.value = .error fault) :
    Adds [⟨.warn, "Skipping dex method: " ++ fault.message⟩]
      (ClassDef.extractKept options { definition with methods := early ++ bad :: late })
      (ClassDef.extractKept options { definition with methods := early ++ late }) := by
  -- Neither the gate nor the owner of a class depends on its methods.
  have others (methods : List MethodDef) :=
    @extractKept_of_owner options { definition with methods } owner gated known
  rw [others, others]
  exact Adds.after (adds_keepEach_insert early late (adds_keep_failing failed))

end kept

end Dex

section comparison

variable {options : Options} {readers : ClassFile.Readers} {added : List Record}

theorem adds_compare_files {files others : List ClassFile} (definitions : List Dex.ClassDef)
    (adds : Adds added (keepEach (ClassFile.keep options readers) files)
      (keepEach (ClassFile.keep options readers) others)) :
    Adds added (compareBatches options readers files definitions)
      (compareBatches options readers others definitions) := by
  have extracted : Adds added (ClassFile.extractAll options readers files)
      (ClassFile.extractAll options readers others) := adds.before
  exact extracted.before

theorem adds_compare_definitions (files : List ClassFile) {definitions others : List Dex.ClassDef}
    (adds : Adds added (keepEach (Dex.ClassDef.extractKept options) definitions)
      (keepEach (Dex.ClassDef.extractKept options) others)) :
    Adds added (compareBatches options readers files definitions)
      (compareBatches options readers files others) := by
  have extracted : Adds added (Dex.ClassDef.extractAll options definitions)
      (Dex.ClassDef.extractAll options others) := adds.before
  exact Adds.after extracted.before

/-- Failing units stay alone with their failures. A class file or a dex class that fails, or a
failing method of a dex class that does not, adds one warning to the comparison and changes nothing
else. A class that the options pass over adds nothing, whatever is wrong with it. Where readers
of attributes leave warnings of their own, a failing class file adds these as well. -/
theorem comparison_isolates_failing_units (options : Options) (readers : ClassFile.Readers)
    (files moreFiles : List ClassFile) (definitions moreDefinitions : List Dex.ClassDef) :
    let compared := compareBatches options readers
    (∀ (bad : ClassFile) (fault : ExtractError),
      (bad.extract options readers).outcome.value = .error fault →
        (readers.Silent → (bad.extract options readers).outcome.warnings = []) ∧
        Adds ((bad.extract options readers).outcome.warnings ++
            [⟨.warn, "Skipping class: " ++ fault.message⟩])
          (compared (files ++ bad :: moreFiles) definitions)
          (compared (files ++ moreFiles) definitions)) ∧
    (∀ (bad : Dex.ClassDef) (fault : ExtractError),
      (options.kotlinOnly = true → bad.isKotlin = true) →
      bad.info.outcome.value = .error fault →
        Adds [⟨.warn, "Skipping dex class: " ++ fault.message⟩]
          (compared files (definitions ++ bad :: moreDefinitions))
          (compared files (definitions ++ moreDefinitions))) ∧
    (∀ (definition : Dex.ClassDef) (owner : ClassInfo) (bad : Dex.MethodDef)
      (early late : List Dex.MethodDef) (fault : ExtractError),
      (options.kotlinOnly = true → definition.isKotlin = true) →
      definition.info.outcome.value = .ok owner →
      (bad.extract owner definition.type).outcome.value = .error fault →
        Adds [⟨.warn, "Skipping dex method: " ++ fault.message⟩]
          (compared files (definitions ++
            { definition with methods := early ++ bad :: late } :: moreDefinitions))
          (compared files (definitions ++
            { definition with methods := early ++ late } :: moreDefinitions))) ∧
    (options.kotlinOnly = true →
      (∀ foreign : ClassFile, foreign.isKotlin = false →
        Adds [] (compared (files ++ foreign :: moreFiles) definitions)
          (compared (files ++ moreFiles) definitions)) ∧
      ∀ foreign : Dex.ClassDef, foreign.isKotlin = false →
        Adds [] (compared files (definitions ++ foreign :: moreDefinitions))
          (compared files (definitions ++ moreDefinitions))) := by
  intro compared
  refine ⟨?_, ?_, ?_, ?_⟩
  · intro bad fault failed
    refine ⟨fun silent => ClassFile.silent_extract silent bad, ?_⟩
    have skipped := adds_keepOrWarn "Skipping class: " failed
    exact adds_compare_files definitions (adds_keepEach_insert files moreFiles skipped)
  · intro bad fault gated failed
    have skipped := Dex.adds_extractKept_failing gated failed
    exact adds_compare_definitions files
      (adds_keepEach_insert definitions moreDefinitions skipped)
  · intro definition owner bad early late fault gated known failed
    have skipped := Dex.adds_extractKept_insert early late gated known failed
    exact adds_compare_definitions files
      (adds_keepEach_replace definitions moreDefinitions skipped)
  · intro kotlinOnly
    constructor
    · intro foreign other
      have passed : Adds [] (foreign.keep options readers) (pure []) :=
        ClassFile.adds_keep_foreign kotlinOnly other
      exact adds_compare_files definitions (adds_keepEach_insert files moreFiles passed)
    · intro foreign other
      have passed : Adds [] (foreign.extractKept options) (pure []) := by
        rw [Dex.extractKept_of_foreign kotlinOnly other]
        exact ⟨rfl, [], [], rfl, rfl⟩
      exact adds_compare_definitions files
        (adds_keepEach_insert definitions moreDefinitions passed)

/-- A class that fails in either format, a method that ends a local where none is, and classes that
are not Kotlin. -/
theorem comparison_isolates_failing_units_in_turn :
    let text : ClassFile.Attribute := ⟨ClassFile.sourceDebugExtension, [0x78]⟩
    let file : ClassFile := ⟨"B", none, [kotlinMetadata], [text], []⟩
    let metadata : Dex.AnnotationEntry := ⟨kotlinMetadata, none⟩
    let definition : Dex.ClassDef :=
      ⟨"LB;", none, [metadata, ⟨Dex.sourceDebugExtension, some "x"⟩], []⟩
    let unreadable : ExtractError := .format "B" (.badHeader "x")
    let owner : Dex.ClassDef := ⟨"LA;", none, [metadata], []⟩
    let method : Dex.MethodDef :=
      ⟨"m", [], "V", 0x0008, some ⟨1, 4, some ⟨0, [], [.endLocal 0 2]⟩⟩⟩
    let undefined : ExtractError := .reconstruction "A.m()V" (.undefinedRegister 0 2)
    let compared := compareBatches ⟨true⟩ .standard
    ((file.extract ⟨true⟩ .standard).outcome.value = .error unreadable ∧
      Adds [⟨.warn, "Skipping class: " ++ unreadable.message⟩]
        (compared [file] [owner]) (compared [] [owner])) ∧
    (definition.info.outcome.value = .error unreadable ∧
      Adds [⟨.warn, "Skipping dex class: " ++ unreadable.message⟩]
        (compared [] [owner, definition]) (compared [] [owner])) ∧
    ((method.extract ⟨"A", none, none⟩ "LA;").outcome.value = .error undefined ∧
      Adds [⟨.warn, "Skipping dex method: " ++ undefined.message⟩]
        (compared [] [owner, { owner with methods := [method] }]) (compared [] [owner, owner])) ∧
    Adds [] (compared [{ file with annotations := [] }] [owner]) (compared [] [owner]) ∧
      Adds [] (compared [] [owner, { definition with annotations := [] }])
        (compared [] [owner]) := by
  intro text file metadata definition unreadable owner method undefined compared
  obtain ⟨files, definitions, methods, foreign⟩ :=
    comparison_isolates_failing_units ⟨true⟩ .standard [] [] [owner] []
  have kotlin : file.isKotlin = true := by cbv
  have failed : (file.extract ⟨true⟩ .standard).outcome.value = .error unreadable := by
    rw [ClassFile.extract, kotlin]
    cbv
  have failedInfo : definition.info.outcome.value = .error unreadable := by cbv
  have known : owner.info.outcome.value = .ok ⟨"A", none, none⟩ := by cbv
  have failedMethod : (method.extract ⟨"A", none, none⟩ "LA;").outcome.value =
      .error undefined := by cbv
  obtain ⟨silent, adds⟩ := files file unreadable failed
  rw [silent ClassFile.Readers.silent_standard] at adds
  exact ⟨⟨failed, adds⟩,
    ⟨failedInfo, definitions definition unreadable (fun _ => rfl) failedInfo⟩,
    ⟨failedMethod, methods owner ⟨"A", none, none⟩ method [] [] undefined (fun _ => rfl) known
      failedMethod⟩,
    (foreign rfl).1 _ rfl, (foreign rfl).2 _ rfl⟩

end comparison

end DebugTables
