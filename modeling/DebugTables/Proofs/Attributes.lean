import Mathlib
import DebugTables.Proofs.ClassInfo
import DebugTables.Proofs.Results

/-! The attributes of a class file. Of the readers registered under a name the last one counts. Every
attribute with a reader is decoded: the first one that cannot be decoded fails the class, whatever
was found before it, and otherwise the first one gives the source map. Attributes without a reader
do not matter. -/

namespace DebugTables.ClassFile

namespace Readers

/-- Readers registered one after the other, the first one first. -/
def registered (calls : List (String × Reader)) : Readers :=
  calls.foldl (fun readers call => readers.register call.1 call.2) empty

theorem latest_registered (calls : List (String × Reader)) :
    (registered calls).latest = calls.reverse := by
  induction calls using List.reverseRecOn with
  | nil => rfl
  | append_singleton calls call ih =>
    rw [registered, List.foldl_concat, ← registered, register, ih, List.reverse_concat]

/-- The last registration of a name counts. -/
theorem reader?_registered_eq_some_iff {calls : List (String × Reader)} {name : String}
    {reader : Reader} : (registered calls).reader? name = some reader ↔
      ∃ before after, calls = before ++ (name, reader) :: after ∧ ∀ call ∈ after, call.1 ≠ name := by
  rw [reader?, latest_registered, List.lookup_eq_some_iff]
  constructor
  · rintro ⟨after, before, split, others⟩
    refine ⟨before.reverse, after.reverse, ?_, fun call member => ?_⟩
    · rw [← List.reverse_reverse calls, split, List.reverse_append, List.reverse_cons,
        List.append_assoc, List.singleton_append]
    · exact (bne_iff_ne.mp (others call (List.mem_reverse.mp member))).symm
  · rintro ⟨before, after, split, others⟩
    refine ⟨after.reverse, before.reverse, ?_, fun call member => ?_⟩
    · rw [split, List.reverse_append, List.reverse_cons, List.append_assoc, List.singleton_append]
    · exact bne_iff_ne.mpr (others call (List.mem_reverse.mp member)).symm

example : standard = registered [(sourceDebugExtension, SourceMap.read)] := rfl

variable {readers : Readers} {raw : Attribute}

/-- What the reader of an attribute makes of it, if it has one. -/
def decode? (readers : Readers) (raw : Attribute) : Option (Except FormatError SourceMap) :=
  (readers.reader? raw.name).map fun reader => (reader raw.info).outcome.value

/-- The attribute has no reader, or its reader does not fail. -/
def Accepts (readers : Readers) (raw : Attribute) : Prop :=
  ∀ result, readers.decode? raw = some result → ∃ map, result = .ok map

theorem decode?_eq_none_iff : readers.decode? raw = none ↔ readers.reader? raw.name = none :=
  Option.map_eq_none_iff

theorem accepts_of_decode?_eq_none (unknown : readers.decode? raw = none) : readers.Accepts raw := by
  intro result made
  rw [unknown] at made
  cases made

end Readers

variable {readers : Readers} {attributes : List Attribute}

theorem decoded_eq_filterMap (readers : Readers) (attributes : List Attribute) :
    decoded readers attributes = attributes.filterMap readers.decode? := rfl

theorem forall_accepts_iff : (∀ raw ∈ attributes, readers.Accepts raw) ↔
    ∀ result ∈ decoded readers attributes, ∃ map, result = .ok map := by
  simp only [decoded_eq_filterMap, List.mem_filterMap, Readers.Accepts]
  exact ⟨fun each result ⟨raw, member, made⟩ => each raw member result made,
    fun each raw member result made => each result ⟨raw, member, made⟩⟩

/-- The first fault among the results is that of the first attribute whose reader fails. -/
theorem mapM_decoded_eq_error_iff {cause : FormatError} :
    (decoded readers attributes).mapM id = .error cause ↔ ∃ before raw after,
      attributes = before ++ raw :: after ∧ (∀ earlier ∈ before, readers.Accepts earlier) ∧
      readers.decode? raw = some (.error cause) := by
  rw [mapM_eq_error_iff]
  constructor
  · rintro ⟨results, _, others, split, good, rfl⟩
    rw [decoded_eq_filterMap, List.filterMap_eq_append_iff] at split
    obtain ⟨before, rest, rfl, rfl, split⟩ := split
    obtain ⟨unknown, raw, after, rfl, silent, failed, -⟩ := List.filterMap_eq_cons_iff.mp split
    have early : ∀ earlier ∈ before, readers.Accepts earlier :=
      forall_accepts_iff.mpr good
    have between : ∀ earlier ∈ unknown, readers.Accepts earlier := fun earlier member =>
      Readers.accepts_of_decode?_eq_none (silent earlier member)
    exact ⟨before ++ unknown, raw, after, (List.append_assoc ..).symm,
      List.forall_mem_append.mpr ⟨early, between⟩, failed⟩
  · rintro ⟨before, raw, after, rfl, early, failed⟩
    refine ⟨decoded readers before, .error cause, decoded readers after, ?_,
      forall_accepts_iff.mp early, rfl⟩
    rw [decoded_eq_filterMap, List.filterMap_append, List.filterMap_cons_some failed]
    rfl

variable {file : ClassFile}

theorem info_eq_ok_iff {info : ClassInfo} : (file.info readers).outcome.value = .ok info ↔
    ∃ maps : List SourceMap, decoded readers file.attributes = maps.map .ok ∧
      info = ⟨file.name, file.sourceFile, maps.head?⟩ := by
  rw [value_info, ClassInfo.ofDecoded]
  simp only [← mapM_id_eq_ok_iff]
  cases (decoded readers file.attributes).mapM id <;> simp [eq_comm]

theorem info_eq_error_iff {fault : ExtractError} :
    (file.info readers).outcome.value = .error fault ↔
      ∃ cause, (decoded readers file.attributes).mapM id = .error cause ∧
        fault = .format file.name cause := by
  rw [value_info, ClassInfo.ofDecoded]
  cases (decoded readers file.attributes).mapM id <;> simp [eq_comm]

theorem exists_info_iff : (∃ info, (file.info readers).outcome.value = .ok info) ↔
    ∀ raw ∈ file.attributes, readers.Accepts raw := by
  rw [forall_accepts_iff]
  constructor
  · rintro ⟨info, done⟩ result member
    obtain ⟨maps, same, -⟩ := info_eq_ok_iff.mp done
    rw [same] at member
    obtain ⟨map, -, rfl⟩ := List.mem_map.mp member
    exact ⟨map, rfl⟩
  · intro each
    obtain ⟨maps, done⟩ := exists_mapM_eq_ok (f := id) each
    exact ⟨_, info_eq_ok_iff.mpr ⟨maps, mapM_id_eq_ok_iff.mp done, rfl⟩⟩

/-- The first attribute with a reader gives the source map, if there is one. -/
theorem map_sourceMap_eq_findSome? {info : ClassInfo}
    (done : (file.info readers).outcome.value = .ok info) :
    info.sourceMap.map .ok = file.attributes.findSome? readers.decode? := by
  obtain ⟨maps, same, rfl⟩ := info_eq_ok_iff.mp done
  calc
    maps.head?.map Except.ok = (maps.map Except.ok).head? := List.head?_map.symm
    _ = (file.attributes.filterMap readers.decode?).head? := by rw [← same, decoded_eq_filterMap]
    _ = _ := List.head?_filterMap

/-- Attributes without a reader leave no trace in the results. -/
theorem decoded_filter_isSome (readers : Readers) (attributes : List Attribute) :
    decoded readers (attributes.filter fun raw => (readers.reader? raw.name).isSome) =
      decoded readers attributes := by
  rw [decoded_eq_filterMap, List.filterMap_filter, decoded_eq_filterMap]
  apply List.filterMap_congr
  intro raw _
  rw [ite_eq_left_iff]
  intro unknown
  rw [Readers.decode?_eq_none_iff.mpr (by simpa using unknown)]

/-- All attributes that have a reader are decoded, the last reader registered under a name being the
one that counts. If none of them fails, the class has the map of the first of them. Otherwise the
first failure is that of the class. -/
theorem attributes_all_decoded (calls : List (String × Reader)) (file : ClassFile) :
    let readers := Readers.registered calls
    (∀ name reader, readers.reader? name = some reader ↔
      ∃ before after, calls = before ++ (name, reader) :: after ∧ ∀ call ∈ after, call.1 ≠ name) ∧
    ((∃ info, (file.info readers).outcome.value = .ok info) ↔
      ∀ raw ∈ file.attributes, readers.Accepts raw) ∧
    (∀ info, (file.info readers).outcome.value = .ok info →
      info.name = file.name ∧ info.sourceFile = file.sourceFile ∧
      (info.sourceMap = none ↔ ∀ raw ∈ file.attributes, readers.reader? raw.name = none) ∧
      ∀ map, info.sourceMap = some map ↔ ∃ before raw after,
        file.attributes = before ++ raw :: after ∧
        (∀ earlier ∈ before, readers.reader? earlier.name = none) ∧
        readers.decode? raw = some (.ok map)) ∧
    (∀ fault, (file.info readers).outcome.value = .error fault ↔ ∃ before raw after cause,
      file.attributes = before ++ raw :: after ∧ (∀ earlier ∈ before, readers.Accepts earlier) ∧
      readers.decode? raw = some (.error cause) ∧ fault = .format file.name cause) ∧
    ∀ attributes : List Attribute,
      (attributes.filter fun raw => (readers.reader? raw.name).isSome) =
        (file.attributes.filter fun raw => (readers.reader? raw.name).isSome) →
      ({ file with attributes := attributes }.info readers).outcome.value =
        (file.info readers).outcome.value := by
  intro readers
  refine ⟨fun name reader => Readers.reader?_registered_eq_some_iff, exists_info_iff,
    fun info done => ?_, fun fault => ?_, fun attributes same => ?_⟩
  · have first := map_sourceMap_eq_findSome? done
    obtain ⟨maps, -, rfl⟩ := info_eq_ok_iff.mp done
    refine ⟨rfl, rfl, ?_, fun map => ?_⟩
    · simp only [← Readers.decode?_eq_none_iff, ← List.findSome?_eq_none_iff, ← first,
        Option.map_eq_none_iff]
    · have told : maps.head? = some map ↔
          file.attributes.findSome? readers.decode? = some (.ok map) := by
        rw [← first]
        cases maps.head? <;> simp
      simp only [told, ← Readers.decode?_eq_none_iff, List.findSome?_eq_some_iff, and_comm]
  · rw [info_eq_error_iff]
    simp only [mapM_decoded_eq_error_iff]
    constructor
    · rintro ⟨cause, ⟨before, raw, after, split, early, failed⟩, named⟩
      exact ⟨before, raw, after, cause, split, early, failed, named⟩
    · rintro ⟨before, raw, after, cause, split, early, failed, named⟩
      exact ⟨cause, ⟨before, raw, after, split, early, failed⟩, named⟩
  · rw [value_info, value_info, ← decoded_filter_isSome, same, decoded_filter_isSome]

/-- A name registered twice, and attributes of one name before one that cannot be decoded. -/
theorem attributes_all_decoded_repeated :
    let broken : Reader := fun _ => throw .missingTrailer
    let sized : Reader := fun info =>
      if info.length ≤ 1 then pure ⟨"short", "Kotlin", ∅⟩ else pure ⟨"long", "Kotlin", ∅⟩
    let calls := [("Map", broken), ("Map", sized), ("Broken", broken)]
    let file : ClassFile :=
      ⟨"foo.Bar", none, [], [⟨"Other", []⟩, ⟨"Map", [1, 2]⟩, ⟨"Map", [1]⟩], []⟩
    let others : List Attribute := [⟨"Broken", []⟩, ⟨"Map", []⟩]
    let failing := { file with attributes := file.attributes ++ others }
    (file.info (.registered calls)).outcome.value =
        .ok ⟨"foo.Bar", none, some ⟨"long", "Kotlin", ∅⟩⟩ ∧
      (failing.info (.registered calls)).outcome.value =
        .error (.format "foo.Bar" .missingTrailer) := by
  intro broken sized calls file others failing
  have accepted : ∀ raw ∈ file.attributes, (Readers.registered calls).Accepts raw := by
    simp only [file, List.forall_mem_cons]
    exact ⟨Readers.accepts_of_decode?_eq_none rfl, fun _ made => ⟨_, (Option.some.inj made).symm⟩,
      fun _ made => ⟨_, (Option.some.inj made).symm⟩, List.forall_mem_nil _⟩
  obtain ⟨-, complete, told, -, -⟩ := attributes_all_decoded calls file
  obtain ⟨-, -, -, failed, -⟩ := attributes_all_decoded calls failing
  constructor
  · obtain ⟨⟨name, source, map⟩, done⟩ := complete.mpr accepted
    obtain ⟨rfl, rfl, -, first⟩ := told _ done
    obtain rfl := (first ⟨"long", "Kotlin", ∅⟩).mpr
      ⟨[⟨"Other", []⟩], ⟨"Map", [1, 2]⟩, [⟨"Map", [1]⟩], rfl,
        List.forall_mem_singleton.mpr rfl, rfl⟩
    exact done
  · exact (failed _).mpr ⟨file.attributes, ⟨"Broken", []⟩, [⟨"Map", []⟩], .missingTrailer,
      rfl, accepted, rfl, rfl⟩

end DebugTables.ClassFile
