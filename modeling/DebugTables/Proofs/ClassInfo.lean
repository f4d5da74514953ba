import Mathlib
import DebugTables.ClassFile
import DebugTables.Dex.Class

/-! What classes of either format tell of their origin. Their source maps are decoded one after the
other: the first that cannot be decoded fails the class, and otherwise the first one counts. -/

namespace DebugTables

/-- What a class tells of its origin where its source maps were decoded to these results. -/
def ClassInfo.ofDecoded (name : String) (sourceFile : Option String)
    (decoded : List (Except FormatError SourceMap)) : Except ExtractError ClassInfo :=
  match decoded.mapM id with
  | .error cause => .error (.format name cause)
  | .ok maps => .ok ⟨name, sourceFile, maps.head?⟩

namespace ClassFile

variable {readers : Readers}

/-- The results of decoding the attributes that have a reader. -/
def decoded (readers : Readers) (attributes : List Attribute) :
    List (Except FormatError SourceMap) :=
  attributes.filterMap fun raw =>
    (readers.reader? raw.name).map fun reader => (reader raw.info).outcome.value

theorem decoded_cons_unknown {raw : Attribute} (unknown : readers.reader? raw.name = none)
    (rest : List Attribute) : decoded readers (raw :: rest) = decoded readers rest := by
  rw [decoded, List.filterMap_cons_none]
  · rfl
  · rw [unknown]
    rfl

theorem decoded_cons_known {raw : Attribute} {reader : Reader}
    (known : readers.reader? raw.name = some reader) (rest : List Attribute) :
    decoded readers (raw :: rest) = (reader raw.info).outcome.value :: decoded readers rest := by
  rw [decoded, List.filterMap_cons_some]
  · rfl
  · rw [known]
    rfl

theorem value_read_unknown {raw : Attribute} (unknown : readers.reader? raw.name = none) :
    (readers.read raw).outcome.value = .ok none := by
  rw [Readers.read, unknown]
  rfl

theorem value_read_known {raw : Attribute} {reader : Reader}
    (known : readers.reader? raw.name = some reader) :
    (readers.read raw).outcome.value = (reader raw.info).outcome.value.map some := by
  rw [Readers.read, known]
  change (some <$> reader raw.info).outcome.value = _
  rw [Attempt.outcome_map]
  rfl

/-- Either all attributes with a reader are decoded and the first map counts, after one that came
before them, or the first failure is that of the class. -/
theorem value_sourceMap (owner : String) (found : Option SourceMap) (attributes : List Attribute) :
    (sourceMap readers owner found attributes).outcome.value =
      match (decoded readers attributes).mapM id with
      | .error cause => .error (.format owner cause)
      | .ok maps => .ok (found.or maps.head?) := by
  induction attributes generalizing found with
  | nil => cases found <;> rfl
  | cons raw rest ih =>
    rw [sourceMap, Attempt.value_outcome_bind, Attempt.value_outcome_mapError]
    cases lookup : readers.reader? raw.name with
    | none =>
      rw [value_read_unknown lookup, decoded_cons_unknown lookup]
      exact ih found
    | some reader =>
      rw [value_read_known lookup, decoded_cons_known lookup, List.mapM_cons]
      cases (reader raw.info).outcome.value with
      | error cause => rfl
      | ok map =>
        -- Whatever was found before, the first map found so far goes on into the rest.
        calc
          _ = (sourceMap readers owner (found.or (some map)) rest).outcome.value := by
            cases found <;> rfl
          _ = _ := by
            rw [ih]
            cases (decoded readers rest).mapM id <;> cases found <;> rfl

theorem value_info (file : ClassFile) : (file.info readers).outcome.value =
    ClassInfo.ofDecoded file.name file.sourceFile (decoded readers file.attributes) := by
  rw [info, Attempt.value_outcome_bind, value_sourceMap, ClassInfo.ofDecoded]
  cases (decoded readers file.attributes).mapM id <;> rfl

end ClassFile

namespace Dex.ClassDef

/-- The text of a source map that the annotations of a class hold. -/
def mapText? (definition : ClassDef) : Option String :=
  (definition.entry? sourceDebugExtension).bind (·.value)

theorem value_info (definition : ClassDef) : definition.info.outcome.value =
    ClassInfo.ofDecoded definition.name definition.sourceFile
      ((definition.mapText?.map Utf8.encode).toList.map SourceMap.parse) := by
  rw [info, ← mapText?]
  cases definition.mapText? with
  | none => rfl
  | some text =>
    have parsed : (SourceMap.read (Utf8.encode text)).outcome.value =
      SourceMap.parse (Utf8.encode text) := SourceMap.value_read _
    rw [Attempt.value_outcome_bind, Attempt.value_outcome_mapError, parsed, ClassInfo.ofDecoded,
      Option.map_some, Option.toList_some, List.map_singleton]
    cases SourceMap.parse (Utf8.encode text) <;> rfl

end Dex.ClassDef

/-- Extraction adds tables to a method of a dex class and leaves the rest of it as it is. -/
theorem Dex.MethodDef.exists_tables_of_extract {method : MethodDef} {owner : ClassInfo}
    {type : String} {extracted : Method}
    (done : (method.extract owner type).outcome.value = .ok extracted) :
    ∃ locations locals,
      extracted = ⟨method.name, method.descriptor, method.flags, locations, locals, owner⟩ := by
  unfold extract at done
  split at done
  · cases done
    exact ⟨_, _, rfl⟩
  · split at done
    · cases done
      exact ⟨_, _, rfl⟩
    · rw [Attempt.value_outcome_bind] at done
      obtain ⟨locals, -, made⟩ := Reading.bind_eq_ok_iff.mp done
      cases made
      exact ⟨_, _, rfl⟩

end DebugTables
