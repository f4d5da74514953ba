import Mathlib
import DebugTables.Dex.Class
import DebugTables.Proofs.ClassInfo
import DebugTables.Proofs.Matcher

/-! Keys tell methods apart. A key is a class name, a name and a descriptor, and a descriptor is a
row of types; both are written one after the other with nothing escaped. Still they can be taken
apart: names of methods have no dots and no parentheses, and no type goes on as another one. -/

namespace DebugTables

section mark

variable {α : Type} {mark : α} {first second rest tail : List α}

/-- The first mark of a list separates it in one way. -/
theorem append_mark_inj (absent : mark ∉ first) (absent' : mark ∉ second) :
    first ++ mark :: rest = second ++ mark :: tail ↔ first = second ∧ rest = tail := by
  induction first generalizing second with
  | nil =>
    cases second with
    | nil => simp
    | cons item second => simp [List.ne_of_not_mem_cons absent']
  | cons item first ih =>
    have different := List.ne_of_not_mem_cons absent
    cases second with
    | nil => simp [different.symm]
    | cons other second =>
      simp [ih (List.not_mem_of_not_mem_cons absent) (List.not_mem_of_not_mem_cons absent'),
        and_assoc]

/-- So does its last mark. -/
theorem append_last_mark_inj (absent : mark ∉ rest) (absent' : mark ∉ tail) :
    first ++ mark :: rest = second ++ mark :: tail ↔ first = second ∧ rest = tail := by
  rw [← List.reverse_inj, List.reverse_append, List.reverse_append, List.reverse_cons,
    List.reverse_cons, List.append_assoc, List.append_assoc, List.singleton_append,
    List.singleton_append, append_mark_inj (by simpa using absent) (by simpa using absent'),
    List.reverse_inj, List.reverse_inj, and_comm]

end mark

namespace Method

/-- The name rules of both formats. The name of the class may be any. -/
structure Nameable (method : Method) : Prop where
  undotted : '.' ∉ method.name.toList
  unopened : '(' ∉ method.name.toList
  opened : method.descriptor.toList.head? = some '('
  plain : '.' ∉ method.descriptor.toList

/-- Both are one method to a caller. -/
@[mk_iff]
structure Alike (first second : Method) : Prop where
  owner : first.owner.name = second.owner.name
  name : first.name = second.name
  descriptor : first.descriptor = second.descriptor

variable {first second : Method}

theorem toList_key (method : Method) : method.key.toList =
    method.owner.name.toList ++ '.' :: (method.name.toList ++ method.descriptor.toList) := by
  simp [key]

theorem key_inj (nameable : first.Nameable) (nameable' : second.Nameable) :
    first.key = second.key ↔ Alike first second := by
  have undotted {method : Method} (nameable : method.Nameable) :
      '.' ∉ method.name.toList ++ method.descriptor.toList := by
    simp [nameable.undotted, nameable.plain]
  -- The last dot of the key ends the class, and the first parenthesis after it ends the name.
  obtain ⟨rest, opens⟩ := List.head?_eq_some_iff.mp nameable.opened
  obtain ⟨tail, opens'⟩ := List.head?_eq_some_iff.mp nameable'.opened
  have split : first.name.toList ++ first.descriptor.toList =
      second.name.toList ++ second.descriptor.toList ↔
        first.name = second.name ∧ first.descriptor = second.descriptor := by
    rw [← String.toList_inj, ← @String.toList_inj first.descriptor, opens, opens',
      append_mark_inj nameable.unopened nameable'.unopened, List.cons.injEq]
    simp
  rw [← String.toList_inj, toList_key, toList_key,
    append_last_mark_inj (undotted nameable) (undotted nameable'), String.toList_inj, split]
  exact (alike_iff first second).symm

theorem key_ne_of_unlike {method : Method} {others : List Method} (nameable : method.Nameable)
    (unlike : ∀ other ∈ others, other.Nameable ∧ ¬other.Alike method) :
    ∀ other ∈ others, other.key ≠ method.key := by
  intro other member same
  obtain ⟨nameable', different⟩ := unlike other member
  exact different ((key_inj nameable' nameable).mp same)

end Method

namespace Dex

def primitives : List Char := ['B', 'C', 'D', 'F', 'I', 'J', 'S', 'Z']

/-- The type of a value: a primitive one, a class whose name goes on to the first semicolon, or
arrays of either. -/
inductive FieldType : List Char → Prop
  | primitive {letter : Char} (known : letter ∈ primitives) : FieldType [letter]
  | reference {name : List Char} (closed : ';' ∉ name) : FieldType ('L' :: (name ++ [';']))
  | array {element : List Char} (type : FieldType element) : FieldType ('[' :: element)

namespace FieldType

variable {first second rest tail : List Char}

/-- No type goes on as another one. -/
theorem append_inj (type : FieldType first) (type' : FieldType second)
    (same : first ++ rest = second ++ tail) : first = second ∧ rest = tail := by
  induction type generalizing second with
  | primitive known =>
    cases type' with
    | primitive => simpa using same
    | reference | array =>
      obtain ⟨rfl, -⟩ := List.cons.inj same
      exact absurd known (by decide)
  | reference closed =>
    cases type' with
    | primitive known =>
      obtain ⟨rfl, -⟩ := List.cons.inj same
      exact absurd known (by decide)
    | reference closed' =>
      rw [List.cons_append, List.cons_append, List.cons.injEq, List.append_assoc,
        List.append_assoc] at same
      obtain ⟨rfl, rfl⟩ := (append_mark_inj closed closed').mp same.2
      exact ⟨rfl, rfl⟩
    | array => exact absurd (List.cons.inj same).1 (by decide)
  | array type ih =>
    cases type' with
    | primitive known =>
      obtain ⟨rfl, -⟩ := List.cons.inj same
      exact absurd known (by decide)
    | reference => exact absurd (List.cons.inj same).1 (by decide)
    | array type' =>
      obtain ⟨rfl, rfl⟩ := ih type' (List.cons.inj same).2
      exact ⟨rfl, rfl⟩

/-- So no type begins with the end of a parameter list. -/
theorem append_ne_closed (type : FieldType first) : first ++ rest ≠ ')' :: tail := by
  intro same
  cases type with
  | primitive known =>
    obtain ⟨rfl, -⟩ := List.cons.inj same
    exact absurd known (by decide)
  | reference | array => exact absurd (List.cons.inj same).1 (by decide)

theorem flatten_inj {types others : List (List Char)} (typed : ∀ type ∈ types, FieldType type)
    (typed' : ∀ type ∈ others, FieldType type)
    (same : types.flatten ++ ')' :: rest = others.flatten ++ ')' :: tail) :
    types = others ∧ rest = tail := by
  induction types generalizing others with
  | nil =>
    cases others with
    | nil => exact ⟨rfl, (List.cons.inj same).2⟩
    | cons other others =>
      have type' := typed' other List.mem_cons_self
      rw [List.flatten_cons, List.append_assoc] at same
      exact absurd same.symm type'.append_ne_closed
  | cons type types ih =>
    have isType := typed type List.mem_cons_self
    rw [List.flatten_cons, List.append_assoc] at same
    cases others with
    | nil => exact absurd same isType.append_ne_closed
    | cons other others =>
      rw [List.flatten_cons, List.append_assoc] at same
      obtain ⟨rfl, remaining⟩ := isType.append_inj (typed' other List.mem_cons_self) same
      obtain ⟨rfl, rfl⟩ := ih (fun _ member => typed _ (List.mem_cons_of_mem _ member))
        (fun _ member => typed' _ (List.mem_cons_of_mem _ member)) remaining
      exact ⟨rfl, rfl⟩

end FieldType

namespace MethodDef

def parameterTypes (method : MethodDef) : List String :=
  method.parameters.map (·.descriptor)

/-- The parameters have types of values. Nothing is asked of the return type. -/
def Typed (method : MethodDef) : Prop :=
  ∀ type ∈ method.parameterTypes, FieldType type.toList

variable {first second : MethodDef}

theorem toList_descriptor (method : MethodDef) : method.descriptor.toList =
    '(' :: ((method.parameterTypes.map String.toList).flatten ++
      ')' :: method.returnType.toList) := by
  simp [descriptor, parameterTypes, String.toList_join, List.flatMap_def]

theorem descriptor_inj (typed : first.Typed) (typed' : second.Typed) :
    first.descriptor = second.descriptor ↔
      first.parameterTypes = second.parameterTypes ∧ first.returnType = second.returnType := by
  rw [← String.toList_inj, toList_descriptor, toList_descriptor]
  constructor
  · intro same
    obtain ⟨parameters, returns⟩ := FieldType.flatten_inj (List.forall_mem_map.mpr typed)
      (List.forall_mem_map.mpr typed') (List.cons.inj same).2
    have injective := List.map_injective_iff.mpr fun _ _ => String.toList_inj.mp
    exact ⟨injective parameters, String.toList_inj.mp returns⟩
  · rintro ⟨parameters, returns⟩
    rw [parameters, returns]

end MethodDef

end Dex

namespace Matcher

open Insertion

/-- No method takes the place of an unlike one, and adding it records no replacement. -/
theorem get_sides_of_unlike {before after : List Insertion} {side : Side} {method : Method}
    (nameable : method.Nameable)
    (unlike : ∀ later ∈ added side after, later.Nameable ∧ ¬later.Alike method) :
    ((ofInsertions (before ++ ⟨side, method⟩ :: after)).sides method.key).get side =
      some method := by
  have split : added side (before ++ ⟨side, method⟩ :: after) =
      added side before ++ method :: added side after := by
    rw [added_append]
    simp [added]
  rw [get_sides_ofInsertions, split]
  exact lastOf_append_cons (Method.key_ne_of_unlike nameable unlike)

theorem addRecords_of_unlike {before : List Insertion} {side : Side} {method : Method}
    (nameable : method.Nameable)
    (unlike : ∀ earlier ∈ added side before, earlier.Nameable ∧ ¬earlier.Alike method) :
    (ofInsertions before).addRecords side method = [] := by
  have absent : lastOf method.key (added side before) = none :=
    lastOf_eq_none_iff.mpr (Method.key_ne_of_unlike nameable unlike)
  rw [addRecords, get_sides_ofInsertions, absent]
  rfl

end Matcher

/-- The keys of extracted dex methods tell overloads apart. -/
theorem key_inj_of_extract {first second : Dex.MethodDef} {owner owner' : ClassInfo}
    {type type' : String} {extracted extracted' : Method}
    (done : (first.extract owner type).outcome.value = .ok extracted)
    (done' : (second.extract owner' type').outcome.value = .ok extracted')
    (nameable : extracted.Nameable) (nameable' : extracted'.Nameable)
    (typed : first.Typed) (typed' : second.Typed) :
    extracted.key = extracted'.key ↔ owner.name = owner'.name ∧ first.name = second.name ∧
      first.parameterTypes = second.parameterTypes ∧ first.returnType = second.returnType := by
  rw [Method.key_inj nameable nameable', ← Dex.MethodDef.descriptor_inj typed typed']
  obtain ⟨_, _, rfl⟩ := Dex.MethodDef.exists_tables_of_extract done
  obtain ⟨_, _, rfl⟩ := Dex.MethodDef.exists_tables_of_extract done'
  exact Method.alike_iff _ _

/-- Keys tell methods apart. Under the name rules two keys are the same exactly if class name, name
and descriptor are, and two descriptors exactly if the types of all parameters and the return type
are; the latter may be any. So no method takes the place of an unlike one in a matcher, and of the
methods of dex classes those of other classes, names or types have other keys. -/
theorem keys_tell_methods_apart :
    (∀ first second : Method, first.Nameable → second.Nameable →
      (first.key = second.key ↔ first.owner.name = second.owner.name ∧ first.name = second.name ∧
        first.descriptor = second.descriptor)) ∧
    (∀ first second : Dex.MethodDef, first.Typed → second.Typed →
      (first.descriptor = second.descriptor ↔
        first.parameterTypes = second.parameterTypes ∧ first.returnType = second.returnType)) ∧
    (∀ (before after : List Insertion) (side : Side) (method : Method), method.Nameable →
      ((∀ earlier ∈ Insertion.added side before, earlier.Nameable ∧ ¬earlier.Alike method) →
        (Matcher.ofInsertions before).addRecords side method = []) ∧
      ((∀ later ∈ Insertion.added side after, later.Nameable ∧ ¬later.Alike method) →
        ((Matcher.ofInsertions (before ++ ⟨side, method⟩ :: after)).sides method.key).get side =
          some method)) ∧
    ∀ (first second : Dex.MethodDef) (owner owner' : ClassInfo) (type type' : String)
      (extracted extracted' : Method),
      (first.extract owner type).outcome.value = .ok extracted →
      (second.extract owner' type').outcome.value = .ok extracted' →
      extracted.Nameable → extracted'.Nameable → first.Typed → second.Typed →
      (extracted.key = extracted'.key ↔ owner.name = owner'.name ∧ first.name = second.name ∧
        first.parameterTypes = second.parameterTypes ∧
        first.returnType = second.returnType) := by
  refine ⟨?_, ?_, ?_, ?_⟩
  · intro first second nameable nameable'
    rw [Method.key_inj nameable nameable', Method.alike_iff]
  · intro first second typed typed'
    exact Dex.MethodDef.descriptor_inj typed typed'
  · intro before after side method nameable
    exact ⟨Matcher.addRecords_of_unlike nameable, Matcher.get_sides_of_unlike nameable⟩
  · intro first second owner owner' type type' extracted extracted' done done'
    exact key_inj_of_extract done done'

/-- A class with a dot and a parenthesis in its name that has two overloads, and a class whose name
goes on like the method. -/
theorem keys_tell_methods_apart_overloaded :
    let overload (type : String) : Dex.MethodDef :=
      ⟨"m", [⟨type, none, none⟩, ⟨"L);", none, none⟩], "V", 0, none⟩
    let method (owner type : String) : Method :=
      ⟨"m", (overload type).descriptor, 0, [], [], ⟨owner, none, none⟩⟩
    (method "a.m(" "[I").key = "a.m(.m([IL);)V" ∧ (method "a" "[I").key = "a.m([IL);)V" ∧
      (method "a.m(" "[I").key ≠ (method "a" "[I").key ∧
      (overload "[I").descriptor ≠ (overload "[[I").descriptor ∧
      (method "a.m(" "[I").key ≠ (method "a.m(" "[[I").key ∧
      (Matcher.ofInsertions [⟨.jvm, method "a.m(" "[I"⟩]).addRecords .dex (method "a.m(" "[I") =
        [] ∧
      ((Matcher.ofInsertions [⟨.jvm, method "a.m(" "[I"⟩, ⟨.dex, method "a.m(" "[I"⟩,
        ⟨.dex, method "a.m(" "[[I"⟩, ⟨.jvm, method "a.m(" "[I"⟩,
        ⟨.dex, method "a" "[I"⟩]).sides "a.m(.m([IL);)V").get .dex =
          some (method "a.m(" "[I") := by
  intro overload method
  obtain ⟨keys, descriptors, kept, extractions⟩ := keys_tell_methods_apart
  have typed : (overload "[I").Typed ∧ (overload "[[I").Typed := by
    have name : Dex.FieldType "L);".toList := .reference (by decide : ';' ∉ [')'])
    have row : Dex.FieldType "[I".toList := .array (.primitive (by decide))
    have rows : Dex.FieldType "[[I".toList := .array row
    have rest : ∀ type ∈ ["L);"], Dex.FieldType type.toList := List.forall_mem_singleton.mpr name
    exact ⟨List.forall_mem_cons.mpr ⟨row, rest⟩, List.forall_mem_cons.mpr ⟨rows, rest⟩⟩
  have long : (method "a.m(" "[I").Nameable := by constructor <;> decide +kernel
  have nested : (method "a.m(" "[[I").Nameable := by constructor <;> decide +kernel
  have short : (method "a" "[I").Nameable := by constructor <;> decide +kernel
  have key : (method "a.m(" "[I").key = "a.m(.m([IL);)V" := by decide +kernel
  have classes : (method "a" "[I").owner.name ≠ (method "a.m(" "[I").owner.name := by decide
  have types : (overload "[[I").parameterTypes ≠ (overload "[I").parameterTypes := by decide
  have overloads : (overload "[[I").descriptor ≠ (overload "[I").descriptor :=
    fun same => types ((descriptors _ _ typed.2 typed.1).mp same).1
  obtain ⟨unrecorded, stays⟩ := kept [⟨.jvm, method "a.m(" "[I"⟩]
    [⟨.dex, method "a.m(" "[[I"⟩, ⟨.jvm, method "a.m(" "[I"⟩, ⟨.dex, method "a" "[I"⟩] .dex
    (method "a.m(" "[I") long
  refine ⟨key, by decide +kernel, ?_, overloads.symm, ?_, unrecorded nofun, ?_⟩
  · exact fun same => classes ((keys _ _ long short).mp same).1.symm
  · intro same
    have alike := (extractions (overload "[I") (overload "[[I") ⟨"a.m(", none, none⟩
      ⟨"a.m(", none, none⟩ "La/m(;" "La/m(;" _ _ rfl rfl long nested typed.1 typed.2).mp same
    exact types alike.2.2.1.symm
  · rw [← key]
    apply stays
    intro later member
    obtain rfl | rfl : later = method "a.m(" "[[I" ∨ later = method "a" "[I" := by
      simpa [Insertion.added] using member
    · exact ⟨nested, fun alike => overloads alike.descriptor⟩
    · exact ⟨short, fun alike => classes alike.owner⟩

end DebugTables
