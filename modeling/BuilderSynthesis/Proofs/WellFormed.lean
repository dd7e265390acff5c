import BuilderSynthesis.Java.Identifier
import BuilderSynthesis.Proofs.Ancestry

/-!
Contract: hierarchies on which builders can be made, and how their classes are found.

Owns: `WellFormed`, what is known of the hierarchy of an accepted manifest. It leaves out
only the names of nested types.
-/

namespace BuilderSynthesis.Schema.Hierarchy

/-! ### Classes by name -/

variable {hierarchy : Hierarchy}

theorem get?_of_lookup {name : String} {id : ClassId} (found : hierarchy.lookup name = some id) :
    ∃ dataClass, hierarchy.get? id = some dataClass ∧ dataClass.name = name := by
  obtain ⟨⟨position, dataClass⟩, first, rfl⟩ := Option.map_eq_some_iff.1 found
  have member := List.mem_reverse.1 (List.mem_of_find?_eq_some first)
  have named := List.find?_some first
  rw [beq_iff_eq] at named
  exact ⟨dataClass, (mem_entries_iff hierarchy position dataClass).1 member, named⟩

/-- Where names are distinct, a class is found by its name. -/
theorem lookup_of_get? (distinct : (hierarchy.classes.map DataClass.name).Nodup) {id : ClassId}
    {dataClass : DataClass} (found : hierarchy.get? id = some dataClass) :
    hierarchy.lookup dataClass.name = some id := by
  have member := (mem_entries_iff hierarchy id dataClass).2 found
  have exists' : (hierarchy.lookup dataClass.name).isSome := by
    unfold lookup
    rw [Option.isSome_map, List.find?_isSome]
    exact ⟨(id, dataClass), List.mem_reverse.2 member, beq_self_eq_true dataClass.name⟩
  obtain ⟨other, known⟩ := Option.isSome_iff_exists.1 exists'
  obtain ⟨same, there, named⟩ := get?_of_lookup known
  have position : id = other := by
    have left : (hierarchy.classes.map DataClass.name)[id]? = some dataClass.name := by
      rw [List.getElem?_map]
      exact congrArg (Option.map DataClass.name) found
    have right : (hierarchy.classes.map DataClass.name)[other]? = some dataClass.name := by
      rw [List.getElem?_map]
      exact (congrArg (Option.map DataClass.name) there).trans (congrArg some named)
    exact (List.getElem?_inj (List.getElem?_eq_some_iff.1 left).1 distinct).1
      (left.trans right.symm)
  rw [known, position]

theorem lookup_eq_some_iff (distinct : (hierarchy.classes.map DataClass.name).Nodup)
    (name : String) (id : ClassId) :
    hierarchy.lookup name = some id ↔ (hierarchy.classes.map DataClass.name)[id]? = some name := by
  rw [List.getElem?_map, Option.map_eq_some_iff]
  constructor
  · exact get?_of_lookup
  · rintro ⟨dataClass, found, rfl⟩
    exact lookup_of_get? distinct found

/-- Finding a class by its name depends on the names only. -/
theorem lookup_congr {other : Hierarchy}
    (distinct : (hierarchy.classes.map DataClass.name).Nodup)
    (same : other.classes.map DataClass.name = hierarchy.classes.map DataClass.name)
    (name : String) : other.lookup name = hierarchy.lookup name := by
  apply Option.ext
  intro id
  rw [lookup_eq_some_iff distinct, lookup_eq_some_iff (same ▸ distinct), same]

theorem exists_lookup (distinct : (hierarchy.classes.map DataClass.name).Nodup) {name : String}
    (known : name ∈ hierarchy.classes.map DataClass.name) :
    ∃ id, hierarchy.lookup name = some id := by
  obtain ⟨dataClass, member, rfl⟩ := List.mem_map.1 known
  obtain ⟨id, found⟩ := List.mem_iff_getElem?.1 member
  exact ⟨id, lookup_of_get? distinct found⟩

theorem get?_setSuperclass (id : ClassId) (superclass : Option ClassId) (other : ClassId) :
    (hierarchy.setSuperclass id superclass).get? other =
      (hierarchy.get? other).map (fun dataClass =>
        if other = id then { dataClass with superclass := superclass } else dataClass) := by
  unfold setSuperclass get?
  rw [List.getElem?_modify]
  by_cases same : id = other
  · simp [same]
  · simp [same, Ne.symm same]

/-- What does not depend on superclasses stays when one is set. -/
theorem map_setSuperclass {key : DataClass → α}
    (ignores : ∀ dataClass superclass, key { dataClass with superclass := superclass } =
      key dataClass) (id : ClassId) (superclass : Option ClassId) :
    (hierarchy.setSuperclass id superclass).classes.map key = hierarchy.classes.map key := by
  apply List.ext_getElem?
  intro other
  rw [List.getElem?_map, List.getElem?_map]
  have there := @get?_setSuperclass hierarchy id superclass other
  unfold get? at there
  rw [there, Option.map_map]
  congr 1
  funext dataClass
  simp only [Function.comp_apply]
  split
  · exact ignores dataClass superclass
  · rfl

theorem names_setSuperclass (id : ClassId) (superclass : Option ClassId) :
    (hierarchy.setSuperclass id superclass).classes.map DataClass.name =
      hierarchy.classes.map DataClass.name :=
  map_setSuperclass (fun _ _ => rfl) id superclass

theorem lookup_setSuperclass (distinct : (hierarchy.classes.map DataClass.name).Nodup)
    (id : ClassId) (superclass : Option ClassId) (name : String) :
    (hierarchy.setSuperclass id superclass).lookup name = hierarchy.lookup name :=
  lookup_congr distinct (names_setSuperclass id superclass) name

/-! ### Well-formed hierarchies -/

/-- A hierarchy in which nothing stands in the way of builders, apart from the names of nested
types. -/
structure WellFormed (hierarchy : Hierarchy) : Prop where
  names : (hierarchy.classes.map DataClass.name).Nodup
  fields : ∀ dataClass ∈ hierarchy.classes, (dataClass.fields.map Field.name).Nodup
  identifiers : ∀ dataClass ∈ hierarchy.classes, ∀ field ∈ dataClass.fields,
    Java.nameFault? field.name = none
  inRange : hierarchy.InRange
  acyclic : hierarchy.Acyclic
  stems : ∀ id, ((hierarchy.visibleProperties id).map (fun entry =>
    propertyStem entry.2.name)).Nodup

theorem WellFormed.own_stems (wellFormed : hierarchy.WellFormed) {dataClass : DataClass}
    (member : dataClass ∈ hierarchy.classes) :
    (dataClass.instanceFields.map (fun field => propertyStem field.name)).Nodup := by
  obtain ⟨id, found⟩ := List.mem_iff_getElem?.1 member
  have present : hierarchy.get? id = some dataClass := found
  have stems := wellFormed.stems id
  unfold visibleProperties at stems
  rw [List.flatMap_append, List.map_append] at stems
  have own := (List.nodup_append.1 stems).2.1
  rw [List.flatMap_singleton, ownProperties, present, List.map_map] at own
  exact own

end BuilderSynthesis.Schema.Hierarchy
