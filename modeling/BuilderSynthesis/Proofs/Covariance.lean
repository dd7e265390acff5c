import BuilderSynthesis.Proofs.Program
import BuilderSynthesis.Proofs.Signature

/-!
Contract: which setters a builder declares, and what they return.

A builder declares a setter of its own for every property that it sets, also for those of
classes above, and each returns the builder type itself. So a chain of calls keeps that type.
Fields may hide inherited ones; a property that is hidden has a setter as long as its
signature is its own.

Owns: `builder_declares_setters`, for any hierarchy on which a run succeeds.
-/

namespace BuilderSynthesis

namespace Builder

open Code (Method TypeRef)
open Schema (DataClass Field Policy)

section

variable {policy : Policy} {productType builderType : TypeRef} {dataClass : DataClass}
  {ancestors : List DataClass}

/-- A field that a builder sets is one of its class or of a class above that has a builder. -/
def IsSet (dataClass : DataClass) (ancestors : List DataClass) (field : Field) : Prop :=
  ∃ holder ∈ dataClass :: ancestors, field ∈ holder.instanceFields

/-- What a method of a builder is for. -/
inductive Purpose (productType builderType : TypeRef) (dataClass : DataClass)
    (ancestors : List DataClass) : Method → Prop where
  | set {method : Method} (field : Field) (isSet : IsSet dataClass ancestors field)
      (setter : IsSetterOf builderType field method) :
      Purpose productType builderType dataClass ancestors method
  | init (body : List Code.Statement) :
      Purpose productType builderType dataClass ancestors (initMethod productType body)
  | build :
      Purpose productType builderType dataClass ancestors (buildMethod dataClass productType)

theorem purpose_of_mem_builderMethods {method : Method}
    (member : method ∈ builderMethods policy productType builderType dataClass ancestors) :
    Purpose productType builderType dataClass ancestors method := by
  simp only [builderMethods, List.mem_append, List.mem_singleton] at member
  rcases member with ((own | rfl) | inherited) | build
  · obtain ⟨property, known, rfl⟩ := List.mem_map.1 own
    obtain ⟨field, instance', rfl⟩ := List.mem_map.1 known
    exact .set field ⟨dataClass, List.mem_cons_self, instance'⟩
      (isSetterOf_setterOf policy builderType field)
  · exact .init _
  · obtain ⟨ancestor, above, property, known, hidden, rfl⟩ := of_mem_inheritedSetters inherited
    obtain ⟨field, instance', rfl⟩ := List.mem_map.1 known
    exact .set field ⟨ancestor, List.mem_cons_of_mem dataClass above, instance'⟩
      (isSetterOf_override policy builderType hidden field)
  · split at build
    · cases build
    · rw [List.mem_singleton.1 build]
      exact .build

/-- A method of a builder that is neither `init` nor `build` is the setter of a field. -/
theorem setter_of_mem_builderMethods {method : Method}
    (member : method ∈ builderMethods policy productType builderType dataClass ancestors)
    (notInit : method.name ≠ initName) (notBuild : method.name ≠ buildName) :
    ∃ field, IsSet dataClass ancestors field ∧ IsSetterOf builderType field method := by
  cases purpose_of_mem_builderMethods member with
  | set field isSet setter => exact ⟨field, isSet, setter⟩
  | init body => exact absurd rfl notInit
  | build => exact absurd rfl notBuild

/-- Some method of a builder has the signature of the setter of a field that it sets. -/
theorem exists_signature_of_isSet {field : Field} (isSet : IsSet dataClass ancestors field) :
    ∃ method ∈ builderMethods policy productType builderType dataClass ancestors,
      method.signature = (setterOf policy builderType (Property.ofField field)).signature ∧
        method.name ≠ initName ∧ method.name ≠ buildName := by
  have named : ∀ method : Method, (∃ field, method.name = setterName field) →
      method.name ≠ initName ∧ method.name ≠ buildName := by
    intro method setter
    obtain ⟨field, same⟩ := setter
    rw [same]
    exact ⟨setterName_ne_initName field, setterName_ne_buildName field⟩
  have own : ∀ method ∈ (ownProperties dataClass).map (setterOf policy builderType),
      method ∈ builderMethods policy productType builderType dataClass ancestors := by
    intro method member
    unfold builderMethods
    simp only [List.mem_append]
    exact .inl (.inl (.inl member))
  obtain ⟨holder, above, instance'⟩ := isSet
  have property : Property.ofField field ∈ ownProperties holder :=
    List.mem_map.2 ⟨field, instance', rfl⟩
  rcases List.mem_cons.1 above with rfl | inherited
  · have setter := List.mem_map_of_mem (f := setterOf policy builderType) property
    exact ⟨_, own _ setter, rfl, named _ (exists_setterName_of_mem_own setter)⟩
  · have declared := @exists_of_mem policy builderType _ _ inherited _ property
      ((ownProperties dataClass).map (fun property =>
        (setterOf policy builderType property).signature))
      ((ownProperties dataClass).map Property.name)
    rcases List.mem_append.1 declared with before | overridden
    · obtain ⟨other, known, same⟩ := List.mem_map.1 before
      have setter := List.mem_map_of_mem (f := setterOf policy builderType) known
      exact ⟨_, own _ setter, same, named _ (exists_setterName_of_mem_own setter)⟩
    · obtain ⟨method, member, same⟩ := List.mem_map.1 overridden
      refine ⟨method, ?_, same, named _ (exists_setterName_of_mem_inherited member)⟩
      unfold builderMethods
      simp only [List.mem_append]
      exact .inl (.inr member)

/-- Of methods with different signatures at most one has a name and parameter types. -/
theorem filter_signature_eq {methods : List Method} (distinct : DistinctSignatures methods)
    {method : Method} (member : method ∈ methods) :
    methods.filter (fun other => other.sameSignature method) = [method] := by
  have same : method.sameSignature method = true := by
    simp [Method.sameSignature]
  induction methods with
  | nil => cases member
  | cons first rest inductionHypothesis =>
      obtain ⟨apart, others⟩ := List.pairwise_cons.1 distinct
      rcases List.mem_cons.1 member with rfl | later
      · have none' : rest.filter (fun other => other.sameSignature method) = [] := by
          rw [List.filter_eq_nil_iff]
          intro other found again
          have different := apart other found
          simp only [Method.sameSignature, Bool.and_eq_true, beq_iff_eq] at again
          simp only [Method.sameSignature, again.1, again.2, BEq.rfl, Bool.and_self] at different
          cases different
        rw [List.filter_cons, if_pos same, none']
      · have different : ¬ first.sameSignature method = true := by
          rw [apart method later]
          exact Bool.false_ne_true
        rw [List.filter_cons, if_neg different, inductionHypothesis others later]

/-- The methods that a type declares with a name and a parameter type. -/
def declaredWith (methods : List Method) (name : String) (parameter : TypeRef) : List Method :=
  methods.filter (fun method => method.name == name && method.erasedParameters == [parameter])

/-- A builder whose methods have different signatures has one setter for each field that it sets,
where texts of signatures determine them. -/
theorem declaredWith_builderMethods
    (distinct : DistinctSignatures
      (builderMethods policy productType builderType dataClass ancestors))
    (plain : ∀ field, IsSet dataClass ancestors field → field.element.IsPlain)
    {field : Field} (isSet : IsSet dataClass ancestors field) :
    ∃ setter, declaredWith (builderMethods policy productType builderType dataClass ancestors)
        (setterName field.name) (.ofField field.element field.cardinality) = [setter] ∧
      setter.returns = some builderType := by
  obtain ⟨method, member, text, notInit, notBuild⟩ :=
    @exists_signature_of_isSet policy productType builderType _ _ _ isSet
  obtain ⟨other, alsoSet, setter⟩ := setter_of_mem_builderMethods member notInit notBuild
  have wanted := isSetterOf_setterOf policy builderType field
  obtain ⟨name, parameters⟩ := setter.eq_of_signature wanted (plain other alsoSet)
    (plain field isSet) text
  rw [wanted.name] at name
  rw [wanted.parameters] at parameters
  refine ⟨method, ?_, setter.returns⟩
  have single := filter_signature_eq distinct member
  unfold Method.sameSignature at single
  rw [name, parameters] at single
  exact single

end

end Builder

namespace Run

open Builder (Descriptor IsSetterOf Registry builderTypeName buildName declaredWith initName
  setterName)
open Schema (ClassId DataClass Field Hierarchy)

/-- A field is an instance field of a class, or of an ancestor, that has a builder. -/
def HasProperty (hierarchy : Hierarchy) (registry : Registry) (id : ClassId) (field : Field) :
    Prop :=
  ∃ holder dataClass, (holder = id ∨ hierarchy.IsAncestor holder id) ∧
    (registry.forClass? hierarchy holder).isSome ∧ hierarchy.get? holder = some dataClass ∧
    field ∈ dataClass.instanceFields

theorem mem_bearersAbove_iff {hierarchy : Hierarchy} (acyclic : hierarchy.Acyclic)
    (inRange : hierarchy.InRange) {bears : ClassId → Bool} {id : ClassId} {holder : DataClass} :
    holder ∈ bearersAbove hierarchy bears id ↔
      ∃ ancestor, hierarchy.IsAncestor ancestor id ∧ bears ancestor = true ∧
        hierarchy.get? ancestor = some holder := by
  unfold bearersAbove
  simp only [List.mem_filterMap, List.mem_filter,
    Hierarchy.mem_ancestors_iff acyclic inRange, and_assoc]

/-- What a builder sets are the properties of its class. -/
theorem isSet_iff_hasProperty {hierarchy : Hierarchy} (acyclic : hierarchy.Acyclic)
    (inRange : hierarchy.InRange) {registry : Registry} {id : ClassId} {dataClass : DataClass}
    (known : hierarchy.get? id = some dataClass) (bearing : bears hierarchy registry id = true)
    (field : Field) :
    Builder.IsSet dataClass (bearersAbove hierarchy (bears hierarchy registry) id) field ↔
      HasProperty hierarchy registry id field := by
  constructor
  · rintro ⟨holder, member, instance'⟩
    rcases List.mem_cons.1 member with rfl | above
    · exact ⟨id, holder, .inl rfl, bearing, known, instance'⟩
    · obtain ⟨ancestor, above, bears, found⟩ := (mem_bearersAbove_iff acyclic inRange).1 above
      exact ⟨ancestor, holder, .inr above, bears, found, instance'⟩
  · rintro ⟨holder, other, rfl | above, bears, found, instance'⟩
    · rw [known, Option.some.injEq] at found
      exact ⟨dataClass, List.mem_cons_self, found ▸ instance'⟩
    · exact ⟨other, List.mem_cons_of_mem _
        ((mem_bearersAbove_iff acyclic inRange).2 ⟨holder, above, bears, found⟩), instance'⟩

/-- A builder type declares exactly one setter for each property of its class, with itself as the
result, and apart from `init` and `build` nothing else. -/
structure DeclaresSetters (hierarchy : Hierarchy) (registry : Registry) (id : ClassId)
    (builder : Code.Declaration) : Prop where
  each : ∀ field, HasProperty hierarchy registry id field →
    ∃ setter, declaredWith builder.methods (setterName field.name)
        (.ofField field.element field.cardinality) = [setter] ∧
      setter.returns = some (.named builder.qualifiedName)
  only : ∀ method ∈ builder.methods, method.name ≠ initName → method.name ≠ buildName →
    ∃ field, HasProperty hierarchy registry id field ∧
      IsSetterOf (.named builder.qualifiedName) field method

theorem builder_declares_setters {hierarchy : Hierarchy} {config : Config} {context : Context}
    (acyclic : hierarchy.Acyclic) (inRange : hierarchy.InRange)
    (plain : ∀ dataClass ∈ hierarchy.classes, ∀ field ∈ dataClass.fields, field.element.IsPlain)
    (success : (({} : Pipeline).runHierarchy hierarchy config).result = .ok context)
    (distinct : context.model.names.Nodup) :
    ∃ registry, context.registry = some registry ∧
      ∀ id dataClass descriptor, hierarchy.get? id = some dataClass →
        registry.forClass? hierarchy id = some descriptor →
        ∃ builder, context.model.get? descriptor.builder = some builder ∧
          builder.qualifiedName = builderTypeName config.builderName dataClass.name ∧
          DeclaresSetters hierarchy registry id builder := by
  obtain ⟨registry, registered, completes⟩ := (reached_of_runHierarchy success).completes
  refine ⟨registry, registered, ?_⟩
  intro id dataClass descriptor known found
  have program := program_of_completes completes distinct inRange
  have bearing : bears hierarchy registry id = true := by
    unfold bears
    rw [found]
    rfl
  have properties := isSet_iff_hasProperty acyclic inRange known bearing
  obtain ⟨builder, there, isBuilder⟩ := program.builder id dataClass known bearing
  have position := builder_eq_builderId completes distinct found
  have methods := isBuilder.methods
  have signatures := isBuilder.distinct
  rw [methods] at signatures
  refine ⟨builder, ?_, isBuilder.named, ?_, ?_⟩
  · rw [position]
    exact there
  · intro field property
    rw [isBuilder.named, methods]
    apply Builder.declaredWith_builderMethods signatures ?_ ((properties field).2 property)
    intro other isSet
    obtain ⟨_, holder, _, _, known, instance'⟩ := (properties other).1 isSet
    exact plain holder (List.mem_of_getElem? known) other (List.mem_filter.1 instance').1
  · intro method member notInit notBuild
    rw [methods] at member
    rw [isBuilder.named]
    obtain ⟨field, isSet, setter⟩ :=
      Builder.setter_of_mem_builderMethods member notInit notBuild
    exact ⟨field, (properties field).1 isSet, setter⟩

/-- Three classes in a line, the middle one without a builder, with a field that hides one, a
static field, and a field that differs in the case of its first letter only. -/
def hidingHierarchy : Hierarchy :=
  ⟨[{ name := "A"
      fields := [
        { name := "x", element := .primitive .int },
        { name := "count", element := .primitive .int, isStatic := true }] },
    { name := "B"
      superclass := some 0
      nested := ["Builder"]
      fields := [{ name := "skipped", element := .named "A" }] },
    { name := "C"
      superclass := some 1
      fields := [
        { name := "x", element := .primitive .string, cardinality := .list },
        { name := "X", element := .named "A", cardinality := .array }] }]⟩

theorem hiding_builder_declares_setters :
    ∃ context registry descriptor builder,
      (({} : Pipeline).runHierarchy hidingHierarchy {}).result = .ok context ∧
      context.registry = some registry ∧
      registry.forClass? hidingHierarchy 2 = some descriptor ∧
      context.model.get? descriptor.builder = some builder ∧
      DeclaresSetters hidingHierarchy registry 2 builder := by
  have acyclic : hidingHierarchy.Acyclic := by
    apply Hierarchy.acyclic_of_descending
    intro id superclass link
    match id, link with
    | 1, link => exact Option.some.inj link ▸ by decide
    | 2, link => exact Option.some.inj link ▸ by decide
  have inRange : hidingHierarchy.InRange := by
    unfold Hierarchy.InRange
    decide
  have plain : ∀ dataClass ∈ hidingHierarchy.classes, ∀ field ∈ dataClass.fields,
      field.element.IsPlain := by
    decide
  let ending := ({} : Pipeline).runHierarchy hidingHierarchy {}
  have success : ending.result = .ok ending.context :=
    result_of_failure_eq_none (by decide +kernel)
  have distinct : ending.context.model.names.Nodup := by
    decide +kernel
  have bearing : (ending.context.registry.bind (fun registry =>
      registry.forClass? hidingHierarchy 2)).isSome := by
    decide +kernel
  obtain ⟨registry, registered, all⟩ :=
    builder_declares_setters acyclic inRange plain success distinct
  obtain ⟨descriptor, found⟩ := Option.isSome_iff_exists.1 bearing
  rw [registered, Option.bind_some] at found
  obtain ⟨builder, there, -, declares⟩ := all 2 _ descriptor rfl found
  exact ⟨_, registry, descriptor, builder, success, registered, found, there, declares⟩

end Run

end BuilderSynthesis
