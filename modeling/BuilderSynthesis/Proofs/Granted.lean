import BuilderSynthesis.Proofs.Generated
import BuilderSynthesis.Proofs.Linked
import BuilderSynthesis.Proofs.Lists
import BuilderSynthesis.Proofs.Registered
import BuilderSynthesis.Run.Phase

/-!
Contract: generating the members of builders is never refused.

After registering, types have no methods and builders have no fields, and no type is the
product or the builder of two classes. So a conflict could only be one between the members
of a single builder, and these have different names or different signatures.

Owns: `generate_succeeds`, under the condition that the setters that a class with a builder
has itself have different signatures.
-/

namespace BuilderSynthesis.Builder

open BuilderSynthesis.Code (Declaration Method Model TypeId TypeRef)
open BuilderSynthesis.Schema (ClassId DataClass Hierarchy Policy)

/-! ### The members of one builder -/

theorem sameSignature_of_name_ne {method other : Method} (different : method.name ≠ other.name) :
    method.sameSignature other = false := by
  simp [Method.sameSignature, different]

theorem sameSignature_of_signature_ne {method other : Method}
    (different : method.signature ≠ other.signature) : method.sameSignature other = false := by
  rw [← Bool.not_eq_true]
  intro same
  simp only [Method.sameSignature, Bool.and_eq_true, beq_iff_eq] at same
  apply different
  unfold Method.signature
  rw [same.1, same.2]

theorem setterName_ne_initName (field : String) : setterName field ≠ initName :=
  setterName_ne_of_head (by decide)

theorem setterName_ne_buildName (field : String) : setterName field ≠ buildName :=
  setterName_ne_of_head (by decide)

theorem setterName_ne_factoryName (field : String) : setterName field ≠ factoryName :=
  setterName_ne_of_head (by decide)

section

variable {policy : Policy} {productType builderType : TypeRef} {dataClass : DataClass}
  {ancestors : List DataClass}

theorem exists_setterName_of_mem_own {method : Method}
    (member : method ∈ (ownProperties dataClass).map (setterOf policy builderType)) :
    ∃ field, method.name = setterName field := by
  obtain ⟨property, own, rfl⟩ := List.mem_map.1 member
  obtain ⟨field, -, rfl⟩ := List.mem_map.1 own
  exact ⟨field.name, rfl⟩

theorem exists_setterName_of_mem_inherited {declared hidden : List String} {method : Method}
    (member : method ∈ inheritedSetters policy builderType ancestors declared hidden) :
    ∃ field, method.name = setterName field := by
  obtain ⟨ancestor, -, property, own, names, rfl⟩ := of_mem_inheritedSetters member
  obtain ⟨field, -, rfl⟩ := List.mem_map.1 own
  exact ⟨field.name, name_override policy builderType names (Property.ofField field)⟩

/-- What the methods of a builder are called. -/
theorem name_of_mem_builderMethods {method : Method}
    (member : method ∈ builderMethods policy productType builderType dataClass ancestors) :
    (∃ field, method.name = setterName field) ∨ method.name = initName ∨
      method.name = buildName := by
  simp only [builderMethods, List.mem_append, List.mem_singleton] at member
  rcases member with ((own | init) | inherited) | build
  · exact .inl (exists_setterName_of_mem_own own)
  · exact .inr (.inl (init ▸ rfl))
  · exact .inl (exists_setterName_of_mem_inherited inherited)
  · split at build
    · cases build
    · exact .inr (.inr (List.mem_singleton.1 build ▸ rfl))

theorem name_ne_factoryName {method : Method}
    (member : method ∈ builderMethods policy productType builderType dataClass ancestors) :
    method.name ≠ factoryName := by
  rcases name_of_mem_builderMethods member with ⟨field, named⟩ | named | named
  · exact named ▸ setterName_ne_factoryName field
  · exact named ▸ (by decide)
  · exact named ▸ (by decide)

theorem name_of_mem_productMethods {method : Method}
    (member : method ∈ productMethods dataClass builderType) : method.name = factoryName := by
  unfold productMethods at member
  split at member
  · cases member
  · exact List.mem_singleton.1 member ▸ rfl

/-- The methods of a builder differ in their signatures if the setters of its own do. -/
theorem distinctSignatures_builderMethods
    (own : DistinctSignatures ((ownProperties dataClass).map (setterOf policy builderType))) :
    DistinctSignatures (builderMethods policy productType builderType dataClass ancestors) := by
  obtain ⟨distinct, fresh⟩ := nodup_inheritedSetters ancestors
    ((ownProperties dataClass).map (fun property =>
      (setterOf policy builderType property).signature))
    ((ownProperties dataClass).map Property.name)
  unfold DistinctSignatures builderMethods
  refine List.pairwise_append.2 ⟨List.pairwise_append.2 ⟨List.pairwise_append.2
    ⟨own, List.pairwise_singleton _ _, ?_⟩, ?_, ?_⟩, ?_, ?_⟩
  · intro setter member init last
    obtain ⟨field, named⟩ := exists_setterName_of_mem_own member
    apply sameSignature_of_name_ne
    rw [named, List.mem_singleton.1 last]
    exact setterName_ne_initName field
  · refine (List.pairwise_map.1 distinct).imp ?_
    intro earlier later different
    exact sameSignature_of_signature_ne different
  · intro earlier member later inherited
    rcases List.mem_append.1 member with setter | init
    · apply sameSignature_of_signature_ne
      obtain ⟨property, known, rfl⟩ := List.mem_map.1 setter
      exact fun same => fresh later inherited (List.mem_map.2 ⟨property, known, same⟩)
    · obtain ⟨field, named⟩ := exists_setterName_of_mem_inherited inherited
      apply sameSignature_of_name_ne
      rw [named, List.mem_singleton.1 init]
      exact (setterName_ne_initName field).symm
  · split
    · exact List.Pairwise.nil
    · exact List.pairwise_singleton _ _
  · intro earlier member build last
    have named : build.name = buildName := by
      split at last
      · cases last
      · exact List.mem_singleton.1 last ▸ rfl
    apply sameSignature_of_name_ne
    rw [named]
    rcases List.mem_append.1 member with left | inherited
    · rcases List.mem_append.1 left with setter | init
      · obtain ⟨field, same⟩ := exists_setterName_of_mem_own setter
        exact same ▸ setterName_ne_buildName field
      · rw [List.mem_singleton.1 init]
        exact show initName ≠ buildName by decide
    · obtain ⟨field, same⟩ := exists_setterName_of_mem_inherited inherited
      exact same ▸ setterName_ne_buildName field

end

/-! ### The members of all builders -/

/-- A workshop in which builders are registered and have no members yet. -/
structure Ready (hierarchy : Hierarchy) (workshop : Workshop) : Prop where
  indexed : workshop.model.Indexed
  blank : Run.Blank workshop.model
  keys : (workshop.registry.descriptors.map Prod.fst).Nodup
  builders : (workshop.registry.descriptors.map (fun entry => entry.2.builder)).Nodup
  products : (workshop.registry.descriptors.map (fun entry => entry.2.product)).Nodup
  unnoted : ∀ entry ∈ workshop.registry.descriptors, entry.2.properties = none
  product : ∀ entry ∈ workshop.registry.descriptors, ∃ declaration,
    workshop.model.get? entry.2.product = some declaration ∧ declaration.qualifiedName = entry.1
  builder : ∀ entry ∈ workshop.registry.descriptors, ∃ dataClass declaration,
    hierarchy.get? entry.2.classId = some dataClass ∧ dataClass.name = entry.1 ∧
      workshop.model.get? entry.2.builder = some declaration ∧ declaration.fields = []

theorem owner_of_mem_requests {hierarchy : Hierarchy} {policy : Policy} {workshop : Workshop}
    {key : String} {descriptor : Descriptor} {dataClass : DataClass} {request : Request}
    (member : request ∈ requests hierarchy policy workshop key descriptor dataClass)
    {owner : TypeId} (asked : request.owner? = some owner) :
    owner = descriptor.builder ∨ owner = descriptor.product := by
  rw [requests_eq] at member
  simp only [List.mem_append, List.mem_singleton] at member
  rcases member with ((((property | noted) | superclass) | init) | inherited) | last
  · obtain ⟨one, -, here⟩ := List.mem_flatMap.1 property
    simp only [propertyRequests, List.mem_cons, List.not_mem_nil, or_false] at here
    rcases here with rfl | rfl
    · exact .inl (Option.some.inj asked).symm
    · exact .inl (Option.some.inj asked).symm
  · subst noted
    cases asked
  · obtain ⟨parent, -, rfl⟩ := Option.map_eq_some_iff.1 (Option.mem_toList.1 superclass)
    cases asked
  · subst init
    exact .inl (Option.some.inj asked).symm
  · obtain ⟨method, -, rfl⟩ := List.mem_map.1 inherited
    exact .inl (Option.some.inj asked).symm
  · split at last
    · cases last
    · simp only [List.mem_cons, List.not_mem_nil, or_false] at last
      rcases last with rfl | rfl
      · exact .inl (Option.some.inj asked).symm
      · exact .inr (Option.some.inj asked).symm

section

variable {hierarchy : Hierarchy} {policy : Policy} {workshop : Workshop}

/-- What all requests ask for on a type, builder by builder. -/
theorem filterMap_allRequests (wanted : Request → Option β) :
    (allRequests hierarchy policy workshop).filterMap wanted =
      workshop.registry.descriptors.flatMap (fun entry =>
        (requestsOf hierarchy policy workshop entry).filterMap wanted) := by
  unfold allRequests
  rw [List.filterMap_flatMap]

variable (ready : Ready hierarchy workshop)

include ready

theorem Ready.distinct : workshop.registry.descriptors.Nodup :=
  ready.keys.of_map

theorem Ready.requestsOf_eq (policy : Policy) {entry : String × Descriptor}
    (member : entry ∈ workshop.registry.descriptors) :
    ∃ dataClass, hierarchy.get? entry.2.classId = some dataClass ∧ dataClass.name = entry.1 ∧
      requestsOf hierarchy policy workshop entry =
        requests hierarchy policy workshop entry.1 entry.2 dataClass := by
  obtain ⟨dataClass, -, found, named, -⟩ := ready.builder entry member
  refine ⟨dataClass, found, named, ?_⟩
  unfold requestsOf
  rw [found]

/-- On the type of a builder the fields of that builder are asked for. -/
theorem Ready.fieldsOn_builder {entry : String × Descriptor}
    (member : entry ∈ workshop.registry.descriptors) :
    (allRequests hierarchy policy workshop).filterMap (Request.fieldOn entry.2.builder) =
      (requestsOf hierarchy policy workshop entry).filterMap (Request.fieldOn entry.2.builder) := by
  rw [filterMap_allRequests]
  refine Lists.flatMap_eq_of_unique member ready.distinct ?_
  intro other found different
  obtain ⟨dataClass, -, -, same⟩ := ready.requestsOf_eq policy found
  rw [same, fieldsOn_requests, if_neg]
  intro again
  exact different (List.inj_on_of_nodup_map ready.builders found member again)

/-- On a type that is no builder no fields are asked for. -/
theorem Ready.fieldsOn_other {type : TypeId}
    (other : ∀ entry ∈ workshop.registry.descriptors, entry.2.builder ≠ type) :
    (allRequests hierarchy policy workshop).filterMap (Request.fieldOn type) = [] := by
  rw [filterMap_allRequests, List.flatMap_eq_nil_iff]
  intro entry member
  obtain ⟨dataClass, -, -, same⟩ := ready.requestsOf_eq policy member
  rw [same, fieldsOn_requests, if_neg (other entry member)]

theorem Ready.noted_allRequests :
    (allRequests hierarchy policy workshop).filterMap Request.noted =
      workshop.registry.descriptors.map Prod.fst := by
  rw [filterMap_allRequests, List.map_eq_flatMap]
  apply List.flatMap_congr
  intro entry member
  obtain ⟨dataClass, -, -, same⟩ := ready.requestsOf_eq policy member
  rw [same, noted_requests]

/-- The methods that are asked for on a type do not conflict. -/
theorem Ready.distinctSignatures
    (own : ∀ entry ∈ workshop.registry.descriptors, ∀ dataClass,
      hierarchy.get? entry.2.classId = some dataClass → ∀ builder,
        DistinctSignatures ((ownProperties dataClass).map (setterOf policy builder)))
    (type : TypeId) :
    DistinctSignatures
      ((allRequests hierarchy policy workshop).filterMap (Request.methodOn type)) := by
  unfold DistinctSignatures
  rw [filterMap_allRequests, List.pairwise_flatMap]
  constructor
  · intro entry member
    obtain ⟨dataClass, found, -, same⟩ := ready.requestsOf_eq policy member
    rw [same, methodsOn_requests]
    refine List.pairwise_append.2 ⟨?_, ?_, ?_⟩
    · split
      · exact distinctSignatures_builderMethods (own entry member dataClass found _)
      · exact List.Pairwise.nil
    · split
      · unfold productMethods
        split
        · exact List.Pairwise.nil
        · exact List.pairwise_singleton _ _
      · exact List.Pairwise.nil
    · intro method builder factory product
      split at builder
      · split at product
        · apply sameSignature_of_name_ne
          rw [name_of_mem_productMethods product]
          exact name_ne_factoryName builder
        · cases product
      · cases builder
  · have products := List.pairwise_map.1 ready.products
    have builders := List.pairwise_map.1 ready.builders
    refine (products.and builders).imp_of_mem ?_
    intro one two first second different method left other right
    obtain ⟨firstClass, -, -, sameOne⟩ := ready.requestsOf_eq policy first
    obtain ⟨secondClass, -, -, sameTwo⟩ := ready.requestsOf_eq policy second
    rw [sameOne, methodsOn_requests, List.mem_append] at left
    rw [sameTwo, methodsOn_requests, List.mem_append] at right
    apply sameSignature_of_name_ne
    rcases left with left | left <;> rcases right with right | right <;>
      simp only [List.mem_ite_nil_right] at left right
    · exact absurd (left.1.trans right.1.symm) different.2
    · rw [name_of_mem_productMethods right.2]
      exact name_ne_factoryName left.2
    · rw [name_of_mem_productMethods left.2]
      exact (name_ne_factoryName right.2).symm
    · exact absurd (left.1.trans right.1.symm) different.1

/-- Requests for builders that are ready are admissible together. -/
theorem Ready.admissible
    (fields : ∀ dataClass ∈ hierarchy.classes, (dataClass.fields.map Schema.Field.name).Nodup)
    (own : ∀ entry ∈ workshop.registry.descriptors, ∀ dataClass,
      hierarchy.get? entry.2.classId = some dataClass → ∀ builder,
        DistinctSignatures ((ownProperties dataClass).map (setterOf policy builder))) :
    Admissible (allRequests hierarchy policy workshop) workshop := by
  constructor
  · intro request member owner asked
    obtain ⟨entry, registered, requested⟩ := List.mem_flatMap.1 member
    obtain ⟨dataClass, -, -, same⟩ := ready.requestsOf_eq policy registered
    rw [same] at requested
    rcases owner_of_mem_requests requested asked with rfl | rfl
    · obtain ⟨-, declaration, -, -, found, -⟩ := ready.builder entry registered
      exact Model.get?_eq_some_lt found
    · obtain ⟨declaration, found, -⟩ := ready.product entry registered
      exact Model.get?_eq_some_lt found
  · intro type declaration found
    by_cases registered : ∃ entry ∈ workshop.registry.descriptors, entry.2.builder = type
    · obtain ⟨entry, member, rfl⟩ := registered
      obtain ⟨dataClass, known, -, same⟩ := ready.requestsOf_eq policy member
      obtain ⟨-, empty, -, -, there, none'⟩ := ready.builder entry member
      rw [found, Option.some.injEq] at there
      subst there
      simp only [extended, none', List.nil_append]
      rw [ready.fieldsOn_builder member, same, fieldsOn_requests, if_pos rfl]
      have names : (builderFields policy dataClass).map Code.Field.name =
          dataClass.instanceFields.map Schema.Field.name := by
        simp only [builderFields, ownProperties, List.map_map]
        rfl
      rw [names]
      have all := fields dataClass (List.mem_of_getElem? known)
      exact all.sublist (List.filter_sublist.map _)
    · have other : ∀ entry ∈ workshop.registry.descriptors, entry.2.builder ≠ type := by
        intro entry member same
        exact registered ⟨entry, member, same⟩
      simp only [extended, ready.fieldsOn_other other, List.append_nil]
      exact (ready.blank type declaration found).2
  · intro type declaration found
    simp only [extended, (ready.blank type declaration found).1, List.nil_append]
    exact ready.distinctSignatures own type
  · rw [ready.noted_allRequests]
    exact ready.keys
  · intro key member descriptor found
    have there := Keyed.mem_of_value? found
    exact ready.unnoted _ there

/-- Generating builders that are ready never fails. -/
theorem Ready.generate_succeeds
    (fields : ∀ dataClass ∈ hierarchy.classes, (dataClass.fields.map Schema.Field.name).Nodup)
    (own : ∀ entry ∈ workshop.registry.descriptors, ∀ dataClass,
      hierarchy.get? entry.2.classId = some dataClass → ∀ builder,
        DistinctSignatures ((ownProperties dataClass).map (setterOf policy builder))) :
    ∃ after, generate hierarchy policy workshop = (after, none) :=
  ⟨_, generate_eq_iff.2 ⟨allGranted_of_admissible (ready.admissible fields own), rfl⟩⟩

end

end BuilderSynthesis.Builder
