import BuilderSynthesis.Proofs.Program

/-!
Contract: all types that a run leaves, where names of types are distinct.

A type is that of a class, that of a builder, or one of the nested types that a class had
already; nothing is ever added to the last kind. So what types extend follows what classes
extend, and no type is above itself.

Owns: `Origin`, `origin_of_completes` and `acyclic_superclass?`.
-/

namespace BuilderSynthesis.Builder

open BuilderSynthesis.Code (Declaration TypeId)
open BuilderSynthesis.Schema (Hierarchy Policy)

/-- Nothing is asked for on a type that is neither a builder nor the product of one. -/
theorem Ready.extended_other {hierarchy : Hierarchy} {policy : Policy} {workshop : Workshop}
    (ready : Ready hierarchy workshop) {type : TypeId}
    (noBuilder : ∀ entry ∈ workshop.registry.descriptors, entry.2.builder ≠ type)
    (noProduct : ∀ entry ∈ workshop.registry.descriptors, entry.2.product ≠ type)
    (declaration : Declaration) :
    extended type (allRequests hierarchy policy workshop) declaration = declaration := by
  have fields : (allRequests hierarchy policy workshop).filterMap (Request.fieldOn type) = [] :=
    ready.fieldsOn_other noBuilder
  have methods : (allRequests hierarchy policy workshop).filterMap (Request.methodOn type) =
      [] := by
    rw [filterMap_allRequests, List.flatMap_eq_nil_iff]
    intro entry member
    obtain ⟨dataClass, -, -, same⟩ := ready.requestsOf_eq policy member
    rw [same, methodsOn_requests, if_neg (noBuilder entry member), if_neg (noProduct entry member),
      List.nil_append]
  have superclasses : (allRequests hierarchy policy workshop).filterMap
      (Request.superclassOn type) = [] := by
    rw [filterMap_allRequests, List.flatMap_eq_nil_iff]
    intro entry member
    obtain ⟨dataClass, -, -, same⟩ := ready.requestsOf_eq policy member
    rw [same, superclassesOn_requests, if_neg (noBuilder entry member)]
  simp only [extended, fields, methods, superclasses, List.append_nil, List.getLast?_nil,
    Option.none_or]

end BuilderSynthesis.Builder

namespace BuilderSynthesis.Run

open BuilderSynthesis.Builder (Descriptor Nests Workshop allRequests nestedBuilders)
open BuilderSynthesis.Code (Declaration Model TypeId)
open BuilderSynthesis.Schema (ClassId DataClass Hierarchy)

/-! ### Before there are builders -/

/-- Every declared type is that of a class or a nested type that a class has already. -/
theorem declareHierarchy_cases {hierarchy : Hierarchy} {declared : Model}
    {reports : List Diagnostic} (success : declareHierarchy hierarchy = .ok (declared, reports))
    (distinct : declared.names.Nodup) {type : TypeId} {declaration : Declaration}
    (found : declared.get? type = some declaration) :
    ∃ dataClass ∈ hierarchy.classes, declaration.qualifiedName = dataClass.name ∨
      ∃ outer, ∃ name ∈ hostNames dataClass,
        declaration = hostDeclaration dataClass outer name := by
  have named := (declareHierarchy_declared success).names
  obtain ⟨unlinked, declaring, rfl⟩ := declareHierarchy_eq_ok_iff.1 success
  have declares := declareClasses_declares declaring
  have indexed := declares.indexed Model.indexed_empty
  have names : unlinked.names.Nodup := by
    rw [declares.names]
    exact named ▸ distinct
  have once : (hierarchy.classes.map DataClass.name).Nodup :=
    (named ▸ distinct).sublist names_sublist
  rw [get?_foldl_linkSuperclass indexed names once] at found
  obtain ⟨before, there, rfl⟩ := Option.map_eq_some_iff.1 found
  obtain ⟨dataClass, member, ⟨nested, rfl⟩ | ⟨outer, name, listed, rfl⟩⟩ :=
    declares.fresh type before (Nat.zero_le type) there
  · exact ⟨dataClass, member, .inl (linked_qualifiedName _ _)⟩
  · -- A class of that name would have a type of its own, which is in no other.
    have unlinked' : hierarchy.classes.find? (fun other =>
        other.name == (hostDeclaration dataClass outer name).qualifiedName) = none := by
      rw [List.find?_eq_none]
      intro other listed same
      obtain ⟨position, nested, -, own⟩ := declares.product other listed
      have first := Model.lookup_of_get? indexed names own
      have second := Model.lookup_of_get? indexed names there
      rw [show (productDeclaration other nested).qualifiedName = other.name from rfl,
        beq_iff_eq.1 same, second, Option.some.injEq] at first
      rw [first, own, Option.some.injEq] at there
      have outside := congrArg Declaration.outer there
      cases outside
    rw [unlinked']
    exact ⟨dataClass, member, .inr ⟨outer, name, listed, rfl⟩⟩

/-! ### Afterwards -/

/-- Where a type comes from. -/
inductive Origin (hierarchy : Hierarchy) (builderName : String) (bears : ClassId → Bool)
    (model : Model) (type : TypeId) (declaration : Declaration) : Prop where
  | product (id : ClassId) (dataClass : DataClass) (known : hierarchy.get? id = some dataClass)
      (here : type = productId hierarchy model id)
  | builder (id : ClassId) (dataClass : DataClass) (known : hierarchy.get? id = some dataClass)
      (bearing : bears id = true) (here : type = builderId hierarchy builderName model id)
  | host (id : ClassId) (dataClass : DataClass) (known : hierarchy.get? id = some dataClass)
      (outer : TypeId) (name : String) (listed : name ∈ hostNames dataClass)
      (same : declaration = hostDeclaration dataClass outer name)

section

variable {hierarchy : Hierarchy} {builderName : String} {declared : Model} {registered : Workshop}
  (prepared : Prepared hierarchy builderName declared registered)

include prepared

theorem Prepared.bears_of_entry {entry : String × Descriptor}
    (member : entry ∈ registered.registry.descriptors) :
    bears hierarchy registered.registry entry.2.classId = true := by
  obtain ⟨-, -, dataClass, -, known, named, -⟩ := prepared.entry_builder member
  exact prepared.bears_of_key member known named.symm

theorem Prepared.origin {refused : List DataClass}
    (nests : Nests builderName hierarchy.entries registered.registry.descriptors refused
      ⟨declared, {}⟩ registered) (policy : Schema.Policy)
    {type : TypeId} {declaration : Declaration}
    (found : registered.model.get? type = some declaration) :
    Origin hierarchy builderName (bears hierarchy registered.registry) registered.model type
      (Builder.extended type (allRequests hierarchy policy registered) declaration) := by
  rcases Nat.lt_or_ge type declared.size with old | new
  · obtain ⟨reports, success⟩ := prepared.reports
    obtain ⟨earlier, there⟩ := Model.exists_get? old
    have grown := nests.earlier type earlier there
    rw [found, Option.some.injEq] at grown
    obtain ⟨dataClass, member, named | ⟨outer, name, listed, rfl⟩⟩ :=
      declareHierarchy_cases success prepared.distinct_declared there
    · obtain ⟨id, known⟩ := List.mem_iff_getElem?.1 member
      refine .product id dataClass known (productId_eq prepared.ready.indexed prepared.distinct
        known found ?_).symm
      rw [grown]
      exact named
    · obtain ⟨id, known⟩ := List.mem_iff_getElem?.1 member
      have noBuilder : ∀ entry ∈ registered.registry.descriptors, entry.2.builder ≠ type := by
        intro entry listed same
        have large := (prepared.entry_builder listed).1
        rw [same] at large
        exact absurd old (Nat.not_lt.2 large)
      have noProduct : ∀ entry ∈ registered.registry.descriptors, entry.2.product ≠ type := by
        intro entry listed same
        obtain ⟨-, -, other, -, known, -⟩ := prepared.entry_builder listed
        obtain ⟨-, -, product, here, header, -⟩ := prepared.product known
        rw [← prepared.entry_product listed, same, found, Option.some.injEq] at here
        rw [← here, grown] at header
        have impossible := congrArg Code.Header.isStatic header
        cases impossible
      refine .host id dataClass known outer name listed ?_
      rw [prepared.ready.extended_other noBuilder noProduct, grown,
        Builder.nestedBuilders_eq_nil noProduct]
      rfl
  · have small := Model.get?_eq_some_lt found
    rw [prepared.registers.size] at small
    have listed : type ∈ registered.registry.descriptors.map (fun entry => entry.2.builder) := by
      rw [prepared.registers.builders, List.mem_range'_1]
      exact ⟨new, small⟩
    obtain ⟨entry, member, rfl⟩ := List.mem_map.1 listed
    obtain ⟨-, position, dataClass, -, known, -⟩ := prepared.entry_builder member
    exact .builder entry.2.classId dataClass known (prepared.bears_of_entry member) position

end

section

variable {hierarchy : Hierarchy} {config : Config} {workshop : Workshop}
  (completes : Completes hierarchy config workshop) (distinct : workshop.model.names.Nodup)

include completes distinct

/-- Every type that a run leaves comes from a class. -/
theorem origin_of_completes {type : TypeId} {declaration : Declaration}
    (found : workshop.model.get? type = some declaration) :
    Origin hierarchy config.builderName (bears hierarchy workshop.registry) workshop.model type
      declaration := by
  obtain ⟨declared, registered, prepared, ⟨refused, nests⟩, granted, rfl⟩ :=
    prepared_of_completes completes distinct
  rw [Builder.get?_foldl_effect] at found
  obtain ⟨earlier, there, rfl⟩ := Option.map_eq_some_iff.1 found
  have origin := prepared.origin nests config.policy there
  rw [bears_foldl_effect]
  cases origin with
  | product id dataClass known here =>
      refine .product id dataClass known ?_
      rwa [prepared.productId_foldl_effect]
  | builder id dataClass known bearing here =>
      refine .builder id dataClass known bearing ?_
      rwa [prepared.builderId_foldl_effect]
  | host id dataClass known outer name listed same =>
      exact .host id dataClass known outer name listed same

/-- No type is above itself where no class is. -/
theorem acyclic_superclass? (acyclic : hierarchy.Acyclic) (inRange : hierarchy.InRange) :
    Walk.Acyclic workshop.model.superclass? := by
  have program := program_of_completes completes distinct inRange
  intro type loop
  obtain ⟨parent, link, -⟩ := Relation.TransGen.head'_iff.1 loop
  obtain ⟨declaration, found, extended⟩ := Option.bind_eq_some_iff.1 link
  cases origin_of_completes completes distinct found with
  | product id dataClass known here =>
      subst here
      exact Walk.not_reaches_of_named (Hierarchy.superclass_closed inRange)
        (fun _ => program.superclass?_product) (fun _ _ => program.productId_injective) acyclic
        (Hierarchy.get?_eq_some_lt known) loop
  | builder id dataClass known bearing here =>
      subst here
      exact Walk.not_reaches_of_named Walk.nearest_closed
        (fun _ => program.superclass?_builder) (fun _ _ => program.builderId_injective)
        (Walk.acyclic_nearest acyclic _) bearing loop
  | host id dataClass known outer name listed same =>
      rw [same] at extended
      cases extended

end

end BuilderSynthesis.Run
