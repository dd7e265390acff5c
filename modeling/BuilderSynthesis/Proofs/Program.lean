import BuilderSynthesis.Proofs.Phases

/-!
Contract: the types that a run leaves, where all names of types are distinct.

Owns:
- `productId` and `builderId`, where the types of a class are;
- `Program`, what these types are: fields, methods and superclasses of both;
- `program_of_completes`, that a completed run leaves a program.

Nothing after this looks at phases, requests or the registry again.
-/

namespace BuilderSynthesis.Run

open BuilderSynthesis.Builder (Descriptor Ready Registered Registers Request Workshop allRequests
  builderAncestors builderFields builderMethods builderTypeName productMethods requestsOf)
open BuilderSynthesis.Code (Declaration Model TypeId TypeRef)
open BuilderSynthesis.Schema (ClassId DataClass Hierarchy)

def productId (hierarchy : Hierarchy) (model : Model) (id : ClassId) : TypeId :=
  ((hierarchy.get? id).bind (fun dataClass => model.lookup dataClass.name)).getD 0

def builderId (hierarchy : Hierarchy) (builderName : String) (model : Model) (id : ClassId) :
    TypeId :=
  ((hierarchy.get? id).bind (fun dataClass =>
    model.lookup (builderTypeName builderName dataClass.name))).getD 0

def bears (hierarchy : Hierarchy) (registry : Builder.Registry) (id : ClassId) : Bool :=
  (registry.forClass? hierarchy id).isSome

def bearersAbove (hierarchy : Hierarchy) (bears : ClassId → Bool) (id : ClassId) :
    List DataClass :=
  ((hierarchy.ancestors id).filter bears).filterMap hierarchy.get?

/-- The type of a class after a run. -/
structure IsProduct (hierarchy : Hierarchy) (config : Config) (bears : ClassId → Bool)
    (model : Model) (id : ClassId) (dataClass : DataClass) (declaration : Declaration) : Prop where
  header : declaration.header = classHeader dataClass
  named : declaration.qualifiedName = dataClass.name
  fields : declaration.fields = dataClass.fields.map declaredField
  superclass : declaration.superclass =
    (hierarchy.superclass id).map (productId hierarchy model)
  methods : declaration.methods = if bears id then
    productMethods dataClass (.named (builderTypeName config.builderName dataClass.name))
  else
    []

/-- The type of a builder after a run. -/
structure IsBuilder (hierarchy : Hierarchy) (config : Config) (bears : ClassId → Bool)
    (model : Model) (id : ClassId) (dataClass : DataClass) (declaration : Declaration) : Prop where
  header : declaration.header = Builder.builderHeader dataClass config.builderName
  named : declaration.qualifiedName = builderTypeName config.builderName dataClass.name
  fields : declaration.fields = builderFields config.policy dataClass
  superclass : declaration.superclass =
    ((hierarchy.ancestors id).find? bears).map (builderId hierarchy config.builderName model)
  methods : declaration.methods =
    builderMethods config.policy (.named dataClass.name)
      (.named (builderTypeName config.builderName dataClass.name)) dataClass
      (bearersAbove hierarchy bears id)
  distinct : Builder.DistinctSignatures declaration.methods

/-- The types that a run leaves, for classes of which some have builders. -/
structure Program (hierarchy : Hierarchy) (config : Config) (bears : ClassId → Bool)
    (model : Model) : Prop where
  indexed : model.Indexed
  distinct : model.names.Nodup
  classes : (hierarchy.classes.map DataClass.name).Nodup
  size : hierarchy.size ≤ model.size
  known : ∀ id, bears id = true → id < hierarchy.size
  product : ∀ id dataClass, hierarchy.get? id = some dataClass →
    ∃ declaration, model.get? (productId hierarchy model id) = some declaration ∧
      IsProduct hierarchy config bears model id dataClass declaration
  builder : ∀ id dataClass, hierarchy.get? id = some dataClass → bears id = true →
    ∃ declaration,
      model.get? (builderId hierarchy config.builderName model id) = some declaration ∧
      IsBuilder hierarchy config bears model id dataClass declaration

theorem productId_eq {hierarchy : Hierarchy} {model : Model} (indexed : model.Indexed)
    (distinct : model.names.Nodup) {id : ClassId} {dataClass : DataClass}
    (known : hierarchy.get? id = some dataClass) {type : TypeId} {declaration : Declaration}
    (found : model.get? type = some declaration)
    (named : declaration.qualifiedName = dataClass.name) :
    productId hierarchy model id = type := by
  have lookup := Model.lookup_of_get? indexed distinct found
  unfold productId
  rw [known, Option.bind_some, ← named, lookup]
  rfl

theorem builderId_eq {hierarchy : Hierarchy} {builderName : String} {model : Model}
    (indexed : model.Indexed) (distinct : model.names.Nodup) {id : ClassId}
    {dataClass : DataClass} (known : hierarchy.get? id = some dataClass) {type : TypeId}
    {declaration : Declaration} (found : model.get? type = some declaration)
    (named : declaration.qualifiedName = builderTypeName builderName dataClass.name) :
    builderId hierarchy builderName model id = type := by
  have lookup := Model.lookup_of_get? indexed distinct found
  unfold builderId
  rw [known, Option.bind_some, ← named, lookup]
  rfl

/-! ### Before generating -/

/-- A declared hierarchy with registered builders, where all names are distinct. -/
structure Prepared (hierarchy : Hierarchy) (builderName : String) (declared : Model)
    (registered : Workshop) : Prop where
  reports : ∃ reports, declareHierarchy hierarchy = .ok (declared, reports)
  classes : (hierarchy.classes.map DataClass.name).Nodup
  registers : Registers builderName hierarchy.entries registered.registry.descriptors
    ⟨declared, {}⟩ registered
  ready : Ready hierarchy registered
  distinct : registered.model.names.Nodup

namespace Prepared

variable {hierarchy : Hierarchy} {builderName : String} {declared : Model}
  {registered : Workshop} (prepared : Prepared hierarchy builderName declared registered)

include prepared

theorem names : registered.model.names = declared.names ++
    (registered.registry.descriptors.map Prod.fst).map (builderTypeName builderName) :=
  prepared.registers.names

theorem distinct_declared : declared.names.Nodup := by
  have all := prepared.distinct
  rw [prepared.names] at all
  exact (List.nodup_append.1 all).1

/-- The type of a class, before its builder has members. -/
theorem product {id : ClassId} {dataClass : DataClass}
    (known : hierarchy.get? id = some dataClass) :
    declared.lookup dataClass.name = some (productId hierarchy registered.model id) ∧
      productId hierarchy registered.model id < declared.size ∧
      ∃ declaration,
        registered.model.get? (productId hierarchy registered.model id) = some declaration ∧
        declaration.header = classHeader dataClass ∧
        declaration.qualifiedName = dataClass.name ∧
        declaration.fields = dataClass.fields.map declaredField ∧
        declaration.superclass = linkTarget hierarchy declared dataClass ∧
        declaration.methods = [] := by
  obtain ⟨reports, success⟩ := prepared.reports
  have indexed := (declareHierarchy_declared success).indexed
  obtain ⟨type, nested, -, found⟩ := declareHierarchy_product success prepared.distinct_declared
    (List.mem_of_getElem? known)
  obtain ⟨more, there⟩ := prepared.registers.earlier type _ found
  have position := productId_eq (prepared.registers.indexed indexed) prepared.distinct known there
    rfl
  have looked := Model.lookup_of_get? indexed prepared.distinct_declared found
  rw [position]
  exact ⟨looked, Model.get?_eq_some_lt found, _, there, rfl, rfl, rfl, rfl, rfl⟩

theorem entry_product {entry : String × Descriptor}
    (member : entry ∈ registered.registry.descriptors) :
    entry.2.product = productId hierarchy registered.model entry.2.classId := by
  obtain ⟨dataClass, -, known, named, -⟩ := prepared.ready.builder entry member
  obtain ⟨declaration, found, name⟩ := prepared.ready.product entry member
  exact (productId_eq prepared.ready.indexed prepared.distinct known found
    (name.trans named.symm)).symm

theorem entry_builder {entry : String × Descriptor}
    (member : entry ∈ registered.registry.descriptors) :
    declared.size ≤ entry.2.builder ∧
      entry.2.builder = builderId hierarchy builderName registered.model entry.2.classId ∧
      ∃ dataClass declaration, hierarchy.get? entry.2.classId = some dataClass ∧
        dataClass.name = entry.1 ∧
        registered.model.get? entry.2.builder = some declaration ∧
        Builder.BlankBuilder builderName dataClass entry.2.product declaration := by
  obtain ⟨dataClass, listed, named, declaration, found, blank⟩ :=
    (prepared.registers.registered entry member).source
  have known := (Hierarchy.mem_entries_iff hierarchy _ _).1 listed
  refine ⟨?_, ?_, dataClass, declaration, known, named, found, blank⟩
  · have position : entry.2.builder ∈
        registered.registry.descriptors.map (fun entry => entry.2.builder) :=
      List.mem_map.2 ⟨entry, member, rfl⟩
    rw [prepared.registers.builders, List.mem_range'_1] at position
    exact position.1
  · exact (builderId_eq prepared.ready.indexed prepared.distinct known found blank.named).symm

/-- A class with a builder is in the registry. -/
theorem entry_of_bears {id : ClassId} {dataClass : DataClass}
    (known : hierarchy.get? id = some dataClass)
    (bearing : bears hierarchy registered.registry id = true) :
    ∃ descriptor, (dataClass.name, descriptor) ∈ registered.registry.descriptors ∧
      registered.registry.forClass? hierarchy id = some descriptor ∧ descriptor.classId = id := by
  obtain ⟨descriptor, found⟩ := Option.isSome_iff_exists.1 bearing
  have looked := found
  unfold Builder.Registry.forClass? at looked
  rw [known, Option.bind_some] at looked
  have member : (dataClass.name, descriptor) ∈ registered.registry.descriptors :=
    Keyed.mem_of_value? looked
  refine ⟨descriptor, member, found, ?_⟩
  obtain ⟨-, -, other, -, there, named, -⟩ := prepared.entry_builder member
  exact Hierarchy.eq_of_name prepared.classes there known named

/-- The type of a class is the product of no other class. -/
theorem key_of_product {entry : String × Descriptor}
    (member : entry ∈ registered.registry.descriptors) {id : ClassId} {dataClass : DataClass}
    (known : hierarchy.get? id = some dataClass)
    (same : entry.2.product = productId hierarchy registered.model id) :
    entry.1 = dataClass.name := by
  obtain ⟨one, there, name⟩ := prepared.ready.product entry member
  obtain ⟨-, -, declaration, here, -, named, -⟩ := prepared.product known
  rw [same, here, Option.some.injEq] at there
  rw [← name, ← there, named]

/-- A class that is in the registry has a builder. -/
theorem bears_of_key {entry : String × Descriptor}
    (member : entry ∈ registered.registry.descriptors) {id : ClassId} {dataClass : DataClass}
    (known : hierarchy.get? id = some dataClass) (same : entry.1 = dataClass.name) :
    bears hierarchy registered.registry id = true := by
  unfold bears Builder.Registry.forClass?
  rw [known, Option.bind_some, ← same]
  exact Option.isSome_iff_exists.2 ⟨entry.2, Keyed.value?_of_mem prepared.ready.keys member⟩

/-- The builder of the nearest class above that has one, by position. -/
theorem nearest (id : ClassId) :
    (registered.registry.nearestAncestor? hierarchy id).map Descriptor.builder =
      ((hierarchy.ancestors id).find? (bears hierarchy registered.registry)).map
        (builderId hierarchy builderName registered.model) := by
  unfold Builder.Registry.nearestAncestor?
  induction hierarchy.ancestors id with
  | nil => rfl
  | cons ancestor rest inductionHypothesis =>
      rw [List.findSome?_cons, List.find?_cons]
      cases found : registered.registry.forClass? hierarchy ancestor with
      | none =>
          have none' : bears hierarchy registered.registry ancestor = false := by
            unfold bears
            rw [found]
            rfl
          rw [none']
          exact inductionHypothesis
      | some descriptor =>
          have bearing : bears hierarchy registered.registry ancestor = true := by
            unfold bears
            rw [found]
            rfl
          rw [bearing]
          have looked := found
          unfold Builder.Registry.forClass? at looked
          obtain ⟨dataClass, known, -⟩ := Option.bind_eq_some_iff.1 looked
          obtain ⟨other, member, same, position⟩ := prepared.entry_of_bears known bearing
          rw [found, Option.some.injEq] at same
          subst same
          rw [Option.map_some, Option.map_some, (prepared.entry_builder member).2.1, position]

/-- What the type of a class extends is the type of its superclass. -/
theorem linkTarget_eq (inRange : hierarchy.InRange) {id : ClassId} {dataClass : DataClass}
    (known : hierarchy.get? id = some dataClass) :
    linkTarget hierarchy declared dataClass =
      (hierarchy.superclass id).map (productId hierarchy registered.model) := by
  have own : hierarchy.superclass id = dataClass.superclass := by
    unfold Hierarchy.superclass
    rw [known, Option.bind_some]
  unfold linkTarget
  rw [own]
  cases extended : dataClass.superclass with
  | none => rfl
  | some superclass =>
      have small := inRange dataClass (List.mem_of_getElem? known) superclass extended
      obtain ⟨parent, found⟩ := Hierarchy.exists_get? small
      rw [Option.bind_some, found, Option.bind_some, Option.map_some, (prepared.product found).1]

/-! ### What is asked for -/

theorem builder_ne {entry : String × Descriptor}
    (member : entry ∈ registered.registry.descriptors) {id : ClassId} {dataClass : DataClass}
    (known : hierarchy.get? id = some dataClass) :
    entry.2.builder ≠ productId hierarchy registered.model id := by
  have large := (prepared.entry_builder member).1
  have small := (prepared.product known).2.1
  intro same
  rw [same] at large
  exact absurd small (Nat.not_lt.2 large)

theorem typeRef_builder {entry : String × Descriptor}
    (member : entry ∈ registered.registry.descriptors) :
    registered.model.typeRef entry.2.builder = .named (builderTypeName builderName entry.1) := by
  obtain ⟨-, -, dataClass, declaration, -, named, found, blank⟩ := prepared.entry_builder member
  unfold Model.typeRef Model.qualifiedName
  simp only [found, blank.named, named]

theorem typeRef_product {entry : String × Descriptor}
    (member : entry ∈ registered.registry.descriptors) :
    registered.model.typeRef entry.2.product = .named entry.1 := by
  obtain ⟨declaration, found, named⟩ := prepared.ready.product entry member
  unfold Model.typeRef Model.qualifiedName
  simp only [found, named]

theorem superclassesOn_product (policy : Schema.Policy) {id : ClassId} {dataClass : DataClass}
    (known : hierarchy.get? id = some dataClass) :
    (allRequests hierarchy policy registered).filterMap
        (Request.superclassOn (productId hierarchy registered.model id)) = [] := by
  rw [Builder.filterMap_allRequests, List.flatMap_eq_nil_iff]
  intro entry member
  obtain ⟨other, -, -, same⟩ := prepared.ready.requestsOf_eq policy member
  rw [same, Builder.superclassesOn_requests, if_neg (prepared.builder_ne member known)]

theorem superclassesOn_builder (policy : Schema.Policy) {entry : String × Descriptor}
    (member : entry ∈ registered.registry.descriptors) :
    (allRequests hierarchy policy registered).filterMap
        (Request.superclassOn entry.2.builder) =
      ((registered.registry.nearestAncestor? hierarchy entry.2.classId).map
        Descriptor.builder).toList := by
  have others : ∀ other ∈ registered.registry.descriptors, other ≠ entry →
      (requestsOf hierarchy policy registered other).filterMap
        (Request.superclassOn entry.2.builder) = [] := by
    intro other found different
    obtain ⟨_, _, _, same⟩ := prepared.ready.requestsOf_eq policy found
    rw [same, Builder.superclassesOn_requests, if_neg]
    intro again
    exact different (List.inj_on_of_nodup_map prepared.ready.builders found member again)
  rw [Builder.filterMap_allRequests,
    Lists.flatMap_eq_of_unique member prepared.ready.distinct others]
  obtain ⟨_, _, _, same⟩ := prepared.ready.requestsOf_eq policy member
  rw [same, Builder.superclassesOn_requests, if_pos rfl]

/-- What is asked for on the type of a class is a method that makes a builder, if it has one. -/
theorem methodsOn_product (policy : Schema.Policy) {id : ClassId} {dataClass : DataClass}
    (known : hierarchy.get? id = some dataClass) :
    (allRequests hierarchy policy registered).filterMap
        (Request.methodOn (productId hierarchy registered.model id)) =
      if bears hierarchy registered.registry id then
        productMethods dataClass (.named (builderTypeName builderName dataClass.name))
      else [] := by
  rw [Builder.filterMap_allRequests]
  by_cases bearing : bears hierarchy registered.registry id = true
  · obtain ⟨descriptor, member, -, own⟩ := prepared.entry_of_bears known bearing
    have others : ∀ other ∈ registered.registry.descriptors,
        other ≠ (dataClass.name, descriptor) →
        (requestsOf hierarchy policy registered other).filterMap
          (Request.methodOn (productId hierarchy registered.model id)) = [] := by
      intro other found different
      obtain ⟨_, _, _, same⟩ := prepared.ready.requestsOf_eq policy found
      rw [same, Builder.methodsOn_requests, if_neg (prepared.builder_ne found known), if_neg,
        List.nil_append]
      intro again
      exact different (List.inj_on_of_nodup_map prepared.ready.keys found member
        (prepared.key_of_product found known again))
    rw [Lists.flatMap_eq_of_unique member prepared.ready.distinct others, if_pos bearing]
    obtain ⟨other, found, -, same⟩ := prepared.ready.requestsOf_eq policy member
    rw [own, known, Option.some.injEq] at found
    have type := prepared.entry_product member
    rw [own] at type
    rw [same, Builder.methodsOn_requests, if_neg (prepared.builder_ne member known), if_pos type,
      List.nil_append, prepared.typeRef_builder member, found]
  · rw [if_neg bearing, List.flatMap_eq_nil_iff]
    intro other found
    obtain ⟨_, _, _, same⟩ := prepared.ready.requestsOf_eq policy found
    rw [same, Builder.methodsOn_requests, if_neg (prepared.builder_ne found known), if_neg,
      List.nil_append]
    intro again
    exact bearing (prepared.bears_of_key found known (prepared.key_of_product found known again))

theorem methodsOn_builder (policy : Schema.Policy) {entry : String × Descriptor}
    (member : entry ∈ registered.registry.descriptors) {dataClass : DataClass}
    (known : hierarchy.get? entry.2.classId = some dataClass) :
    (allRequests hierarchy policy registered).filterMap (Request.methodOn entry.2.builder) =
      builderMethods policy (.named entry.1) (.named (builderTypeName builderName entry.1))
        dataClass
        (bearersAbove hierarchy (bears hierarchy registered.registry) entry.2.classId) := by
  have apart : ∀ other ∈ registered.registry.descriptors,
      other.2.product ≠ entry.2.builder := by
    intro other found same
    obtain ⟨-, -, dataOther, -, there, -⟩ := prepared.entry_builder found
    rw [prepared.entry_product found] at same
    exact prepared.builder_ne member there same.symm
  have others : ∀ other ∈ registered.registry.descriptors, other ≠ entry →
      (requestsOf hierarchy policy registered other).filterMap
        (Request.methodOn entry.2.builder) = [] := by
    intro other found different
    obtain ⟨_, _, _, same⟩ := prepared.ready.requestsOf_eq policy found
    rw [same, Builder.methodsOn_requests, if_neg, if_neg (apart other found), List.nil_append]
    intro again
    exact different (List.inj_on_of_nodup_map prepared.ready.builders found member again)
  rw [Builder.filterMap_allRequests,
    Lists.flatMap_eq_of_unique member prepared.ready.distinct others]
  obtain ⟨other, found, -, same⟩ := prepared.ready.requestsOf_eq policy member
  rw [known, Option.some.injEq] at found
  rw [same, Builder.methodsOn_requests, if_pos rfl, if_neg (apart entry member), List.append_nil,
    prepared.typeRef_builder member, prepared.typeRef_product member, found]
  rfl

end Prepared

/-! ### After generating -/

section

variable {hierarchy : Hierarchy} {builderName : String} {declared : Model} {registered : Workshop}
  (prepared : Prepared hierarchy builderName declared registered) (requests : List Request)

include prepared

theorem Prepared.lookup_foldl_effect :
    (requests.foldl Builder.effect registered).model.lookup = registered.model.lookup :=
  funext (Model.lookup_congr (Builder.indexed_foldl_effect requests prepared.ready.indexed)
    prepared.ready.indexed (Builder.names_foldl_effect requests registered))

theorem Prepared.productId_foldl_effect :
    productId hierarchy (requests.foldl Builder.effect registered).model =
      productId hierarchy registered.model := by
  funext id
  unfold productId
  rw [prepared.lookup_foldl_effect]

theorem Prepared.builderId_foldl_effect :
    builderId hierarchy builderName (requests.foldl Builder.effect registered).model =
      builderId hierarchy builderName registered.model := by
  funext id
  unfold builderId
  rw [prepared.lookup_foldl_effect]

end

/-- What registering leaves where all names are distinct. -/
theorem prepared_of_register {hierarchy : Hierarchy} {builderName : String} {declared : Model}
    {reports : List Diagnostic} {registered : Workshop}
    (declaring : declareHierarchy hierarchy = .ok (declared, reports))
    (registering : Builder.register hierarchy declared builderName = (registered, none))
    (distinct : registered.model.names.Nodup) :
    Prepared hierarchy builderName declared registered ∧
      ∃ refused, Builder.Nests builderName hierarchy.entries registered.registry.descriptors
        refused ⟨declared, {}⟩ registered := by
  have declares := declareHierarchy_declared declaring
  have classes : (hierarchy.classes.map DataClass.name).Nodup :=
    ((declareHierarchy_succeeds_iff hierarchy).1 ⟨declared, reports, declaring⟩).distinct
  obtain ⟨other, added, refused, again, registers, nests, ready⟩ :=
    registered_ready builderName declares classes
  rw [registering, Prod.mk.injEq] at again
  obtain ⟨rfl, -⟩ := again
  have descriptors : registered.registry.descriptors = added := registers.descriptors
  subst descriptors
  exact ⟨⟨⟨reports, declaring⟩, classes, registers, ready, distinct⟩, refused, nests⟩

/-- What registering leaves on the way to a completed run. -/
theorem prepared_of_completes {hierarchy : Hierarchy} {config : Config} {workshop : Workshop}
    (completes : Completes hierarchy config workshop) (distinct : workshop.model.names.Nodup) :
    ∃ declared registered, Prepared hierarchy config.builderName declared registered ∧
      (∃ refused, Builder.Nests config.builderName hierarchy.entries
        registered.registry.descriptors refused ⟨declared, {}⟩ registered) ∧
      Builder.AllGranted (allRequests hierarchy config.policy registered) registered ∧
      workshop = (allRequests hierarchy config.policy registered).foldl Builder.effect
        registered := by
  obtain ⟨declared, reports, registered, declaring, registering, generating⟩ := completes
  obtain ⟨granted, rfl⟩ := Builder.generate_eq_iff.1 generating
  rw [Builder.names_foldl_effect] at distinct
  obtain ⟨prepared, nests⟩ := prepared_of_register declaring registering distinct
  exact ⟨declared, registered, prepared, nests, granted, rfl⟩

section

variable {hierarchy : Hierarchy} {config : Config} {workshop : Workshop}

theorem bears_foldl_effect (requests : List Request) (workshop : Workshop) :
    bears hierarchy (requests.foldl Builder.effect workshop).registry =
      bears hierarchy workshop.registry := by
  funext id
  have shape := Builder.forClass?_congr
    ⟨Builder.names_foldl_effect requests workshop, Builder.shape_foldl_effect requests workshop⟩
    hierarchy id
  have same := congrArg Option.isSome shape
  rwa [Option.isSome_map, Option.isSome_map] at same

section

variable {declared : Model} {registered : Workshop}
  (prepared : Prepared hierarchy config.builderName declared registered)

include prepared

/-- Generating gives the type of a class at most a method. -/
theorem Prepared.isProduct (inRange : hierarchy.InRange) {id : ClassId} {dataClass : DataClass}
    (known : hierarchy.get? id = some dataClass) :
    ∃ declaration,
      ((allRequests hierarchy config.policy registered).foldl Builder.effect registered).model.get?
          (productId hierarchy registered.model id) = some declaration ∧
      IsProduct hierarchy config (bears hierarchy registered.registry) registered.model id dataClass
        declaration := by
  obtain ⟨-, -, declaration, found, header, named, fields, superclass, methods⟩ :=
    prepared.product known
  have blank : (allRequests hierarchy config.policy registered).filterMap
      (Request.fieldOn (productId hierarchy registered.model id)) = [] :=
    prepared.ready.fieldsOn_other (fun entry member => prepared.builder_ne member known)
  refine ⟨Builder.extended (productId hierarchy registered.model id)
    (allRequests hierarchy config.policy registered) declaration, ?_, header, named, ?_, ?_, ?_⟩
  · rw [Builder.get?_foldl_effect, found, Option.map_some]
  · simp only [Builder.extended, blank, fields, List.append_nil]
  · simp only [Builder.extended, prepared.superclassesOn_product config.policy known,
      List.getLast?_nil, Option.none_or, superclass, prepared.linkTarget_eq inRange known]
  · simp only [Builder.extended, prepared.methodsOn_product config.policy known, methods,
      List.nil_append]

/-- Generating gives a builder all its members. -/
theorem Prepared.isBuilder
    (granted : Builder.AllGranted (allRequests hierarchy config.policy registered) registered)
    {id : ClassId} {dataClass : DataClass} (known : hierarchy.get? id = some dataClass)
    (bearing : bears hierarchy registered.registry id = true) :
    ∃ declaration,
      ((allRequests hierarchy config.policy registered).foldl Builder.effect registered).model.get?
          (builderId hierarchy config.builderName registered.model id) = some declaration ∧
      IsBuilder hierarchy config (bears hierarchy registered.registry) registered.model id dataClass
        declaration := by
  obtain ⟨descriptor, member, -, own⟩ := prepared.entry_of_bears known bearing
  obtain ⟨-, position, other, declaration, there, -, found, blank⟩ :=
    prepared.entry_builder member
  subst own
  obtain rfl := Option.some.inj (known.symm.trans there)
  have requested : (allRequests hierarchy config.policy registered).filterMap
      (Request.fieldOn descriptor.builder) = builderFields config.policy dataClass := by
    have single : (allRequests hierarchy config.policy registered).filterMap
        (Request.fieldOn descriptor.builder) =
          (requestsOf hierarchy config.policy registered
            (dataClass.name, descriptor)).filterMap (Request.fieldOn descriptor.builder) :=
      prepared.ready.fieldsOn_builder member
    obtain ⟨other, there, -, same⟩ := prepared.ready.requestsOf_eq config.policy member
    obtain rfl := Option.some.inj (known.symm.trans there)
    rw [same, Builder.fieldsOn_requests, if_pos rfl] at single
    exact single
  have superclasses := prepared.superclassesOn_builder config.policy member
  rw [prepared.nearest] at superclasses
  have methods := prepared.methodsOn_builder config.policy member known
  refine ⟨Builder.extended descriptor.builder (allRequests hierarchy config.policy registered)
    declaration, ?_, blank.header, blank.named, ?_, ?_, ?_, ?_⟩
  · rw [← position, Builder.get?_foldl_effect, found, Option.map_some]
  · simp only [Builder.extended, requested, blank.fields, List.nil_append]
  · simp only [Builder.extended, superclasses, blank.superclass, Option.or_none]
    cases ((hierarchy.ancestors descriptor.classId).find?
      (bears hierarchy registered.registry)) <;> rfl
  · simp only [Builder.extended, methods, blank.methods, List.nil_append]
  · apply Builder.distinctSignatures_of_allGranted granted found
    rw [blank.methods]
    exact List.Pairwise.nil

end

/-- A completed run leaves a program, if all names of types are distinct. -/
theorem program_of_completes (completes : Completes hierarchy config workshop)
    (distinct : workshop.model.names.Nodup) (inRange : hierarchy.InRange) :
    Program hierarchy config (bears hierarchy workshop.registry) workshop.model := by
  obtain ⟨declared, registered, prepared, -, granted, rfl⟩ :=
    prepared_of_completes completes distinct
  rw [bears_foldl_effect]
  let all := allRequests hierarchy config.policy registered
  have names : (all.foldl Builder.effect registered).model.names = registered.model.names :=
    Builder.names_foldl_effect all registered
  have products := prepared.productId_foldl_effect all
  have builders := prepared.builderId_foldl_effect all
  constructor
  · exact Builder.indexed_foldl_effect all prepared.ready.indexed
  · exact distinct
  · exact prepared.classes
  · have declares := declareHierarchy_declared prepared.reports.choose_spec
    have few := (@names_sublist hierarchy.classes).length_le
    rw [← declares.names, List.length_map, Model.length_names] at few
    have more := prepared.registers.size
    rw [← Model.length_names, names, Model.length_names, more]
    exact Nat.le_trans few (Nat.le_add_right _ _)
  · intro id bearing
    obtain ⟨descriptor, found⟩ := Option.isSome_iff_exists.1 bearing
    obtain ⟨dataClass, known, -⟩ := Option.bind_eq_some_iff.1 found
    exact Hierarchy.get?_eq_some_lt known
  · intro id dataClass known
    obtain ⟨declaration, found, isProduct⟩ := prepared.isProduct inRange known
    rw [products]
    refine ⟨declaration, found, { isProduct with superclass := ?_ }⟩
    rw [products]
    exact isProduct.superclass
  · intro id dataClass known bearing
    obtain ⟨declaration, found, isBuilder⟩ := prepared.isBuilder granted known bearing
    rw [builders]
    refine ⟨declaration, found, { isBuilder with superclass := ?_ }⟩
    rw [builders]
    exact isBuilder.superclass

/-- The types that are noted of a class are those that have its names. -/
theorem noted_of_completes (completes : Completes hierarchy config workshop)
    (distinct : workshop.model.names.Nodup) {id : ClassId} {descriptor : Descriptor}
    (found : workshop.registry.forClass? hierarchy id = some descriptor) :
    descriptor.product = productId hierarchy workshop.model id ∧
      descriptor.builder = builderId hierarchy config.builderName workshop.model id := by
  obtain ⟨declared, registered, prepared, -, -, rfl⟩ := prepared_of_completes completes distinct
  let all := allRequests hierarchy config.policy registered
  have names : (all.foldl Builder.effect registered).model.names = registered.model.names :=
    Builder.names_foldl_effect all registered
  have shape := Builder.forClass?_congr ⟨names, Builder.shape_foldl_effect all registered⟩
    hierarchy id
  rw [found, Option.map_some, eq_comm] at shape
  obtain ⟨earlier, there, blank⟩ := Option.map_eq_some_iff.1 shape
  obtain ⟨dataClass, known, -⟩ := Option.bind_eq_some_iff.1 there
  obtain ⟨other, member, again, own⟩ := prepared.entry_of_bears known
    (Option.isSome_iff_exists.2 ⟨earlier, there⟩)
  rw [there, Option.some.injEq] at again
  subst again
  have product : earlier.blank.product = descriptor.blank.product := by rw [blank]
  have builder : earlier.blank.builder = descriptor.blank.builder := by rw [blank]
  change earlier.product = descriptor.product at product
  change earlier.builder = descriptor.builder at builder
  rw [← product, ← builder, prepared.entry_product member, (prepared.entry_builder member).2.1,
    own, prepared.productId_foldl_effect, prepared.builderId_foldl_effect]
  exact ⟨rfl, rfl⟩

/-- The builder that is noted of a class is the type that has its name. -/
theorem builder_eq_builderId (completes : Completes hierarchy config workshop)
    (distinct : workshop.model.names.Nodup) {id : ClassId} {descriptor : Descriptor}
    (found : workshop.registry.forClass? hierarchy id = some descriptor) :
    descriptor.builder = builderId hierarchy config.builderName workshop.model id :=
  (noted_of_completes completes distinct found).2

end

/-! ### Types by name -/

namespace Program

variable {hierarchy : Hierarchy} {config : Config} {bears : ClassId → Bool} {model : Model}
  (program : Program hierarchy config bears model)

include program

section

variable {id : ClassId} {dataClass : DataClass} (known : hierarchy.get? id = some dataClass)

include known

theorem lookup_product : model.lookup dataClass.name = some (productId hierarchy model id) := by
  obtain ⟨declaration, found, isProduct⟩ := program.product id dataClass known
  rw [← isProduct.named]
  exact Model.lookup_of_get? program.indexed program.distinct found

theorem typeRef_product :
    model.typeRef (productId hierarchy model id) = .named dataClass.name := by
  obtain ⟨declaration, found, isProduct⟩ := program.product id dataClass known
  unfold Model.typeRef Model.qualifiedName
  simp only [found, isProduct.named]

theorem lookup_builder (bearing : bears id = true) :
    model.lookup (builderTypeName config.builderName dataClass.name) =
      some (builderId hierarchy config.builderName model id) := by
  obtain ⟨declaration, found, isBuilder⟩ := program.builder id dataClass known bearing
  rw [← isBuilder.named]
  exact Model.lookup_of_get? program.indexed program.distinct found

theorem typeRef_builder (bearing : bears id = true) :
    model.typeRef (builderId hierarchy config.builderName model id) =
      .named (builderTypeName config.builderName dataClass.name) := by
  obtain ⟨declaration, found, isBuilder⟩ := program.builder id dataClass known bearing
  unfold Model.typeRef Model.qualifiedName
  simp only [found, isBuilder.named]

end

theorem productId_injective {left right : Nat} (known : left < hierarchy.size)
    (too : right < hierarchy.size)
    (same : productId hierarchy model left = productId hierarchy model right) : left = right := by
  obtain ⟨one, first⟩ := Hierarchy.exists_get? known
  obtain ⟨two, second⟩ := Hierarchy.exists_get? too
  have names := congrArg model.typeRef same
  rw [program.typeRef_product first, program.typeRef_product second, TypeRef.named.injEq] at names
  exact Hierarchy.eq_of_name program.classes first second names

theorem builderId_injective {left right : ClassId} (bearing : bears left = true)
    (too : bears right = true)
    (same : builderId hierarchy config.builderName model left =
      builderId hierarchy config.builderName model right) : left = right := by
  obtain ⟨one, first⟩ := Hierarchy.exists_get? (program.known left bearing)
  obtain ⟨two, second⟩ := Hierarchy.exists_get? (program.known right too)
  have names := congrArg model.typeRef same
  rw [program.typeRef_builder first bearing, program.typeRef_builder second too,
    TypeRef.named.injEq] at names
  unfold builderTypeName at names
  rw [String.append_left_inj, String.append_left_inj] at names
  exact Hierarchy.eq_of_name program.classes first second names

/-! ### Superclasses -/

theorem superclass?_product {id : Nat} (known : id < hierarchy.size) :
    model.superclass? (productId hierarchy model id) =
      (hierarchy.superclass id).map (productId hierarchy model) := by
  obtain ⟨dataClass, found⟩ := Hierarchy.exists_get? known
  obtain ⟨declaration, there, product⟩ := program.product id dataClass found
  unfold Model.superclass?
  rw [there, Option.bind_some, product.superclass]

theorem superclass?_builder {id : ClassId} (bearing : bears id = true) :
    model.superclass? (builderId hierarchy config.builderName model id) =
      (Walk.nearest hierarchy.superclass hierarchy.size bears id).map
        (builderId hierarchy config.builderName model) := by
  obtain ⟨dataClass, found⟩ := Hierarchy.exists_get? (program.known id bearing)
  obtain ⟨declaration, there, builder⟩ := program.builder id dataClass found bearing
  unfold Model.superclass?
  rw [there, Option.bind_some, builder.superclass, Hierarchy.ancestors_eq_path]
  rfl

/-- A type and those above it are the types of the class and of its ancestors. -/
theorem supertypes_product (acyclic : hierarchy.Acyclic) (inRange : hierarchy.InRange)
    {id : Nat} (known : id < hierarchy.size) :
    model.supertypes (productId hierarchy model id) =
      (id :: hierarchy.ancestors id).map (productId hierarchy model) := by
  have bounded := Hierarchy.bounded_of_inRange inRange
  have closed := Hierarchy.superclass_closed inRange
  have whole := Walk.visited_eq_cons_path acyclic bounded known program.size
  unfold Model.supertypes
  rw [Model.chain_eq_visited, Walk.visited_map closed (fun _ => program.superclass?_product)
    model.size known, whole, Hierarchy.ancestors_eq_path]

/-- A builder type and those above it are the builders of the class and of those of its ancestors
that have one. -/
theorem supertypes_builder (acyclic : hierarchy.Acyclic) (inRange : hierarchy.InRange)
    {id : Nat} (bearing : bears id = true) :
    model.supertypes (builderId hierarchy config.builderName model id) =
      (id :: (hierarchy.ancestors id).filter bears).map
        (builderId hierarchy config.builderName model) := by
  have bounded := Hierarchy.bounded_of_inRange inRange
  have whole := Walk.visited_eq_cons_path (Walk.acyclic_nearest acyclic bears)
    (Walk.bounded_nearest bounded bears) (program.known id bearing) program.size
  unfold Model.supertypes
  rw [Model.chain_eq_visited, Walk.visited_map Walk.nearest_closed
    (fun _ => program.superclass?_builder) model.size bearing, whole,
    Walk.path_nearest acyclic bounded, Hierarchy.ancestors_eq_path]

end Program

end BuilderSynthesis.Run
