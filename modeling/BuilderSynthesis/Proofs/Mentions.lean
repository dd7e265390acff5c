import BuilderSynthesis.Java.SourceFile
import BuilderSynthesis.Proofs.Phases

/-!
Contract: the types that the source files of a run mention.

A file mentions types in the fields and methods of its types, in what these extend, and in
expressions that make objects. All of them come from few places: they are the types of fields of
classes, the types of classes and of their builders, and the type parameter of `init`. Names of
types that a class has already are not among them, so nothing is asked of these here.

Owns: `typesInFile`, `Mentionable` and `mentionable_of_mem_typesInFile`.
-/

namespace BuilderSynthesis

/-! ### Mentioned types -/

namespace Code

def Expression.instantiated? : Expression → Option TypeRef
  | .new type => some type
  | _ => none

def TypeRef.parts : TypeRef → List TypeRef
  | .array element => .array element :: element.parts
  | .list element => .list element :: element.parts
  | other => [other]

def Field.types (field : Field) : List TypeRef :=
  field.type :: (field.initializer.toList.flatMap Expression.within).filterMap
    Expression.instantiated?

def Method.types (method : Method) : List TypeRef :=
  method.parameters.map Parameter.type ++ method.returns.toList ++
    method.typeParameters.flatMap TypeParameter.bounds ++
    (method.body.flatMap Statement.within).filterMap Expression.instantiated?

end Code

namespace Java

open Code (Declaration Expression Field Method Model TypeId TypeRef)

def instantiatedTypes (declaration : Declaration) : List TypeRef :=
  (declaration.fields.flatMap (fun field => field.initializer.toList.flatMap Expression.within) ++
    bodyExpressions declaration).filterMap Expression.instantiated?

def typesOf (model : Model) (declaration : Declaration) : List TypeRef :=
  (declaration.superclass.map model.typeRef).toList ++ mentionedTypes declaration ++
    instantiatedTypes declaration

def typesInFile (model : Model) (id : TypeId) : List TypeRef :=
  (nestedTypes model model.size id).flatMap (fun declaration =>
    (typesOf model declaration).flatMap TypeRef.parts)

/-- A type mentions what it extends and what its members mention. -/
theorem mem_typesOf_iff {model : Model} {declaration : Declaration} {type : TypeRef} :
    type ∈ typesOf model declaration ↔
      (∃ superclass, declaration.superclass = some superclass ∧ model.typeRef superclass = type) ∨
        (∃ field ∈ declaration.fields, type ∈ field.types) ∨
          ∃ method ∈ declaration.methods, type ∈ method.types := by
  unfold typesOf mentionedTypes instantiatedTypes bodyExpressions Field.types Method.types
  simp only [List.filterMap_append, List.filterMap_flatMap, List.mem_append, List.mem_flatMap,
    List.mem_map, List.mem_cons, Option.mem_toList, Option.map_eq_some_iff]
  grind

theorem exists_get?_of_mem_nestedTypes {model : Model} {levels : Nat} {id : TypeId}
    {declaration : Declaration} (member : declaration ∈ nestedTypes model levels id) :
    ∃ type, model.get? type = some declaration := by
  induction levels generalizing id with
  | zero => cases member
  | succ levels inductionHypothesis =>
      unfold nestedTypes at member
      cases found : model.get? id with
      | none =>
          rw [found] at member
          cases member
      | some outer =>
          rw [found] at member
          rcases List.mem_cons.1 member with rfl | inside
          · exact ⟨id, found⟩
          · obtain ⟨entry, -, there⟩ := List.mem_flatMap.1 inside
            exact inductionHypothesis there

end Java

/-! ### What members of builders mention -/

namespace Builder

open Code (Expression Method Statement TypeRef)
open Schema (DataClass Policy)

section

variable {policy : Policy} {builderType productType : TypeRef}

theorem types_builderField (field : Schema.Field) :
    ((Handling.ofProperty policy (Property.ofField field)).field (Property.ofField field)).types =
      [.ofField field.element field.cardinality] := by
  unfold Code.Field.types Handling.field
  split <;> rfl

theorem types_setterOf (field : Schema.Field) :
    (setterOf policy builderType (Property.ofField field)).types =
      [.ofField field.element field.cardinality, builderType] := by
  have parameter := type_parameter policy field
  unfold Method.types setterOf Handling.setter Handling.stored
  simp only [List.map_cons, parameter]
  split <;> rfl

theorem types_override (hidden : List String) (field : Schema.Field) :
    (override policy builderType hidden (Property.ofField field)).types =
      [.ofField field.element field.cardinality, builderType] := by
  have setter := @types_setterOf policy builderType field
  unfold override
  split
  · have parameter := type_parameter policy field
    unfold Method.types overriding delegating setterOf Handling.setter
    simp only [List.map_cons, parameter]
    rfl
  · exact setter

theorem types_initMethod {body : List Statement}
    (plain : (body.flatMap Statement.within).filterMap Expression.instantiated? = []) :
    (initMethod productType body).types =
      [.var productTypeName, .var productTypeName, productType] := by
  unfold Method.types initMethod
  rw [plain]
  rfl

theorem types_buildMethod (dataClass : DataClass) :
    (buildMethod dataClass productType).types = [productType, productType] :=
  rfl

theorem types_factoryMethod (dataClass : DataClass) :
    (factoryMethod dataClass builderType).types = [builderType, builderType] :=
  rfl

/-- The body of `init` makes no objects. -/
theorem instantiated_initBody (properties : List Property) (ancestors : List DataClass) :
    ((properties.map (initStatementOf policy) ++ [initEnd ancestors]).flatMap
      Statement.within).filterMap Expression.instantiated? = [] := by
  have last : (initEnd ancestors).within.filterMap Expression.instantiated? = [] := by
    cases ancestors <;> rfl
  have each : ∀ property : Property,
      (initStatementOf policy property).within.filterMap Expression.instantiated? = [] := by
    intro property
    unfold initStatementOf Handling.initStatement Handling.handedOver
    split <;> rfl
  simp [List.filterMap_flatMap, List.flatMap_map, each, last]

/-- A method of a builder mentions types of fields, the builder, its product and the type
parameter of `init`. -/
theorem types_of_mem_builderMethods {dataClass : DataClass} {ancestors : List DataClass}
    {method : Method} {type : TypeRef}
    (member : method ∈ builderMethods policy productType builderType dataClass ancestors)
    (mentioned : type ∈ method.types) :
    (∃ other ∈ dataClass :: ancestors, ∃ field ∈ other.fields,
      type = .ofField field.element field.cardinality) ∨
      type = builderType ∨ type = productType ∨ type = .var productTypeName := by
  have own : ∀ {other : DataClass} {property : Property}, property ∈ ownProperties other →
      ∃ field ∈ other.fields, property = Property.ofField field := by
    intro other property listed
    obtain ⟨field, kept, rfl⟩ := List.mem_map.1 listed
    exact ⟨field, (List.mem_filter.1 kept).1, rfl⟩
  simp only [builderMethods, List.mem_append, List.mem_singleton] at member
  rcases member with ((setter | init) | inherited) | build
  · obtain ⟨property, listed, rfl⟩ := List.mem_map.1 setter
    obtain ⟨field, inside, rfl⟩ := own listed
    rw [types_setterOf, List.mem_pair] at mentioned
    rcases mentioned with rfl | rfl
    · exact .inl ⟨dataClass, List.mem_cons_self, field, inside, rfl⟩
    · exact .inr (.inl rfl)
  · subst init
    rw [types_initMethod (instantiated_initBody _ _)] at mentioned
    simp only [List.mem_cons, List.not_mem_nil, or_false, or_self_left] at mentioned
    rcases mentioned with rfl | rfl
    · exact .inr (.inr (.inr rfl))
    · exact .inr (.inr (.inl rfl))
  · obtain ⟨ancestor, above, property, listed, hidden, rfl⟩ := of_mem_inheritedSetters inherited
    obtain ⟨field, inside, rfl⟩ := own listed
    rw [types_override, List.mem_pair] at mentioned
    rcases mentioned with rfl | rfl
    · exact .inl ⟨ancestor, List.mem_cons_of_mem _ above, field, inside, rfl⟩
    · exact .inr (.inl rfl)
  · split at build
    · cases build
    · rw [List.mem_singleton.1 build, types_buildMethod, List.mem_pair, or_self] at mentioned
      exact .inr (.inr (.inl mentioned))

end

end Builder

/-! ### What a run mentions -/

namespace Run

open Builder (Registers Workshop allRequests builderTypeName builderMethods productMethods
  productTypeName)
open Code (Declaration Model TypeId TypeRef)
open Schema (ClassId DataClass Hierarchy)

/-- The types that files can mention, apart from those of elements. -/
inductive Mentionable (hierarchy : Hierarchy) (builderName : String) : TypeRef → Prop where
  | ofField {dataClass : DataClass} {field : Schema.Field} (known : dataClass ∈ hierarchy.classes)
      (declared : field ∈ dataClass.fields) :
      Mentionable hierarchy builderName (.ofField field.element field.cardinality)
  | product {dataClass : DataClass} (known : dataClass ∈ hierarchy.classes) :
      Mentionable hierarchy builderName (.named dataClass.name)
  | builder {dataClass : DataClass} (known : dataClass ∈ hierarchy.classes) :
      Mentionable hierarchy builderName (.named (builderTypeName builderName dataClass.name))
  /-- The type parameter of `init`. -/
  | parameter : Mentionable hierarchy builderName (.var productTypeName)

/-- The fields of a type are those of classes, and it extends the type of a class if any. -/
structure FromClasses (hierarchy : Hierarchy) (model : Model) (declaration : Declaration) :
    Prop where
  fields : ∀ field ∈ declaration.fields, ∃ dataClass ∈ hierarchy.classes,
    ∃ source ∈ dataClass.fields, field = declaredField source
  superclass : ∀ superclass, declaration.superclass = some superclass →
    ∃ dataClass ∈ hierarchy.classes, model.names[superclass]? = some dataClass.name

def AllFromClasses (hierarchy : Hierarchy) (model : Model) : Prop :=
  ∀ id declaration, model.get? id = some declaration → FromClasses hierarchy model declaration

section

variable {hierarchy : Hierarchy}

/-- More types may follow, and more may be nested. -/
theorem FromClasses.mono {before after : Model} {declaration : Declaration}
    (source : FromClasses hierarchy before declaration) (grows : before.names <+: after.names)
    (nested : List (String × TypeId)) :
    FromClasses hierarchy after { declaration with nested := nested } where
  fields := source.fields
  superclass superclass extended := by
    obtain ⟨dataClass, known, named⟩ := source.superclass superclass extended
    exact ⟨dataClass, known, Lists.getElem?_of_isPrefix grows named⟩

theorem allFromClasses_of_declares {model : Model}
    (declares : Declares hierarchy.classes {} model) : AllFromClasses hierarchy model := by
  intro id declaration found
  obtain ⟨dataClass, known, ⟨nested, rfl⟩ | ⟨outer, name, -, rfl⟩⟩ :=
    declares.fresh id declaration (Nat.zero_le id) found
  · refine ⟨List.forall_mem_map.2 fun source declared => ?_, fun _ extended => nomatch extended⟩
    exact ⟨dataClass, known, source, declared, rfl⟩
  · refine ⟨fun _ member => ?_, fun _ extended => nomatch extended⟩
    cases member

theorem AllFromClasses.linkSuperclass {model : Model} (indexed : model.Indexed)
    (sources : AllFromClasses hierarchy model) (dataClass : DataClass) :
    AllFromClasses hierarchy (linkSuperclass hierarchy model dataClass) := by
  have same := names_linkSuperclass hierarchy model dataClass
  have kept : ∀ id declaration, model.get? id = some declaration →
      FromClasses hierarchy (Run.linkSuperclass hierarchy model dataClass) declaration :=
    fun id declaration found => (sources id declaration found).mono (same ▸ List.prefix_rfl) _
  intro id declaration origin
  rw [linkSuperclass_eq] at origin
  cases position : model.lookup dataClass.name with
  | none =>
      simp only [position] at origin
      exact kept id declaration origin
  | some owner =>
      simp only [position] at origin
      rcases Model.get?_update_cases origin with ⟨rfl, before, there, rfl⟩ | ⟨-, present⟩
      · cases target : linkTarget hierarchy model dataClass with
        | none => exact kept id before there
        | some parent =>
            refine ⟨(kept id before there).fields, fun superclass extended => ?_⟩
            cases extended
            obtain ⟨above, listed, looked⟩ := Option.bind_eq_some_iff.1 target
            obtain ⟨position, -, present⟩ := Option.bind_eq_some_iff.1 listed
            obtain ⟨declared, here, named⟩ := Model.get?_of_lookup indexed looked
            refine ⟨above, List.mem_of_getElem? present, ?_⟩
            rw [same, Model.names, List.getElem?_map]
            exact Option.map_eq_some_iff.2 ⟨declared, here, named⟩
      · exact kept id declaration present

theorem allFromClasses_of_declareHierarchy {model : Model} {reports : List Diagnostic}
    (declaring : declareHierarchy hierarchy = .ok (model, reports)) :
    AllFromClasses hierarchy model := by
  obtain ⟨unlinked, declared, rfl⟩ := declareHierarchy_eq_ok_iff.1 declaring
  have declares := declareClasses_declares declared
  have linked : ∀ (classes : List DataClass) (model : Model), model.Indexed →
      AllFromClasses hierarchy model →
        AllFromClasses hierarchy (classes.foldl (linkSuperclass hierarchy) model) := by
    intro classes
    induction classes with
    | nil => exact fun _ _ sources => sources
    | cons dataClass rest inductionHypothesis =>
        intro model indexed sources
        exact inductionHypothesis _ (indexed_linkSuperclass hierarchy indexed dataClass)
          (sources.linkSuperclass indexed dataClass)
  exact linked _ _ (declares.indexed Model.indexed_empty) (allFromClasses_of_declares declares)

/-- Builders that are registered extend nothing and have no fields yet. -/
theorem AllFromClasses.registers {builderName : String}
    {entries : List (ClassId × DataClass)} {added : List (String × Builder.Descriptor)}
    {before after : Workshop} (registers : Registers builderName entries added before after)
    (sources : AllFromClasses hierarchy before.model) : AllFromClasses hierarchy after.model := by
  intro id declaration found
  rcases registers.get?_cases found with ⟨earlier, nested, present, rfl⟩ | ⟨_, _, builder⟩
  · exact (sources id earlier present).mono (registers.names ▸ List.prefix_append _ _) _
  · refine ⟨?_, ?_⟩
    · rw [builder.fields]
      exact fun _ impossible => nomatch impossible
    · rw [builder.superclass]
      exact fun _ impossible => nomatch impossible

end

section

variable {hierarchy : Hierarchy} {builderName : String} {model : Model}
  {added : List (String × Builder.Descriptor)} {workshop : Workshop}
  (registers : Registers builderName hierarchy.entries added ⟨model, {}⟩ workshop)

include registers

/-- The product and the builder of a registered class are called after a class. -/
theorem mentionable_of_registered {entry : String × Builder.Descriptor}
    (member : entry ∈ workshop.registry.descriptors) :
    ∃ dataClass, hierarchy.get? entry.2.classId = some dataClass ∧
      Mentionable hierarchy builderName (workshop.model.typeRef entry.2.product) ∧
      Mentionable hierarchy builderName (workshop.model.typeRef entry.2.builder) := by
  have descriptors : workshop.registry.descriptors = added := registers.descriptors
  have registered := registers.registered entry (descriptors ▸ member)
  obtain ⟨dataClass, listed, same, empty, builder, blank⟩ := registered.source
  obtain ⟨declaration, product, named⟩ := registered.product
  have present := (Hierarchy.mem_entries_iff hierarchy _ _).1 listed
  have known : dataClass ∈ hierarchy.classes := List.mem_of_getElem? present
  refine ⟨dataClass, present, ?_, ?_⟩
  · simp only [Model.typeRef, Model.qualifiedName, product, named, ← same]
    exact .product known
  · simp only [Model.typeRef, Model.qualifiedName, builder, blank.named]
    exact .builder known

variable (ready : Builder.Ready hierarchy workshop) (policy : Schema.Policy) {id : TypeId}

include ready

/-- A type is made to extend builders only. -/
theorem mentionable_of_superclassOn {parent : TypeId}
    (asked : parent ∈ (allRequests hierarchy policy workshop).filterMap
      (Builder.Request.superclassOn id)) :
    Mentionable hierarchy builderName (workshop.model.typeRef parent) := by
  rw [Builder.filterMap_allRequests] at asked
  obtain ⟨entry, member, here⟩ := List.mem_flatMap.1 asked
  obtain ⟨dataClass, -, -, same⟩ := ready.requestsOf_eq policy member
  rw [same, Builder.superclassesOn_requests] at here
  split at here
  · obtain ⟨above, nearest, rfl⟩ := Option.map_eq_some_iff.1 (Option.mem_toList.1 here)
    obtain ⟨ancestor, -, known⟩ := List.exists_of_findSome?_eq_some nearest
    obtain ⟨_, -, looked⟩ := Option.bind_eq_some_iff.1 known
    obtain ⟨-, -, -, builder⟩ := mentionable_of_registered registers (Keyed.mem_of_value? looked)
    exact builder
  · cases here

omit registers in
/-- The fields of builders have the types that fields of classes have. -/
theorem mentionable_of_fieldOn {field : Code.Field}
    (asked : field ∈ (allRequests hierarchy policy workshop).filterMap (Builder.Request.fieldOn id))
    {type : TypeRef} (inside : type ∈ field.types) : Mentionable hierarchy builderName type := by
  rw [Builder.filterMap_allRequests] at asked
  obtain ⟨entry, member, here⟩ := List.mem_flatMap.1 asked
  obtain ⟨dataClass, present, -, same⟩ := ready.requestsOf_eq policy member
  rw [same, Builder.fieldsOn_requests] at here
  split at here
  · obtain ⟨property, own, rfl⟩ := List.mem_map.1 here
    obtain ⟨source, kept, rfl⟩ := List.mem_map.1 own
    rw [Builder.types_builderField, List.mem_singleton] at inside
    subst inside
    exact .ofField (List.mem_of_getElem? present) (List.mem_filter.1 kept).1
  · cases here

theorem mentionable_of_methodOn {method : Code.Method}
    (asked : method ∈ (allRequests hierarchy policy workshop).filterMap
      (Builder.Request.methodOn id))
    {type : TypeRef} (inside : type ∈ method.types) : Mentionable hierarchy builderName type := by
  rw [Builder.filterMap_allRequests] at asked
  obtain ⟨entry, member, here⟩ := List.mem_flatMap.1 asked
  obtain ⟨dataClass, present, -, same⟩ := ready.requestsOf_eq policy member
  obtain ⟨-, -, product, builder⟩ := mentionable_of_registered registers member
  rw [same, Builder.methodsOn_requests, List.mem_append] at here
  rcases here with ofBuilder | ofProduct
  · split at ofBuilder
    · rcases Builder.types_of_mem_builderMethods ofBuilder inside with
        ⟨other, lineage, source, declared, rfl⟩ | rfl | rfl | rfl
      · refine .ofField ?_ declared
        rcases List.mem_cons.1 lineage with rfl | above
        · exact List.mem_of_getElem? present
        · obtain ⟨position, -, there⟩ := List.mem_filterMap.1 above
          exact List.mem_of_getElem? there
      · exact builder
      · exact product
      · exact .parameter
    · cases ofBuilder
  · split at ofProduct
    · unfold Builder.productMethods at ofProduct
      split at ofProduct
      · cases ofProduct
      · rw [List.mem_singleton.1 ofProduct, Builder.types_factoryMethod, List.mem_pair,
          or_self] at inside
        exact inside ▸ builder
    · cases ofProduct

/-- What generating adds to a type mentions nothing else. -/
theorem mentionable_of_extended {earlier : Declaration}
    (found : workshop.model.get? id = some earlier)
    (source : FromClasses hierarchy workshop.model earlier) {type : TypeRef}
    (mentioned : type ∈ Java.typesOf workshop.model
      (Builder.extended id (allRequests hierarchy policy workshop) earlier)) :
    Mentionable hierarchy builderName type := by
  rcases Java.mem_typesOf_iff.1 mentioned with
    ⟨parent, extended, rfl⟩ | ⟨field, listed, inside⟩ | ⟨method, listed, inside⟩
  · rcases Option.or_eq_some_iff.1 extended with asked | ⟨-, before⟩
    · exact mentionable_of_superclassOn registers ready policy (List.mem_of_getLast? asked)
    · obtain ⟨dataClass, known, named⟩ := source.superclass parent before
      rw [Model.typeRef, Model.qualifiedName_eq, named]
      exact .product known
  · rcases List.mem_append.1 listed with before | asked
    · obtain ⟨dataClass, known, declared, member, rfl⟩ := source.fields field before
      rw [List.mem_singleton.1 inside]
      exact .ofField known member
    · exact mentionable_of_fieldOn ready policy asked inside
  · rcases List.mem_append.1 listed with before | asked
    · rw [(ready.blank id earlier found).1] at before
      cases before
    · exact mentionable_of_methodOn registers ready policy asked inside

end

/-- Every type that is mentioned after a run is a type of a field, the type of a class or of a
builder, or the type parameter of `init`. -/
theorem mentionable_of_completes {hierarchy : Hierarchy} {config : Config} {workshop : Workshop}
    (completes : Completes hierarchy config workshop) {id : TypeId} {declaration : Declaration}
    (found : workshop.model.get? id = some declaration) {type : TypeRef}
    (mentioned : type ∈ Java.typesOf workshop.model declaration) :
    Mentionable hierarchy config.builderName type := by
  obtain ⟨model, reports, registered, added, declaring, -, registers, ready, generating⟩ :=
    completes.registered
  have sources := (allFromClasses_of_declareHierarchy declaring).registers registers
  have all := Builder.generate_eq_iff.1 generating
  have same : Java.typesOf workshop.model declaration =
      Java.typesOf registered.model declaration := by
    have names := Builder.names_foldl_effect
      (allRequests hierarchy config.policy registered) registered
    rw [← all.2] at names
    unfold Java.typesOf Model.typeRef
    simp only [Model.qualifiedName_eq, names]
  rw [all.2, Builder.get?_foldl_effect] at found
  obtain ⟨earlier, there, rfl⟩ := Option.map_eq_some_iff.1 found
  exact mentionable_of_extended registers ready config.policy there (sources id earlier there)
    (same ▸ mentioned)

/-- What a file mentions is one of these types or the type of an element of one. -/
theorem mentionable_of_mem_typesInFile {hierarchy : Hierarchy} {config : Config}
    {workshop : Workshop} (completes : Completes hierarchy config workshop) {id : TypeId}
    {type : TypeRef} (mentioned : type ∈ Java.typesInFile workshop.model id) :
    ∃ whole, Mentionable hierarchy config.builderName whole ∧ type ∈ whole.parts := by
  obtain ⟨declaration, nested, inside⟩ := List.mem_flatMap.1 mentioned
  obtain ⟨whole, own, part⟩ := List.mem_flatMap.1 inside
  obtain ⟨_, found⟩ := Java.exists_get?_of_mem_nestedTypes nested
  exact ⟨whole, mentionable_of_completes completes found own, part⟩

end Run

end BuilderSynthesis
