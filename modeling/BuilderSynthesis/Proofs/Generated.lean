import BuilderSynthesis.Proofs.Carried
import BuilderSynthesis.Proofs.Members

/-!
Contract: the requests that generating builders takes, as one list.

What is asked for depends on the names of types and on which classes have builders,
neither of which changes while requests are carried out. So all requests can be listed
before the first of them; `generate_eq_iff` says that generating carries out that list.

Owns: what the requests for one builder ask for on each type.
-/

namespace BuilderSynthesis.Builder

open BuilderSynthesis.Code (Method Model Statement TypeId TypeRef)
open BuilderSynthesis.Schema (ClassId DataClass Hierarchy Policy)

/-! ### What does not change -/

/-- Two workshops have the same names of types and the same builders. -/
structure SameShape (workshop other : Workshop) : Prop where
  names : workshop.model.names = other.model.names
  builders : workshop.registry.shape = other.registry.shape

section

variable {workshop other : Workshop} (same : SameShape workshop other)

include same

theorem typeRef_congr (id : TypeId) : workshop.model.typeRef id = other.model.typeRef id := by
  unfold Model.typeRef
  rw [Model.qualifiedName_eq, Model.qualifiedName_eq, same.names]

theorem forClass?_congr (hierarchy : Hierarchy) (id : ClassId) :
    (workshop.registry.forClass? hierarchy id).map Descriptor.blank =
      (other.registry.forClass? hierarchy id).map Descriptor.blank := by
  unfold Registry.forClass?
  cases hierarchy.get? id with
  | none => rfl
  | some dataClass =>
      rw [Option.bind_some, Option.bind_some, ← Registry.value?_shape, ← Registry.value?_shape,
        same.builders]

theorem nearestAncestor?_congr (hierarchy : Hierarchy) (id : ClassId) :
    (workshop.registry.nearestAncestor? hierarchy id).map Descriptor.blank =
      (other.registry.nearestAncestor? hierarchy id).map Descriptor.blank := by
  unfold Registry.nearestAncestor?
  rw [List.map_findSome?, List.map_findSome?]
  congr 1
  funext ancestor
  exact forClass?_congr same hierarchy ancestor

theorem builderAncestors_congr (hierarchy : Hierarchy) (id : ClassId) :
    builderAncestors hierarchy workshop.registry id =
      builderAncestors hierarchy other.registry id := by
  have kinds : ∀ ancestor, (workshop.registry.forClass? hierarchy ancestor).isSome =
      (other.registry.forClass? hierarchy ancestor).isSome := by
    intro ancestor
    have blank := congrArg Option.isSome (forClass?_congr same hierarchy ancestor)
    rwa [Option.isSome_map, Option.isSome_map] at blank
  unfold builderAncestors
  simp only [kinds]

theorem requests_congr (hierarchy : Hierarchy) (policy : Policy) (key : String)
    (descriptor : Descriptor) (dataClass : DataClass) :
    requests hierarchy policy workshop key descriptor dataClass =
      requests hierarchy policy other key descriptor dataClass := by
  have parents := nearestAncestor?_congr same hierarchy descriptor.classId
  unfold requests
  simp only [typeRef_congr same, builderAncestors_congr same]
  cases one : workshop.registry.nearestAncestor? hierarchy descriptor.classId with
  | none =>
      rw [one, Option.map_none, eq_comm, Option.map_eq_none_iff] at parents
      rw [parents]
  | some parent =>
      rw [one, Option.map_some, eq_comm, Option.map_eq_some_iff] at parents
      obtain ⟨ancestor, two, blank⟩ := parents
      have builder : ancestor.builder = parent.builder := by
        have same := congrArg Descriptor.builder (show ancestor.blank = parent.blank from blank)
        exact same
      rw [two]
      simp only [Option.map_some, builder, initReturn, Option.isSome_some]

end

/-! ### All requests -/

def requestsOf (hierarchy : Hierarchy) (policy : Policy) (workshop : Workshop)
    (entry : String × Descriptor) : List Request :=
  match hierarchy.get? entry.2.classId with
  | none => []
  | some dataClass => requests hierarchy policy workshop entry.1 entry.2 dataClass

def allRequests (hierarchy : Hierarchy) (policy : Policy) (workshop : Workshop) : List Request :=
  workshop.registry.descriptors.flatMap (requestsOf hierarchy policy workshop)

theorem generateOne_eq_iff {hierarchy : Hierarchy} {policy : Policy}
    {workshop first after : Workshop} (same : SameShape workshop first) (key : String)
    (descriptor : Descriptor) :
    generateOne hierarchy policy workshop key descriptor = (after, none) ↔
      AllGranted (requestsOf hierarchy policy first (key, descriptor)) workshop ∧
        after = (requestsOf hierarchy policy first (key, descriptor)).foldl effect workshop := by
  unfold generateOne requestsOf
  cases hierarchy.get? descriptor.classId with
  | none => simp [AllGranted, eq_comm]
  | some dataClass =>
      simp only [carryOutAll_eq_iff, requests_congr same]

theorem sameShape_foldl_effect {workshop first : Workshop} (same : SameShape workshop first)
    (requests : List Request) : SameShape (requests.foldl effect workshop) first :=
  ⟨(names_foldl_effect requests workshop).trans same.names,
    (shape_foldl_effect requests workshop).trans same.builders⟩

theorem generateAll_eq_iff {hierarchy : Hierarchy} {policy : Policy}
    {entries : List (String × Descriptor)} {workshop first after : Workshop}
    (same : SameShape workshop first) :
    generateAll hierarchy policy entries workshop = (after, none) ↔
      AllGranted (entries.flatMap (requestsOf hierarchy policy first)) workshop ∧
        after = (entries.flatMap (requestsOf hierarchy policy first)).foldl effect workshop := by
  induction entries generalizing workshop with
  | nil => simp [generateAll, AllGranted, eq_comm]
  | cons entry rest inductionHypothesis =>
      obtain ⟨key, descriptor⟩ := entry
      unfold generateAll
      rw [List.flatMap_cons, allGranted_append, List.foldl_append]
      cases step : generateOne hierarchy policy workshop key descriptor with
      | mk middle failure =>
          cases failure with
          | none =>
              obtain ⟨granted, rfl⟩ := (generateOne_eq_iff same key descriptor).1 step
              simp only [granted, true_and]
              exact inductionHypothesis (sameShape_foldl_effect same _)
          | some failure =>
              simp only [Prod.mk.injEq, reduceCtorEq, and_false, false_iff, not_and]
              intro granted
              rw [(generateOne_eq_iff same key descriptor).2 ⟨granted.1, rfl⟩] at step
              cases step

/-- Generating the builders of a workshop carries out all requests, if all are granted. -/
theorem generate_eq_iff {hierarchy : Hierarchy} {policy : Policy} {workshop after : Workshop} :
    generate hierarchy policy workshop = (after, none) ↔
      AllGranted (allRequests hierarchy policy workshop) workshop ∧
        after = (allRequests hierarchy policy workshop).foldl effect workshop :=
  generateAll_eq_iff ⟨rfl, rfl⟩

/-! ### What the requests for one builder ask for -/

/-- The last statement of `init` for a class with some builders above it. -/
def initEnd : List DataClass → Statement
  | [] => .return (some product)
  | _ :: _ => .return (some (.superCall initName [product]))

/-- The methods of the builder of a class, given the classes above it that have builders. -/
def builderMethods (policy : Policy) (productType builderType : TypeRef) (dataClass : DataClass)
    (ancestors : List DataClass) : List Method :=
  (ownProperties dataClass).map (setterOf policy builderType) ++
    [initMethod productType
      ((ownProperties dataClass).map (initStatementOf policy) ++ [initEnd ancestors])] ++
    inheritedSetters policy builderType ancestors
      ((ownProperties dataClass).map (fun property =>
        (setterOf policy builderType property).signature))
      ((ownProperties dataClass).map Property.name) ++
    (if dataClass.isAbstract then [] else [buildMethod dataClass productType])

def productMethods (dataClass : DataClass) (builderType : TypeRef) : List Method :=
  if dataClass.isAbstract then [] else [factoryMethod dataClass builderType]

def builderFields (policy : Policy) (dataClass : DataClass) : List Code.Field :=
  (ownProperties dataClass).map (fun property =>
    (Handling.ofProperty policy property).field property)

section

variable {hierarchy : Hierarchy} {policy : Policy} {workshop : Workshop} {key : String}
  {descriptor : Descriptor} {dataClass : DataClass}

theorem builderAncestors_eq_nil_iff (registry : Registry) (id : ClassId) :
    builderAncestors hierarchy registry id = [] ↔
      registry.nearestAncestor? hierarchy id = none := by
  unfold builderAncestors Registry.nearestAncestor?
  rw [List.findSome?_eq_none_iff, List.filterMap_eq_nil_iff]
  constructor
  · intro none' ancestor member
    by_contra bearing
    rw [← ne_eq, ← Option.isSome_iff_ne_none] at bearing
    have absent := none' ancestor (List.mem_filter.2 ⟨member, bearing⟩)
    unfold Registry.forClass? at bearing
    rw [absent] at bearing
    cases bearing
  · intro none' ancestor member
    have bearing := (List.mem_filter.1 member).2
    rw [none' ancestor (List.mem_filter.1 member).1] at bearing
    cases bearing

theorem initReturn_eq (registry : Registry) (id : ClassId) :
    initReturn (registry.nearestAncestor? hierarchy id) =
      initEnd (builderAncestors hierarchy registry id) := by
  have last := @builderAncestors_eq_nil_iff hierarchy registry id
  cases parent : registry.nearestAncestor? hierarchy id with
  | none =>
      rw [last.2 parent]
      rfl
  | some ancestor =>
      cases above : builderAncestors hierarchy registry id with
      | nil =>
          rw [last.1 above] at parent
          cases parent
      | cons first rest => rfl

/-- Without ancestors that have builders there is nothing to override. -/
theorem requests_eq :
    requests hierarchy policy workshop key descriptor dataClass =
      (ownProperties dataClass).flatMap (propertyRequests policy descriptor.builder
        (workshop.model.typeRef descriptor.builder)) ++
      [.properties key (ownProperties dataClass)] ++
      ((workshop.registry.nearestAncestor? hierarchy descriptor.classId).map (fun parent =>
        Request.superclass descriptor.builder parent.builder)).toList ++
      [.method descriptor.builder (initMethod (workshop.model.typeRef descriptor.product)
        ((ownProperties dataClass).map (initStatementOf policy) ++
          [initEnd (builderAncestors hierarchy workshop.registry descriptor.classId)]))] ++
      (inheritedSetters policy (workshop.model.typeRef descriptor.builder)
        (builderAncestors hierarchy workshop.registry descriptor.classId)
        ((ownProperties dataClass).map (fun property =>
          (setterOf policy (workshop.model.typeRef descriptor.builder) property).signature))
        ((ownProperties dataClass).map Property.name)).map (Request.method descriptor.builder) ++
      (if dataClass.isAbstract then
        []
      else
        [.method descriptor.builder (buildMethod dataClass
            (workshop.model.typeRef descriptor.product)),
          .method descriptor.product (factoryMethod dataClass
            (workshop.model.typeRef descriptor.builder))]) := by
  unfold requests
  simp only [initReturn_eq]
  cases parent : workshop.registry.nearestAncestor? hierarchy descriptor.classId with
  | none =>
      rw [(builderAncestors_eq_nil_iff workshop.registry descriptor.classId).2 parent]
      rfl
  | some ancestor => rfl

theorem filterMap_propertyRequests (builder : TypeId) (builderType : TypeRef)
    (properties : List Property) (wanted : Request → Option β) :
    (properties.flatMap (propertyRequests policy builder builderType)).filterMap wanted =
      properties.flatMap (fun property =>
        (wanted (.field builder ((Handling.ofProperty policy property).field property))).toList ++
          (wanted (.method builder (setterOf policy builderType property))).toList) := by
  rw [List.filterMap_flatMap]
  congr 1
  funext property
  unfold propertyRequests
  cases one : wanted (.field builder ((Handling.ofProperty policy property).field property)) <;>
    cases two : wanted (.method builder (setterOf policy builderType property)) <;>
    simp [one, two]

theorem filterMap_methodRequests (builder : TypeId) (methods : List Method)
    (wanted : Request → Option β) :
    (methods.map (Request.method builder)).filterMap wanted =
      methods.filterMap (fun method => wanted (.method builder method)) := by
  rw [List.filterMap_map]
  rfl

/-- What is wanted of other requests than those for methods. -/
theorem filterMap_requests_of_no_method {wanted : Request → Option β}
    (noMethod : ∀ owner method, wanted (.method owner method) = none) :
    (requests hierarchy policy workshop key descriptor dataClass).filterMap wanted =
      (ownProperties dataClass).flatMap (fun property =>
        (wanted (.field descriptor.builder
          ((Handling.ofProperty policy property).field property))).toList) ++
      (wanted (.properties key (ownProperties dataClass))).toList ++
      ((workshop.registry.nearestAncestor? hierarchy descriptor.classId).bind (fun parent =>
        wanted (.superclass descriptor.builder parent.builder))).toList := by
  have single : ∀ request, [request].filterMap wanted = (wanted request).toList := by
    intro request
    cases answer : wanted request <;> simp [answer]
  rw [requests_eq]
  simp only [List.filterMap_append, filterMap_propertyRequests, filterMap_methodRequests, noMethod,
    single]
  cases workshop.registry.nearestAncestor? hierarchy descriptor.classId <;>
    cases dataClass.isAbstract <;>
    simp [noMethod, single]

theorem fieldsOn_requests (type : TypeId) :
    (requests hierarchy policy workshop key descriptor dataClass).filterMap
        (Request.fieldOn type) =
      if descriptor.builder = type then builderFields policy dataClass else [] := by
  rw [filterMap_requests_of_no_method fun _ _ => rfl]
  by_cases own : descriptor.builder = type <;>
    simp [own, Request.fieldOn, builderFields, ← List.map_eq_flatMap]

theorem superclassesOn_requests (type : TypeId) :
    (requests hierarchy policy workshop key descriptor dataClass).filterMap
        (Request.superclassOn type) =
      if descriptor.builder = type then
        ((workshop.registry.nearestAncestor? hierarchy descriptor.classId).map
          Descriptor.builder).toList
      else [] := by
  rw [filterMap_requests_of_no_method fun _ _ => rfl]
  cases workshop.registry.nearestAncestor? hierarchy descriptor.classId <;>
    by_cases own : descriptor.builder = type <;>
    simp [own, Request.superclassOn]

theorem noted_requests :
    (requests hierarchy policy workshop key descriptor dataClass).filterMap Request.noted =
      [key] := by
  rw [filterMap_requests_of_no_method fun _ _ => rfl]
  cases workshop.registry.nearestAncestor? hierarchy descriptor.classId <;> simp [Request.noted]

/-- On the type of the builder its methods are asked for, on that of the product the one that
makes a builder. -/
theorem methodsOn_requests (type : TypeId) :
    (requests hierarchy policy workshop key descriptor dataClass).filterMap
        (Request.methodOn type) =
      (if descriptor.builder = type then
        builderMethods policy (workshop.model.typeRef descriptor.product)
          (workshop.model.typeRef descriptor.builder) dataClass
          (builderAncestors hierarchy workshop.registry descriptor.classId)
      else []) ++
      (if descriptor.product = type then
        productMethods dataClass (workshop.model.typeRef descriptor.builder)
      else []) := by
  have wanted : ∀ owner method, (Request.method owner method).methodOn type =
      if owner = type then some method else none := fun _ _ => rfl
  rw [requests_eq]
  simp only [List.filterMap_append, filterMap_propertyRequests, filterMap_methodRequests, wanted]
  cases workshop.registry.nearestAncestor? hierarchy descriptor.classId <;>
    cases abstract' : dataClass.isAbstract <;>
    by_cases own : descriptor.builder = type <;>
    by_cases product : descriptor.product = type <;>
    simp [own, product, abstract', Request.methodOn, builderMethods, productMethods,
      List.filterMap_cons, ← List.map_eq_flatMap]

end

end BuilderSynthesis.Builder
