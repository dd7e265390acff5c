import BuilderSynthesis.Builder.Generation
import BuilderSynthesis.Proofs.Declaration
import BuilderSynthesis.Proofs.Naming

/-!
Contract: what carrying out requests does to a workshop.

Owns:
- `Request.Granted` and `effect`, when one request is carried out and what it leaves;
- `carryOutAll_eq_iff`, the same for a list of requests;
- `get?_foldl_effect`, what all requests together make of one type;
- `allGranted_of_admissible`, a condition on the requests as a whole under which none of
  them is refused.

Does not own: which requests there are.
-/

namespace BuilderSynthesis.Builder

open BuilderSynthesis.Code (Declaration Method Model TypeId)

/-! ### What requests ask for -/

namespace Request

def owner? : Request → Option TypeId
  | .field owner _ | .method owner _ => some owner
  | _ => none

def fieldOn (type : TypeId) : Request → Option Code.Field
  | .field owner declared => if owner = type then some declared else none
  | _ => none

def methodOn (type : TypeId) : Request → Option Method
  | .method owner declared => if owner = type then some declared else none
  | _ => none

def superclassOn (type : TypeId) : Request → Option TypeId
  | .superclass id parent => if id = type then some parent else none
  | _ => none

def noted : Request → Option String
  | .properties key _ => some key
  | _ => none

end Request

def extended (type : TypeId) (requests : List Request) (declaration : Declaration) :
    Declaration :=
  { declaration with
    fields := declaration.fields ++ requests.filterMap (Request.fieldOn type)
    methods := declaration.methods ++ requests.filterMap (Request.methodOn type)
    superclass := (requests.filterMap (Request.superclassOn type)).getLast?.or
      declaration.superclass }

theorem extended_nil (type : TypeId) (declaration : Declaration) :
    extended type [] declaration = declaration := by
  simp [extended]

theorem extended_append (type : TypeId) (first second : List Request)
    (declaration : Declaration) :
    extended type (first ++ second) declaration =
      extended type second (extended type first declaration) := by
  simp [extended, List.filterMap_append, List.getLast?_append, Option.or_assoc]

/-! ### One request -/

def Descriptor.blank (descriptor : Descriptor) : Descriptor :=
  { descriptor with properties := none }

/-- The builders of a registry, without the properties that are noted of them. -/
def Registry.shape (registry : Registry) : List (String × Descriptor) :=
  registry.descriptors.map (fun entry => (entry.1, entry.2.blank))

theorem Registry.value?_shape (registry : Registry) (key : String) :
    Keyed.value? registry.shape key = (registry.get? key).map Descriptor.blank := by
  unfold Registry.shape Registry.get?
  induction registry.descriptors with
  | nil => rfl
  | cons entry rest inductionHypothesis =>
      by_cases here : entry.1 = key
      · simp [Keyed.value?, here]
      · simpa [Keyed.value?, here] using inductionHypothesis

theorem Registry.shape_insert {registry : Registry} {key : String} {descriptor other : Descriptor}
    (found : registry.get? key = some descriptor) (same : other.blank = descriptor.blank) :
    (registry.insert key other).shape = registry.shape := by
  obtain ⟨descriptors, skipped⟩ := registry
  unfold Registry.get? at found
  unfold Registry.shape Registry.insert
  induction descriptors with
  | nil => cases found
  | cons entry rest inductionHypothesis =>
      by_cases here : entry.1 = key
      · simp only [Keyed.value?, here, if_true, Option.some.injEq] at found
        simp [Keyed.put, here, same, found]
      · simp only [Keyed.value?, here, if_false] at found
        simpa [Keyed.put, here] using inductionHypothesis found

def Request.Granted (workshop : Workshop) : Request → Prop
  | .field owner declared => ∃ declaration, workshop.model.get? owner = some declaration ∧
      declared.name ∉ declaration.fields.map Code.Field.name
  | .method owner declared => ∃ declaration, workshop.model.get? owner = some declaration ∧
      ∀ other ∈ declaration.methods, other.sameSignature declared = false
  | .properties key _ => ∀ descriptor, workshop.registry.get? key = some descriptor →
      descriptor.properties = none
  | .superclass _ _ => True

def noting (workshop : Workshop) (key : String) (properties : List Property) : Workshop :=
  match workshop.registry.get? key with
  | none => workshop
  | some descriptor =>
      { workshop with
        registry := workshop.registry.insert key { descriptor with properties := some properties } }

theorem model_noting (workshop : Workshop) (key : String) (properties : List Property) :
    (noting workshop key properties).model = workshop.model := by
  unfold noting
  cases workshop.registry.get? key <;> rfl

theorem shape_noting (workshop : Workshop) (key : String) (properties : List Property) :
    (noting workshop key properties).registry.shape = workshop.registry.shape := by
  unfold noting
  cases found : workshop.registry.get? key with
  | none => rfl
  | some descriptor => exact Registry.shape_insert found rfl

theorem get?_noting_of_ne (workshop : Workshop) (key : String) (properties : List Property)
    {other : String} (different : other ≠ key) :
    (noting workshop key properties).registry.get? other = workshop.registry.get? other := by
  unfold noting
  cases workshop.registry.get? key with
  | none => rfl
  | some descriptor => rw [Registry.get?_insert, if_neg different]

def effect (workshop : Workshop) : Request → Workshop
  | .field owner field =>
      { workshop with model := workshop.model.update owner (Declaration.addField · field) }
  | .method owner method =>
      { workshop with model := workshop.model.update owner (Declaration.addMethod · method) }
  | .properties key properties => noting workshop key properties
  | .superclass id superclass =>
      { workshop with model := workshop.model.setSuperclass id superclass }

theorem settle_eq_iff {className : String} {workshop after : Workshop}
    {outcome : Except Code.Conflict Model} :
    settle className workshop outcome = (after, none) ↔
      ∃ model, outcome = .ok model ∧ after = { workshop with model := model } := by
  cases outcome with
  | error conflict => simp [settle]
  | ok model => simp [settle, eq_comm]

theorem noteProperties_eq_iff {key : String} {properties : List Property}
    {workshop after : Workshop} :
    noteProperties key properties workshop = (after, none) ↔
      (Request.properties key properties).Granted workshop ∧
        after = effect workshop (.properties key properties) := by
  change _ ↔ (∀ descriptor, workshop.registry.get? key = some descriptor →
    descriptor.properties = none) ∧ after = noting workshop key properties
  unfold noteProperties noting
  cases workshop.registry.get? key with
  | none => simp [eq_comm]
  | some descriptor => cases known : descriptor.properties <;> simp [known, eq_comm]

theorem carryOut_eq_iff {className : String} {workshop after : Workshop} {request : Request} :
    request.carryOut className workshop = (after, none) ↔
      request.Granted workshop ∧ after = effect workshop request := by
  cases request with
  | field owner field =>
      simp only [Request.carryOut, settle_eq_iff, Model.declareField_eq_ok_iff, Request.Granted,
        effect]
      constructor
      · rintro ⟨model, ⟨declaration, found, new, rfl⟩, rfl⟩
        exact ⟨⟨declaration, found, new⟩, rfl⟩
      · rintro ⟨⟨declaration, found, new⟩, rfl⟩
        exact ⟨_, ⟨declaration, found, new, rfl⟩, rfl⟩
  | method owner method =>
      simp only [Request.carryOut, settle_eq_iff, Model.declareMethod_eq_ok_iff, Request.Granted,
        effect]
      constructor
      · rintro ⟨model, ⟨declaration, found, distinct, rfl⟩, rfl⟩
        exact ⟨⟨declaration, found, distinct⟩, rfl⟩
      · rintro ⟨⟨declaration, found, distinct⟩, rfl⟩
        exact ⟨_, ⟨declaration, found, distinct, rfl⟩, rfl⟩
  | properties key properties => exact noteProperties_eq_iff
  | superclass id superclass =>
      simp [Request.carryOut, Request.Granted, effect, eq_comm]

section Effect

variable (workshop : Workshop) (request : Request)

theorem names_effect : (effect workshop request).model.names = workshop.model.names := by
  cases request with
  | field owner field => exact Model.names_update _ _ (fun _ => rfl)
  | method owner method => exact Model.names_update _ _ (fun _ => rfl)
  | properties key properties =>
      exact congrArg Model.names (model_noting workshop key properties)
  | superclass id superclass => exact Model.names_update _ _ (fun _ => rfl)

theorem indexed_effect (indexed : workshop.model.Indexed) :
    (effect workshop request).model.Indexed := by
  cases request with
  | field owner field => exact Model.indexed_update indexed _ (fun _ => rfl)
  | method owner method => exact Model.indexed_update indexed _ (fun _ => rfl)
  | properties key properties =>
      change (noting workshop key properties).model.Indexed
      rwa [model_noting]
  | superclass id superclass => exact Model.indexed_update indexed _ (fun _ => rfl)

theorem shape_effect : (effect workshop request).registry.shape = workshop.registry.shape := by
  cases request with
  | field owner field => rfl
  | method owner method => rfl
  | properties key properties => exact shape_noting workshop key properties
  | superclass id superclass => rfl

/-- A request that is not about a type leaves it as it is. -/
theorem extended_of_other {type : TypeId} {request : Request}
    (field : request.fieldOn type = none) (method : request.methodOn type = none)
    (superclass : request.superclassOn type = none) :
    extended type [request] = id := by
  funext declaration
  simp [extended, field, method, superclass]

/-- A request extends one type by what it asks for and leaves the others. -/
theorem get?_effect (type : TypeId) :
    (effect workshop request).model.get? type =
      (workshop.model.get? type).map (extended type [request]) := by
  cases request with
  | field owner declared =>
      unfold effect
      rw [Model.get?_update]
      by_cases same : type = owner
      · rw [if_pos same]
        congr 1
        funext declaration
        simp [extended, Declaration.addField, List.filterMap_cons, Request.fieldOn,
          Request.methodOn, Request.superclassOn, same]
      · have other : (Request.field owner declared).fieldOn type = none := if_neg (Ne.symm same)
        rw [if_neg same, extended_of_other other rfl rfl, Option.map_id, id]
  | method owner declared =>
      unfold effect
      rw [Model.get?_update]
      by_cases same : type = owner
      · rw [if_pos same]
        congr 1
        funext declaration
        simp [extended, Declaration.addMethod, List.filterMap_cons, Request.fieldOn,
          Request.methodOn, Request.superclassOn, same]
      · have other : (Request.method owner declared).methodOn type = none := if_neg (Ne.symm same)
        rw [if_neg same, extended_of_other rfl other rfl, Option.map_id, id]
  | properties key properties =>
      change (noting workshop key properties).model.get? type = _
      rw [model_noting, extended_of_other rfl rfl rfl, Option.map_id, id]
  | superclass position parent =>
      unfold effect Model.setSuperclass
      rw [Model.get?_update]
      by_cases same : type = position
      · rw [if_pos same]
        congr 1
        funext declaration
        simp [extended, List.filterMap_cons, Request.fieldOn, Request.methodOn,
          Request.superclassOn, same]
      · have other : (Request.superclass position parent).superclassOn type = none :=
          if_neg (Ne.symm same)
        rw [if_neg same, extended_of_other rfl rfl other, Option.map_id, id]

end Effect

/-! ### All requests -/

/-- Every request is granted when its turn comes. -/
def AllGranted : List Request → Workshop → Prop
  | [], _ => True
  | request :: rest, workshop =>
      request.Granted workshop ∧ AllGranted rest (effect workshop request)

theorem carryOutAll_eq_iff {className : String} {requests : List Request}
    {workshop after : Workshop} :
    carryOutAll className requests workshop = (after, none) ↔
      AllGranted requests workshop ∧ after = requests.foldl effect workshop := by
  induction requests generalizing workshop with
  | nil => simp [carryOutAll, AllGranted, eq_comm]
  | cons request rest inductionHypothesis =>
      unfold carryOutAll AllGranted
      rw [List.foldl_cons]
      cases step : request.carryOut className workshop with
      | mk middle failure =>
          cases failure with
          | none =>
              obtain ⟨granted, rfl⟩ := carryOut_eq_iff.1 step
              simp only [granted, true_and]
              exact inductionHypothesis
          | some failure =>
              simp only [Prod.mk.injEq, reduceCtorEq, and_false, false_iff, not_and]
              intro granted
              rw [carryOut_eq_iff.2 ⟨granted.1, rfl⟩] at step
              cases step

theorem allGranted_append {first second : List Request} {workshop : Workshop} :
    AllGranted (first ++ second) workshop ↔
      AllGranted first workshop ∧ AllGranted second (first.foldl effect workshop) := by
  induction first generalizing workshop with
  | nil => simp [AllGranted]
  | cons request rest inductionHypothesis =>
      rw [List.cons_append, AllGranted, AllGranted, List.foldl_cons, inductionHypothesis, and_assoc]

theorem names_foldl_effect (requests : List Request) (workshop : Workshop) :
    (requests.foldl effect workshop).model.names = workshop.model.names := by
  induction requests generalizing workshop with
  | nil => rfl
  | cons request rest inductionHypothesis =>
      rw [List.foldl_cons, inductionHypothesis, names_effect]

theorem indexed_foldl_effect (requests : List Request) {workshop : Workshop}
    (indexed : workshop.model.Indexed) : (requests.foldl effect workshop).model.Indexed := by
  induction requests generalizing workshop with
  | nil => exact indexed
  | cons request rest inductionHypothesis =>
      exact inductionHypothesis (indexed_effect workshop request indexed)

theorem shape_foldl_effect (requests : List Request) (workshop : Workshop) :
    (requests.foldl effect workshop).registry.shape = workshop.registry.shape := by
  induction requests generalizing workshop with
  | nil => rfl
  | cons request rest inductionHypothesis =>
      rw [List.foldl_cons, inductionHypothesis, shape_effect]

/-- Requests extend each type by what they ask for. -/
theorem get?_foldl_effect (requests : List Request) (workshop : Workshop) (type : TypeId) :
    (requests.foldl effect workshop).model.get? type =
      (workshop.model.get? type).map (extended type requests) := by
  induction requests generalizing workshop with
  | nil =>
      have same : extended type [] = id := funext (extended_nil type)
      rw [List.foldl_nil, same, Option.map_id, id]
  | cons request rest inductionHypothesis =>
      rw [List.foldl_cons, inductionHypothesis, get?_effect, Option.map_map]
      congr 1
      funext declaration
      exact (extended_append type [request] rest declaration).symm

/-- No two methods of a list have one signature. -/
def DistinctSignatures (methods : List Method) : Prop :=
  methods.Pairwise (fun earlier later => earlier.sameSignature later = false)

/-- Methods that are all granted have different signatures. -/
theorem distinctSignatures_of_allGranted {requests : List Request} {workshop : Workshop}
    (granted : AllGranted requests workshop) {type : TypeId} {declaration : Declaration}
    (found : workshop.model.get? type = some declaration)
    (distinct : DistinctSignatures declaration.methods) :
    DistinctSignatures (extended type requests declaration).methods := by
  induction requests generalizing workshop declaration with
  | nil => rwa [extended_nil]
  | cons request rest inductionHypothesis =>
      have next : (effect workshop request).model.get? type =
          some (extended type [request] declaration) := by
        rw [get?_effect, found, Option.map_some]
      have step : DistinctSignatures (extended type [request] declaration).methods := by
        cases asked : request.methodOn type with
        | none => simpa [extended, asked] using distinct
        | some method =>
            have apart : ∀ other ∈ declaration.methods, other.sameSignature method = false := by
              cases request with
              | method owner declared =>
                  simp only [Request.methodOn, Option.ite_none_right_eq_some,
                    Option.some.injEq] at asked
                  obtain ⟨rfl, rfl⟩ := asked
                  obtain ⟨present, there, different⟩ := granted.1
                  rw [found, Option.some.injEq] at there
                  exact there ▸ different
              | field owner declared => cases asked
              | properties key properties => cases asked
              | superclass id superclass => cases asked
            simp only [extended, List.filterMap_cons, asked, List.filterMap_nil]
            refine List.pairwise_append.2 ⟨distinct, List.pairwise_singleton _ _, ?_⟩
            intro other member later same
            rw [List.mem_singleton.1 same]
            exact apart other member
      have all := inductionHypothesis granted.2 next step
      rwa [← extended_append] at all

/-- Requests of which, taken together, none is to be refused. -/
structure Admissible (requests : List Request) (workshop : Workshop) : Prop where
  owners : ∀ request ∈ requests, ∀ owner, request.owner? = some owner →
    owner < workshop.model.size
  fields : ∀ type declaration, workshop.model.get? type = some declaration →
    ((extended type requests declaration).fields.map Code.Field.name).Nodup
  methods : ∀ type declaration, workshop.model.get? type = some declaration →
    DistinctSignatures (extended type requests declaration).methods
  once : (requests.filterMap Request.noted).Nodup
  unnoted : ∀ key ∈ requests.filterMap Request.noted, ∀ descriptor,
    workshop.registry.get? key = some descriptor → descriptor.properties = none

theorem Admissible.granted {request : Request} {rest : List Request} {workshop : Workshop}
    (admissible : Admissible (request :: rest) workshop) : request.Granted workshop := by
  have exists' : ∀ owner, request.owner? = some owner →
      ∃ declaration, workshop.model.get? owner = some declaration := by
    intro owner asked
    have known := admissible.owners request List.mem_cons_self owner asked
    exact ⟨_, List.getElem?_eq_getElem known⟩
  cases request with
  | field owner field =>
      obtain ⟨declaration, found⟩ := exists' owner rfl
      refine ⟨declaration, found, fun used => ?_⟩
      have distinct := admissible.fields owner declaration found
      simp only [extended, List.filterMap_cons, Request.fieldOn, if_true, List.map_append,
        List.map_cons] at distinct
      exact (List.nodup_append.1 distinct).2.2 _ used _ List.mem_cons_self rfl
  | method owner method =>
      obtain ⟨declaration, found⟩ := exists' owner rfl
      refine ⟨declaration, found, fun other member => ?_⟩
      have distinct := admissible.methods owner declaration found
      simp only [extended, List.filterMap_cons, Request.methodOn, if_true] at distinct
      exact (List.pairwise_append.1 distinct).2.2 other member method List.mem_cons_self
  | properties key properties =>
      intro descriptor found
      exact admissible.unnoted key (by simp [Request.noted]) descriptor found
  | superclass id superclass => trivial

theorem Admissible.rest {request : Request} {rest : List Request} {workshop : Workshop}
    (admissible : Admissible (request :: rest) workshop) :
    Admissible rest (effect workshop request) := by
  have before : ∀ type declaration, (effect workshop request).model.get? type = some declaration →
      ∃ present, workshop.model.get? type = some present ∧
        extended type (request :: rest) present = extended type rest declaration := by
    intro type declaration found
    rw [get?_effect] at found
    obtain ⟨present, there, rfl⟩ := Option.map_eq_some_iff.1 found
    exact ⟨present, there, extended_append type [request] rest present⟩
  constructor
  · intro other member owner asked
    have known := admissible.owners other (List.mem_cons_of_mem request member) owner asked
    rwa [← Model.length_names, names_effect, Model.length_names]
  · intro type declaration found
    obtain ⟨present, there, same⟩ := before type declaration found
    exact same ▸ admissible.fields type present there
  · intro type declaration found
    obtain ⟨present, there, same⟩ := before type declaration found
    exact same ▸ admissible.methods type present there
  · have once := admissible.once
    rw [List.filterMap_cons] at once
    split at once
    · exact once
    · exact (List.nodup_cons.1 once).2
  · intro key member descriptor found
    have listed : key ∈ (request :: rest).filterMap Request.noted := by
      rw [List.mem_filterMap] at member ⊢
      obtain ⟨other, later, same⟩ := member
      exact ⟨other, List.mem_cons_of_mem request later, same⟩
    cases request with
    | field owner field => exact admissible.unnoted key listed descriptor found
    | method owner method => exact admissible.unnoted key listed descriptor found
    | superclass id superclass => exact admissible.unnoted key listed descriptor found
    | properties other properties =>
        have different : key ≠ other := by
          rintro rfl
          have once := admissible.once
          rw [List.filterMap_cons] at once
          exact (List.nodup_cons.1 once).1 member
        have kept : (noting workshop other properties).registry.get? key = some descriptor := found
        rw [get?_noting_of_ne workshop other properties different] at kept
        exact admissible.unnoted key listed descriptor kept

/-- Of requests that are admissible together every one is granted. -/
theorem allGranted_of_admissible {requests : List Request} {workshop : Workshop}
    (admissible : Admissible requests workshop) : AllGranted requests workshop := by
  induction requests generalizing workshop with
  | nil => trivial
  | cons request rest inductionHypothesis =>
      exact ⟨admissible.granted, inductionHypothesis admissible.rest⟩

end BuilderSynthesis.Builder
