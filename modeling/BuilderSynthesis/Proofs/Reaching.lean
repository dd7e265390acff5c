import BuilderSynthesis.Proofs.Coherence
import BuilderSynthesis.Proofs.Phases
import BuilderSynthesis.Proofs.Staleness

/-!
Contract: what a run declares is asked for one request at a time.

Every phase writes to the model through requests about types that are there by then. So the model
that a run leaves is one that requests lead to from nothing, and whatever holds of all of those
holds after every run.

Owns: `Completes.reached`.
-/

namespace BuilderSynthesis.Code.Model

variable {model after : Model}

theorem step_of_answer (request : Request) (within : request.Within model)
    (granted : model.answer request = .ok after) : model.Step after := by
  refine ⟨request, within, ?_⟩
  unfold serve
  rw [granted]

theorem step_declareClass {qualifiedName : String} {header : Header} {id : TypeId}
    (granted : model.declareClass qualifiedName header = .ok (id, after)) : model.Step after :=
  step_of_answer (.topLevel qualifiedName header) trivial
    (answer_topLevel_eq_ok_iff.2 ⟨id, granted⟩)

theorem step_declareNested {outer id : TypeId} {header : Header}
    (granted : model.declareNested outer header = .ok (id, after)) : model.Step after := by
  obtain ⟨parent, found, -⟩ := declareNested_eq_ok_iff.1 granted
  exact step_of_answer (.nested outer header) (get?_eq_some_lt found)
    (answer_nested_eq_ok_iff.2 ⟨id, granted⟩)

theorem step_declareField {owner : TypeId} {field : Field}
    (granted : model.declareField owner field = .ok after) : model.Step after := by
  obtain ⟨declaration, found, -⟩ := declareField_eq_ok_iff.1 granted
  exact step_of_answer (.field owner field) (get?_eq_some_lt found) granted

theorem step_declareMethod {owner : TypeId} {method : Method}
    (granted : model.declareMethod owner method = .ok after) : model.Step after := by
  obtain ⟨declaration, found, -⟩ := declareMethod_eq_ok_iff.1 granted
  exact step_of_answer (.method owner method) (get?_eq_some_lt found) granted

theorem step_setSuperclass {id superclass : TypeId} (known : id < model.size)
    (above : superclass < model.size) : model.Step (model.setSuperclass id superclass) :=
  step_of_answer (.superclass id superclass) ⟨known, above⟩ rfl

theorem Reached.indexed (reached : model.Reached) : model.Indexed :=
  (consistent_empty.steps reached).1.indexed

theorem Reached.coherent (reached : model.Reached) : model.Coherent :=
  (coherent_empty.steps reached).1

/-- Of two types with one name the later one is nested. -/
theorem Reached.isNested (reached : model.Reached) {id later : TypeId} {one other : Declaration}
    (found : model.get? id = some one) (there : model.get? later = some other) (above : id < later)
    (same : one.qualifiedName = other.qualifiedName) : other.outer.isSome := by
  refine (consistent_empty.steps reached).1.isNested above there ?_
  simp only [names, List.getElem?_map]
  exact congrArg (Option.map Declaration.qualifiedName) found |>.trans (congrArg some same)

end BuilderSynthesis.Code.Model

namespace BuilderSynthesis.Run

open BuilderSynthesis.Builder (Descriptor Ready Request Workshop effect)
open BuilderSynthesis.Code (Model TypeId)
open BuilderSynthesis.Schema (ClassId DataClass Hierarchy)

/-! ### Declaring -/

theorem steps_declareNestedTypes (dataClass : DataClass) (outer : TypeId) (names : List String)
    (model : Model) : model.Steps (declareNestedTypes dataClass outer names model).1 := by
  induction names generalizing model with
  | nil => exact .refl
  | cons name rest inductionHypothesis =>
      unfold declareNestedTypes
      cases answer : model.declareNested outer { name := name, isStatic := true } with
      | error conflict => exact inductionHypothesis model
      | ok result => exact .head (Model.step_declareNested answer) (inductionHypothesis result.2)

theorem steps_declareFields {fields : List Schema.Field} {owner : TypeId} {model after : Model}
    (success : fields.foldlM (fun model field => model.declareField owner (declaredField field))
      model = .ok after) : model.Steps after := by
  induction fields generalizing model with
  | nil =>
      cases success
      exact .refl
  | cons field rest inductionHypothesis =>
      rw [List.foldlM_cons, Outcome.bind_eq_ok_iff] at success
      obtain ⟨middle, declared, others⟩ := success
      exact .head (Model.step_declareField declared) (inductionHypothesis others)

theorem steps_declareDataClass {dataClass : DataClass} {model : Model}
    {result : Model × List Diagnostic} (success : declareDataClass dataClass model = .ok result) :
    model.Steps result.1 := by
  unfold declareDataClass at success
  obtain ⟨⟨id, inserted⟩, declared, rest⟩ := Outcome.bind_eq_ok_iff.1 success
  obtain ⟨extended, added, same⟩ := Outcome.bind_eq_ok_iff.1 rest
  cases Except.ok.inj same
  exact .head (Model.step_declareClass declared)
    ((steps_declareFields added).trans (steps_declareNestedTypes dataClass id _ _))

theorem steps_declareClasses {classes : List DataClass} {model after : Model}
    {reports : List Diagnostic} (success : declareClasses classes model = .ok (after, reports)) :
    model.Steps after := by
  induction classes generalizing model reports with
  | nil =>
      cases success
      exact .refl
  | cons dataClass rest inductionHypothesis =>
      obtain ⟨middle, first, others, later⟩ := declareClasses_cons_eq_ok_iff.1 ⟨reports, success⟩
      exact (steps_declareDataClass first).trans (inductionHypothesis later)

theorem steps_linkSuperclass (hierarchy : Hierarchy) (dataClass : DataClass) {model : Model}
    (reached : model.Reached) : model.Steps (linkSuperclass hierarchy model dataClass) := by
  have known : ∀ {name id}, model.lookup name = some id → id < model.size := by
    intro name id found
    obtain ⟨declaration, there, -⟩ := Model.get?_of_lookup reached.indexed found
    exact Model.get?_eq_some_lt there
  unfold linkSuperclass
  split
  · exact .refl
  · split
    · rename_i found above
      exact .single (Model.step_setSuperclass (known found) (known above))
    · exact .refl

theorem steps_foldl_linkSuperclass (hierarchy : Hierarchy) (classes : List DataClass)
    {model : Model} (reached : model.Reached) :
    model.Steps (classes.foldl (linkSuperclass hierarchy) model) := by
  induction classes generalizing model with
  | nil => exact .refl
  | cons dataClass rest inductionHypothesis =>
      have first := steps_linkSuperclass hierarchy dataClass reached
      exact Relation.ReflTransGen.trans first (inductionHypothesis (reached.trans first))

theorem reached_declareHierarchy {hierarchy : Hierarchy} {declared : Model}
    {reports : List Diagnostic} (success : declareHierarchy hierarchy = .ok (declared, reports)) :
    declared.Reached := by
  obtain ⟨unlinked, declaring, rfl⟩ := declareHierarchy_eq_ok_iff.1 success
  have reached : unlinked.Reached := steps_declareClasses declaring
  exact reached.trans (steps_foldl_linkSuperclass hierarchy hierarchy.classes reached)

/-! ### Registering and generating -/

theorem steps_registerAll (builderName : String) (entries : List (ClassId × DataClass))
    (workshop : Workshop) :
    workshop.model.Steps (Builder.registerAll builderName entries workshop).1.model := by
  induction entries generalizing workshop with
  | nil => exact .refl
  | cons entry rest inductionHypothesis =>
      obtain ⟨id, dataClass⟩ := entry
      have first : workshop.model.Steps
          (Builder.registerClass builderName workshop id dataClass).1.model := by
        unfold Builder.registerClass
        split
        · exact .refl
        · split
          · rename_i granted
            exact .single (Model.step_declareNested granted)
          · exact .refl
      rw [Builder.registerAll]
      cases outcome : Builder.registerClass builderName workshop id dataClass with
      | mk middle failure =>
          rw [outcome] at first
          cases failure with
          | none => exact Relation.ReflTransGen.trans first (inductionHypothesis middle)
          | some failure => exact first

theorem steps_register {hierarchy : Hierarchy} {model : Model} {builderName : String}
    {registered : Workshop}
    (registering : Builder.register hierarchy model builderName = (registered, none)) :
    model.Steps registered.model := by
  have steps := steps_registerAll builderName hierarchy.entries ⟨model, {}⟩
  unfold Builder.register at registering
  rwa [registering] at steps

/-- Carrying out a request is to declare what it asks for. -/
theorem steps_effect {workshop : Workshop} {request : Request} (granted : request.Granted workshop)
    (within : ∀ type ∈ request.types, type < workshop.model.size) :
    workshop.model.Steps (effect workshop request).model := by
  cases request with
  | field owner field =>
      obtain ⟨declaration, found, new⟩ := granted
      exact .single (Model.step_declareField
        (Model.declareField_eq_ok_iff.2 ⟨declaration, found, new, rfl⟩))
  | method owner method =>
      obtain ⟨declaration, found, distinct⟩ := granted
      exact .single (Model.step_declareMethod
        (Model.declareMethod_eq_ok_iff.2 ⟨declaration, found, distinct, rfl⟩))
  | properties key properties =>
      have same := Builder.model_noting workshop key properties
      exact same ▸ .refl
  | superclass id superclass =>
      exact .single (Model.step_setSuperclass (within id (by simp [Request.types]))
        (within superclass (by simp [Request.types])))

theorem steps_foldl_effect {requests : List Request} {workshop : Workshop}
    (granted : Builder.AllGranted requests workshop)
    (within : ∀ request ∈ requests, ∀ type ∈ request.types, type < workshop.model.size) :
    workshop.model.Steps (requests.foldl effect workshop).model := by
  induction requests generalizing workshop with
  | nil => exact .refl
  | cons request rest inductionHypothesis =>
      rw [List.forall_mem_cons] at within
      have size : (effect workshop request).model.size = workshop.model.size := by
        rw [← Model.length_names, ← Model.length_names, Builder.names_effect]
      refine Relation.ReflTransGen.trans (steps_effect granted.1 within.1) ?_
      exact inductionHypothesis granted.2 (by rw [size]; exact within.2)

/-- What is asked of a registry is about types that are there. -/
theorem types_of_mem_allRequests {hierarchy : Hierarchy} {workshop : Workshop}
    (ready : Ready hierarchy workshop) {policy : Schema.Policy} {request : Request}
    (member : request ∈ Builder.allRequests hierarchy policy workshop) {type : TypeId}
    (about : type ∈ request.types) : type < workshop.model.size := by
  have builder : ∀ entry ∈ workshop.registry.descriptors,
      entry.2.builder < workshop.model.size := by
    intro entry listed
    obtain ⟨_, _, -, -, found, -⟩ := ready.builder entry listed
    exact Model.get?_eq_some_lt found
  obtain ⟨entry, listed, asked⟩ := List.mem_flatMap.1 member
  unfold Builder.requestsOf at asked
  split at asked
  · cases asked
  · rcases Builder.types_of_mem_requests asked about with rfl | rfl | ⟨other, known, rfl⟩
    · exact builder entry listed
    · obtain ⟨_, found, -⟩ := ready.product entry listed
      exact Model.get?_eq_some_lt found
    · exact builder other known

/-- What a run leaves is what requests lead to. -/
theorem Completes.reached {hierarchy : Hierarchy} {config : Config} {workshop : Workshop}
    (completes : Completes hierarchy config workshop) : workshop.model.Reached := by
  obtain ⟨declared, reports, registered, added, declaring, registering, -, ready, generating⟩ :=
    completes.registered
  obtain ⟨granted, rfl⟩ := Builder.generate_eq_iff.1 generating
  have reached := Relation.ReflTransGen.trans (reached_declareHierarchy declaring)
    (steps_register registering)
  exact reached.trans
    (steps_foldl_effect granted fun _ member _ => types_of_mem_allRequests ready member)

end BuilderSynthesis.Run
