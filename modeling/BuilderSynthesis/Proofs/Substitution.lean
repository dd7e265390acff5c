import BuilderSynthesis.Proofs.RoundTrip

/-!
Contract: a builder can stand for the builders of the classes above its own.

A caller that only knows the builder of a class above calls its setters and builds, and before
each call sees what it has as a builder of that class. What it gets is what a caller gets that
knows the builder as it is: the same product in the same store.

Owns: `buildSeenAs`, `Substitutable` and `builders_substitutable`.
-/

namespace BuilderSynthesis

def Eval.Typed.seenAs (value : Typed) (className : String) : Typed :=
  { value with type := some (.named className) }

namespace Run

open Builder (buildName builderTypeName factoryName setterName)
open Code (Model TypeRef)
open Eval (Exec Object Store Typed Value Yields accepts)
open Schema (ClassId DataClass Field Hierarchy)

/-! ### Calls through a type -/

/-- A call of the setter of a property. -/
structure PropertyCall where
  field : Field
  arguments : List Typed

/-- The arguments are one that can stand for the property, or elements for an array. What is
passed for a list is one, or null. -/
def PropertyCall.WellTyped (model : Model) (call : PropertyCall) : Prop :=
  (∃ argument, call.arguments = [argument] ∧
    accepts model (.ofField call.field.element call.field.cardinality) argument.type = true ∧
    (call.field.cardinality = .list →
      argument.value = .null ∨ ∃ place isReadOnly, argument.value = .list place isReadOnly)) ∨
  (call.field.cardinality = .array ∧ ∀ argument ∈ call.arguments,
    accepts model (.ofElement call.field.element) argument.type = true)

/-- A builder of a class is made, and before each call of a setter and before `build` the builder
at hand is seen as one of some type. -/
def buildSeenAs (model : Model) (className view : String) (calls : List PropertyCall) :
    Exec Typed := do
  let made ← Eval.callStatic model className factoryName []
  let filled ← calls.foldlM (fun builder call =>
    Eval.call model (builder.seenAs view) (setterName call.field.name) call.arguments) made
  Eval.call model (filled.seenAs view) buildName []

namespace Synthesis

variable {synthesis : Synthesis}

/-! ### One call -/

theorem exists_intake_of_list {policy : Schema.Policy} {field : Field} {value : Value}
    (list : field.cardinality = .list →
      value = .null ∨ ∃ place isReadOnly, value = .list place isReadOnly) (store : Store) :
    ∃ taken after, intake policy field value store = some (taken, after) ∧
      after.objects = store.objects ∧ Handable policy field taken := by
  unfold intake
  by_cases copies : policy = .defensive ∧ field.cardinality = .list
  · rw [if_pos copies]
    rcases list copies.2 with rfl | ⟨place, isReadOnly, rfl⟩
    · exact ⟨_, _, rfl, rfl, fun _ _ => .inl rfl⟩
    · exact ⟨_, _, rfl, rfl, fun _ _ => .inr ⟨_, _, rfl⟩⟩
  · rw [if_neg copies]
    exact ⟨_, _, rfl, rfl, fun policy list => absurd ⟨policy, list⟩ copies⟩

/-- Well-typed arguments are never refused. -/
theorem exists_setting_of_wellTyped {call : PropertyCall}
    (wellTyped : call.WellTyped synthesis.model) (store : Store) :
    ∃ value after, setting synthesis call.field call.arguments store = some (value, after) ∧
      after.objects = store.objects ∧ Handable synthesis.config.policy call.field value := by
  unfold setting
  cases whole : whole? synthesis call.field call.arguments with
  | some argument =>
      obtain ⟨same, accepted⟩ := whole?_eq_some_iff.1 whole
      apply exists_intake_of_list
      intro list
      rcases wellTyped with ⟨other, alone, -, shape⟩ | ⟨isArray, -⟩
      · rw [same, List.cons.injEq] at alone
        rw [alone.1]
        exact shape list
      · rw [isArray] at list
        cases list
  | none =>
      rcases wellTyped with ⟨argument, alone, accepted, -⟩ | ⟨isArray, fit⟩
      · rw [whole?_eq_some_iff.2 ⟨alone, accepted⟩] at whole
        cases whole
      · refine ⟨_, _, if_pos ⟨isArray, fit⟩, rfl, fun _ list => ?_⟩
        rw [isArray] at list
        cases list

/-- A builder that is in a store and holds values for a chain. -/
structure Serves (synthesis : Synthesis) (id : ClassId) (object : Object) (store : Store)
    (held : ClassId → Field → Value) : Prop where
  known : object.place < store.objects.length
  holds : Holds synthesis store object (synthesis.chain id) held

section

variable {id : ClassId} (bearing : synthesis.bears id = true) {object : Object}
  (own : object.type = synthesis.builder id) {store : Store} {held : ClassId → Field → Value}

include bearing own

/-- One call of a setter does the same through every type that has the property. -/
theorem Serves.call (serves : Serves synthesis id object store held) {call : PropertyCall}
    {holder : ClassId} (above : holder ∈ synthesis.chain id)
    (declares : synthesis.Declares holder call.field)
    (wellTyped : call.WellTyped synthesis.model) :
    ∃ after heldAfter, Serves synthesis id object after heldAfter ∧
      ∀ view ∈ synthesis.chain id, (∃ other ∈ synthesis.chain view,
          synthesis.Declares other call.field) →
        Yields (Eval.call synthesis.model
            ⟨.object object, some (.named (synthesis.builderName view))⟩
            (setterName call.field.name) call.arguments) store
          ⟨.object object, some (.named (synthesis.builderName id))⟩ after := by
  obtain ⟨value, middle, taken, objects, handable⟩ := exists_setting_of_wellTyped wellTyped store
  have room : object.place < middle.objects.length := by
    rw [objects]
    exact serves.known
  refine ⟨middle.write object (synthesis.builder holder, call.field.name) value,
    heldAfter held call.field value, ⟨?_, ?_⟩, ?_⟩
  · rw [Store.length_objects_write]
    exact room
  · exact serves.holds.set bearing objects room above declares handable
  · rintro view member ⟨other, there, declaresToo⟩
    obtain ⟨rfl, -⟩ := property_unique_of_name (known_of_bears bearing)
      (mem_lineage_of_mem_chain above) declares
      (mem_lineage_of_mem_chain (chain_subset bearing member there)) declaresToo rfl
    exact yields_setter bearing member there declares own taken

/-- So do any number of calls of setters. -/
theorem Serves.foldlM (serves : Serves synthesis id object store held)
    {calls : List PropertyCall}
    (wellTyped : ∀ call ∈ calls, call.WellTyped synthesis.model)
    (declared : ∀ call ∈ calls, ∃ holder ∈ synthesis.chain id,
      synthesis.Declares holder call.field) :
    ∃ after heldAfter, Serves synthesis id object after heldAfter ∧
      ∀ view ∈ synthesis.chain id, (∀ call ∈ calls, ∃ holder ∈ synthesis.chain view,
          synthesis.Declares holder call.field) →
        Yields (calls.foldlM (fun builder call => Eval.call synthesis.model
            (builder.seenAs (synthesis.builderName view)) (setterName call.field.name)
            call.arguments) ⟨.object object, some (.named (synthesis.builderName id))⟩) store
          ⟨.object object, some (.named (synthesis.builderName id))⟩ after := by
  induction calls generalizing store held with
  | nil => exact ⟨store, held, serves, fun view _ _ => Eval.yields_pure _ store⟩
  | cons call rest inductionHypothesis =>
      rw [List.forall_mem_cons] at wellTyped declared
      obtain ⟨holder, above, declares⟩ := declared.1
      obtain ⟨middle, heldMiddle, later, called⟩ :=
        serves.call bearing own above declares wellTyped.1
      obtain ⟨after, heldLast, last, continued⟩ :=
        inductionHypothesis later wellTyped.2 declared.2
      refine ⟨after, heldLast, last, fun view member seen => ?_⟩
      rw [List.forall_mem_cons] at seen
      rw [List.foldlM_cons]
      exact (called view member seen.1).bind (continued view member seen.2)

end

/-! ### Whole programs -/

/-- What is built does not depend on the type through which the calls are made, as long as the
class of that type makes products itself. -/
theorem yields_buildSeenAs {id : ClassId} (bearing : synthesis.bears id = true)
    (isConcrete : (synthesis.classAt id).isAbstract = false)
    (enough : (synthesis.chain id).length ≤ 255) {before : Store} {calls : List PropertyCall}
    (wellTyped : ∀ call ∈ calls, call.WellTyped synthesis.model)
    (declared : ∀ call ∈ calls, ∃ holder ∈ synthesis.chain id,
      synthesis.Declares holder call.field) :
    ∃ product after, product.type = synthesis.product id ∧
      ∀ view ∈ synthesis.chain id, (synthesis.classAt view).isAbstract = false →
        (∀ call ∈ calls, ∃ holder ∈ synthesis.chain view,
          synthesis.Declares holder call.field) →
        Yields (buildSeenAs synthesis.model (synthesis.productName id)
            (synthesis.builderName view) calls) before
          ⟨.object product, some (.named (synthesis.productName id))⟩ after := by
  have first : Serves synthesis id ⟨before.objects.length, synthesis.builder id⟩ _ _ :=
    ⟨(follows_new bearing before).known, (follows_new bearing before).holds⟩
  obtain ⟨filled, held, serves, called⟩ := first.foldlM bearing rfl wellTyped declared
  refine ⟨synthesis.productOf id filled, synthesis.made held id filled, rfl, ?_⟩
  intro view member concrete seen
  have built := yields_build bearing member rfl (maker?_eq_self isConcrete)
    (maker?_eq_self concrete) enough serves.known serves.holds
  exact (yields_factory bearing isConcrete before).bind ((called view member seen).bind built)

end Synthesis

/-- Calls on properties of a class above, each made on the builder at hand seen as one of that
class, leave the product and the store that they leave on the builder as it is. -/
def Substitutable (hierarchy : Hierarchy) (registry : Builder.Registry) (builderName : String)
    (model : Model) (dataClass : DataClass) (above : ClassId) (aboveClass : DataClass) : Prop :=
  ∀ before calls, (∀ call ∈ calls, HasProperty hierarchy registry above call.field ∧
      call.WellTyped model) →
    ∃ product after, model.lookup dataClass.name = some product.type ∧
      Yields (buildSeenAs model dataClass.name (builderTypeName builderName aboveClass.name) calls)
        before ⟨.object product, some (.named dataClass.name)⟩ after ∧
      Yields (buildSeenAs model dataClass.name (builderTypeName builderName dataClass.name) calls)
        before ⟨.object product, some (.named dataClass.name)⟩ after

/-- In a program of a manifest the builder of a concrete class can stand for those of its concrete
ancestors, as long as the machine can have a call pending for each builder of its chain. -/
theorem builders_substitutable {file source : String} {manifest : Manifest}
    (accepted : Manifest.read file source = .ok manifest) (disjoint : manifest.NameDisjoint)
    (policy : Schema.Policy) :
    ∃ context hierarchy registry,
      (({} : Pipeline).run (manifest.withPolicy policy)).result = .ok context ∧
      (manifest.withPolicy policy).lower = .ok hierarchy ∧ context.registry = some registry ∧
      ∀ id dataClass above aboveClass, hierarchy.get? id = some dataClass →
        hierarchy.get? above = some aboveClass → hierarchy.IsAncestor above id →
        dataClass.isAbstract = false → aboveClass.isAbstract = false →
        (registry.forClass? hierarchy id).isSome → (registry.forClass? hierarchy above).isSome →
        ((id :: hierarchy.ancestors id).filter (fun ancestor =>
          (registry.forClass? hierarchy ancestor).isSome)).length ≤ 255 →
        Substitutable hierarchy registry manifest.settings.builderName context.model dataClass
          above aboveClass := by
  have known := Manifest.accepted_of_validate (Manifest.validate_of_read accepted)
  obtain ⟨context, synthesis, provides⟩ := exists_synthesis (known.withPolicy policy) disjoint
  obtain ⟨registry, registered, same⟩ := provides.registry
  refine ⟨context, synthesis.hierarchy, registry, provides.result, provides.lowered, registered, ?_⟩
  intro id dataClass above aboveClass found foundAbove isAbove isConcrete concrete builder
    builderAbove enough before calls fits
  have bearing : synthesis.bears id = true := by
    rw [same]
    exact builder
  have bearingAbove : synthesis.bears above = true := by
    rw [same]
    exact builderAbove
  have member : above ∈ synthesis.chain id := by
    rw [Synthesis.chain_eq_filter bearing, List.mem_filter, Synthesis.mem_lineage_iff]
    exact ⟨.inr isAbove, bearingAbove⟩
  have short : (synthesis.chain id).length ≤ 255 := by
    rw [Synthesis.chain_eq_filter bearing, same]
    exact enough
  have declared : ∀ call ∈ calls, ∃ holder ∈ synthesis.chain above,
      synthesis.Declares holder call.field :=
    fun call listed =>
      Synthesis.exists_holder_of_hasProperty same bearingAbove (fits call listed).1
  have declaredBelow : ∀ call ∈ calls, ∃ holder ∈ synthesis.chain id,
      synthesis.Declares holder call.field := by
    intro call listed
    obtain ⟨holder, there, declares⟩ := declared call listed
    exact ⟨holder, Synthesis.chain_subset bearing member there, declares⟩
  have wellTyped : ∀ call ∈ calls, call.WellTyped synthesis.model := by
    rw [provides.model]
    exact fun call listed => (fits call listed).2
  have names : ∀ {other otherClass}, synthesis.hierarchy.get? other = some otherClass →
      synthesis.productName other = otherClass.name ∧ synthesis.builderName other =
        builderTypeName manifest.settings.builderName otherClass.name := by
    intro other otherClass there
    unfold Synthesis.builderName Synthesis.productName
    rw [Synthesis.classAt_eq there, provides.config]
    exact ⟨rfl, rfl⟩
  obtain ⟨product, after, type, built⟩ := Synthesis.yields_buildSeenAs bearing
    (Synthesis.classAt_eq found ▸ isConcrete) short wellTyped declaredBelow
  rw [(names found).1, provides.model] at built
  have seen := built above member (Synthesis.classAt_eq foundAbove ▸ concrete) declared
  have own := built id List.mem_cons_self (Synthesis.classAt_eq found ▸ isConcrete) declaredBelow
  rw [(names foundAbove).2] at seen
  rw [(names found).2] at own
  refine ⟨product, after, ?_, seen, own⟩
  have there := Synthesis.lookup_product (Synthesis.known_of_bears bearing)
  rw [(names found).1, provides.model] at there
  rw [there, type]

theorem skipping_builders_substitutable :
    ∃ context product after,
      (({} : Pipeline).run (skippingManifest.withPolicy .defensive)).result = .ok context ∧
      Yields (buildSeenAs context.model "Leaf" "Root.Builder"
          [⟨tagsField, [⟨.list 0 false, some (.list (.primitive .string))⟩]⟩])
        { lists := [[.text "x"]] } ⟨.object product, some (.named "Leaf")⟩ after ∧
      Yields (buildSeenAs context.model "Leaf" "Leaf.Builder"
          [⟨tagsField, [⟨.list 0 false, some (.list (.primitive .string))⟩]⟩])
        { lists := [[.text "x"]] } ⟨.object product, some (.named "Leaf")⟩ after := by
  obtain ⟨context, hierarchy, registry, success, lowered, registered, all⟩ :=
    builders_substitutable read_skippingSource skipping_nameDisjoint .defensive
  obtain ⟨rfl, rfl, rfl⟩ := skipping_run success lowered registered
  let root := (skippingHierarchy.get? 0).getD default
  have rootKnown : skippingHierarchy.get? 0 = some root := by
    decide +kernel
  have rootName : root.name = "Root" := by
    decide +kernel
  have concrete : root.isAbstract = false := by
    decide +kernel
  have tags : tagsField ∈ root.instanceFields := by
    decide +kernel
  have ancestor : skippingHierarchy.IsAncestor 0 2 := by
    have first : skippingHierarchy.superclass 2 = some 1 := by
      decide +kernel
    have second : skippingHierarchy.superclass 1 = some 0 := by
      decide +kernel
    exact .tail (.single first) second
  have above : (skippingRegistry.forClass? skippingHierarchy 0).isSome := by
    decide +kernel
  have own : (skippingRegistry.forClass? skippingHierarchy 2).isSome := by
    decide +kernel
  have enough : ((2 :: skippingHierarchy.ancestors 2).filter (fun ancestor =>
      (skippingRegistry.forClass? skippingHierarchy ancestor).isSome)).length ≤ 255 := by
    decide +kernel
  have substitutable := all 2 _ 0 root get?_skippingLeaf rootKnown ancestor isAbstract_skippingLeaf
    concrete own above enough
  obtain ⟨product, after, -, seen, known⟩ := substitutable { lists := [[.text "x"]] }
    [⟨tagsField, [⟨.list 0 false, some (.list (.primitive .string))⟩]⟩] (by
      intro call member
      rw [List.mem_singleton.1 member]
      refine ⟨⟨0, root, .inl rfl, above, rootKnown, tags⟩, .inl ⟨_, rfl, ?_, ?_⟩⟩
      · exact Eval.accepts_self skippingContext.model _
      · exact fun _ => .inr ⟨0, false, rfl⟩)
  rw [name_skippingLeaf] at seen known
  rw [rootName] at seen
  exact ⟨skippingContext, product, after, success, seen, known⟩

end Run

end BuilderSynthesis
