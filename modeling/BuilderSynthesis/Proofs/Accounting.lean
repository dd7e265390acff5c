import BuilderSynthesis.Proofs.Reporting
import Mathlib.Data.Finset.Card
import Mathlib.Data.Finset.Dedup

/-!
Contract: every class is accounted for once by what a run leaves and by what it reports.

A class either has a builder, with the properties of the class, or is reported; both in the order
of the classes. A class is reported besides for every repetition in its list of nested types.

Owns: `Accounts`, `Stands`, and `classes_accounted` for manifests.
-/

namespace BuilderSynthesis.Builder

open BuilderSynthesis.Schema (ClassId DataClass Hierarchy Policy)

/-! ### Classes that are reported -/

/-- The report on a class is added to those before. -/
theorem skipped_registerClass {builderName : String} {workshop after : Workshop} {id : ClassId}
    {dataClass : DataClass}
    (success : registerClass builderName workshop id dataClass = (after, none)) :
    after.registry.skipped.map Skipped.origin = workshop.registry.skipped.map Skipped.origin ∨
      after.registry.skipped.map Skipped.origin = workshop.registry.skipped.map Skipped.origin ++
        [(dataClass.name, builderName, dataClass.location)] := by
  unfold registerClass at success
  cases found : workshop.model.lookup dataClass.name with
  | none =>
      rw [found] at success
      cases success
  | some product =>
      simp only [found] at success
      cases declared : workshop.model.declareNested product
          (builderHeader dataClass builderName) with
      | ok result =>
          rw [declared] at success
          cases success
          exact .inl rfl
      | error reason =>
          rw [declared] at success
          cases success
          exact .inr List.map_append

/-- Classes are reported in their order. -/
theorem skipped_registerAll {builderName : String} {entries : List (ClassId × DataClass)}
    {workshop after : Workshop}
    (success : registerAll builderName entries workshop = (after, none)) :
    ∃ missing : List DataClass, missing.Sublist (entries.map Prod.snd) ∧
      after.registry.skipped.map Skipped.origin =
        workshop.registry.skipped.map Skipped.origin ++
          missing.map (fun dataClass => (dataClass.name, builderName, dataClass.location)) := by
  induction entries generalizing workshop with
  | nil =>
      cases success
      exact ⟨[], List.Sublist.refl _, (List.append_nil _).symm⟩
  | cons entry rest inductionHypothesis =>
      obtain ⟨id, dataClass⟩ := entry
      rw [registerAll] at success
      cases step : registerClass builderName workshop id dataClass with
      | mk middle failure =>
          rw [step] at success
          cases failure with
          | some failure => cases success
          | none =>
              obtain ⟨missing, sub, later⟩ := inductionHypothesis success
              rcases skipped_registerClass step with same | more
              · exact ⟨missing, sub.cons _, by rw [later, same]⟩
              · exact ⟨dataClass :: missing, sub.cons_cons _, by
                  rw [later, more, List.append_assoc, List.singleton_append, List.map_cons]⟩

/-! ### Properties that are noted -/

/-- The properties that a request notes under a key. -/
def Request.propertiesUnder (key : String) : Request → Option (List Property)
  | .properties other noted => if other = key then some noted else none
  | _ => none

def Descriptor.noting (key : String) (requests : List Request) (descriptor : Descriptor) :
    Descriptor :=
  { descriptor with
    properties := (requests.filterMap (Request.propertiesUnder key)).getLast?.or
      descriptor.properties }

theorem get?_registry_effect (workshop : Workshop) (request : Request) (key : String) :
    (effect workshop request).registry.get? key =
      (workshop.registry.get? key).map (Descriptor.noting key [request]) := by
  have other : ∀ {request : Request}, request.propertiesUnder key = none →
      workshop.registry.get? key =
        (workshop.registry.get? key).map (Descriptor.noting key [request]) := by
    intro request none'
    have same : Descriptor.noting key [request] = id := by
      funext descriptor
      simp [Descriptor.noting, none']
    rw [same, Option.map_id, id]
  cases request with
  | field owner declared => exact other rfl
  | method owner declared => exact other rfl
  | superclass type parent => exact other rfl
  | properties noted properties =>
      by_cases here : noted = key
      · subst here
        unfold effect BuilderSynthesis.Builder.noting
        cases found : workshop.registry.get? noted with
        | none => simp only [found, Option.map_none]
        | some descriptor =>
            simp only [found]
            rw [Registry.get?_insert, if_pos rfl, Option.map_some]
            simp [Descriptor.noting, Request.propertiesUnder]
      · unfold effect
        rw [get?_noting_of_ne _ _ _ (Ne.symm here)]
        exact other (if_neg here)

/-- What all requests together note. -/
theorem get?_registry_foldl_effect (requests : List Request) (workshop : Workshop)
    (key : String) :
    (requests.foldl effect workshop).registry.get? key =
      (workshop.registry.get? key).map (Descriptor.noting key requests) := by
  induction requests generalizing workshop with
  | nil =>
      have same : Descriptor.noting key [] = id := rfl
      rw [List.foldl_nil, same, Option.map_id, id]
  | cons request rest inductionHypothesis =>
      rw [List.foldl_cons, inductionHypothesis, get?_registry_effect, Option.map_map]
      congr 1
      funext descriptor
      have split : (request :: rest).filterMap (Request.propertiesUnder key) =
          [request].filterMap (Request.propertiesUnder key) ++
            rest.filterMap (Request.propertiesUnder key) := by
        rw [← List.filterMap_append, List.singleton_append]
      simp only [Function.comp_apply, Descriptor.noting, split, List.getLast?_append,
        Option.or_assoc]

theorem propertiesUnder_requests {hierarchy : Hierarchy} {policy : Policy} {workshop : Workshop}
    {key : String} {descriptor : Descriptor} {dataClass : DataClass} (wanted : String) :
    (requests hierarchy policy workshop key descriptor dataClass).filterMap
        (Request.propertiesUnder wanted) =
      if key = wanted then [ownProperties dataClass] else [] := by
  rw [filterMap_requests_of_no_method fun _ _ => rfl]
  cases workshop.registry.nearestAncestor? hierarchy descriptor.classId <;>
    by_cases own : key = wanted <;>
    simp [own, Request.propertiesUnder]

/-- Under the key of a builder the properties of its class are noted, once. -/
theorem Ready.propertiesUnder_allRequests {hierarchy : Hierarchy} {workshop : Workshop}
    (ready : Ready hierarchy workshop) (policy : Policy) {entry : String × Descriptor}
    (member : entry ∈ workshop.registry.descriptors) {dataClass : DataClass}
    (known : hierarchy.get? entry.2.classId = some dataClass) :
    (allRequests hierarchy policy workshop).filterMap (Request.propertiesUnder entry.1) =
      [ownProperties dataClass] := by
  have others : ∀ other ∈ workshop.registry.descriptors, other ≠ entry →
      (requestsOf hierarchy policy workshop other).filterMap
        (Request.propertiesUnder entry.1) = [] := by
    intro other found different
    obtain ⟨_, _, _, same⟩ := ready.requestsOf_eq policy found
    rw [same, propertiesUnder_requests, if_neg]
    intro again
    exact different (List.inj_on_of_nodup_map ready.keys found member again)
  rw [filterMap_allRequests, Lists.flatMap_eq_of_unique member ready.distinct others]
  obtain ⟨other, found, -, same⟩ := ready.requestsOf_eq policy member
  rw [known, Option.some.injEq] at found
  rw [same, propertiesUnder_requests, if_pos rfl, found]

end BuilderSynthesis.Builder

namespace BuilderSynthesis.Run

open BuilderSynthesis.Builder (Descriptor Nests Registry Workshop allRequests builderTypeName
  setterName)
open BuilderSynthesis.Code (Model)
open BuilderSynthesis.Schema (ClassId DataClass Hierarchy)

/-! ### Nested types that are named again -/

/-- Every name of a list is either mentioned for the first time or reported. -/
theorem length_repeatedNames_add (known names : List String) :
    (repeatedNames known names).length + (names.toFinset \ known.toFinset).card =
      names.length := by
  induction names generalizing known with
  | nil => simp [repeatedNames]
  | cons first rest inductionHypothesis =>
      unfold repeatedNames
      rw [List.toFinset_cons]
      by_cases mentioned : first ∈ known
      · rw [if_pos mentioned, Finset.insert_sdiff_of_mem _ (List.mem_toFinset.2 mentioned),
          List.length_cons, List.length_cons, ← inductionHypothesis known]
        omega
      · have unknown : first ∉ known.toFinset := mt List.mem_toFinset.1 mentioned
        have new : insert first rest.toFinset \ known.toFinset =
            insert first (rest.toFinset \ (known ++ [first]).toFinset) := by
          ext name
          simp only [Finset.mem_sdiff, Finset.mem_insert, List.mem_toFinset, List.mem_append,
            List.mem_singleton]
          by_cases same : name = first
          · simp [same, mentioned]
          · simp [same]
        have fresh : first ∉ rest.toFinset \ (known ++ [first]).toFinset := by
          simp
        rw [if_neg mentioned, new, Finset.card_insert_of_notMem fresh, List.length_cons,
          ← inductionHypothesis (known ++ [first])]
        omega

theorem length_repeatReports (dataClass : DataClass) :
    (repeatReports dataClass).length =
      dataClass.nested.length - dataClass.nested.dedup.length := by
  have count := length_repeatedNames_add [] dataClass.nested
  rw [List.toFinset_nil, Finset.sdiff_empty, List.card_toFinset] at count
  unfold repeatReports
  rw [List.length_map]
  omega

/-- Where classes have different names, the reports on nested types that bear the name of a class
are those on the class. -/
theorem filter_repeatReports {classes : List DataClass}
    (distinct : (classes.map DataClass.name).Nodup) {dataClass : DataClass}
    (member : dataClass ∈ classes) :
    (classes.flatMap repeatReports).filter (fun report =>
        report.className == some dataClass.name) = repeatReports dataClass := by
  rw [List.filter_flatMap, Lists.flatMap_eq_of_unique member distinct.of_map]
  · rw [List.filter_eq_self]
    intro report reported
    obtain ⟨name, -, rfl⟩ := List.mem_map.1 reported
    exact BEq.rfl
  · intro other listed different
    rw [List.filter_eq_nil_iff]
    intro report reported same
    obtain ⟨name, -, rfl⟩ := List.mem_map.1 reported
    have named : other.name = dataClass.name := Option.some.inj (beq_iff_eq.1 same)
    exact different (List.inj_on_of_nodup_map distinct listed member named)

/-! ### What is left of a run -/

/-- The warnings of a phase. -/
def phaseWarnings (phase : String) (context : Context) : List Diagnostic :=
  context.diagnostics.filter (fun diagnostic =>
    diagnostic.severity == .warning && diagnostic.phase == phase)

/-- Warnings that are all of one phase. -/
theorem filter_phase_self {reports : List Diagnostic} {phase : String}
    (own : ∀ report ∈ reports, report.severity = .warning ∧ report.phase = phase) :
    reports.filter (fun report => report.severity == .warning && report.phase == phase) =
      reports := by
  rw [List.filter_eq_self]
  intro report member
  rw [(own report member).1, (own report member).2, BEq.rfl, BEq.rfl]
  rfl

theorem filter_phase_other {reports : List Diagnostic} {phase : String}
    (others : ∀ report ∈ reports, report.phase ≠ phase) :
    reports.filter (fun report => report.severity == .warning && report.phase == phase) = [] := by
  rw [List.filter_eq_nil_iff]
  intro report member passes
  rw [Bool.and_eq_true, beq_iff_eq, beq_iff_eq] at passes
  exact others report member passes.2

/-- What is reported comes from one phase after the other. -/
theorem phaseWarnings_eq {context : Context} {classes missing : List DataClass}
    {builderName : String} {count : Nat} {policy : Schema.Policy}
    (reported : context.diagnostics = classes.flatMap repeatReports ++
      missing.map (missingReport builderName) ++ [generatedInfo count policy]) :
    phaseWarnings "declare" context = classes.flatMap repeatReports ∧
      phaseWarnings "register" context = missing.map (missingReport builderName) := by
  have ofDeclare : ∀ report ∈ classes.flatMap repeatReports,
      report.severity = .warning ∧ report.phase = "declare" := by
    intro report member
    obtain ⟨dataClass, -, inside⟩ := List.mem_flatMap.1 member
    obtain ⟨name, -, rfl⟩ := List.mem_map.1 inside
    exact ⟨rfl, rfl⟩
  have ofRegister : ∀ report ∈ missing.map (missingReport builderName),
      report.severity = .warning ∧ report.phase = "register" := by
    intro report member
    obtain ⟨dataClass, -, rfl⟩ := List.mem_map.1 member
    exact ⟨rfl, rfl⟩
  have notRegister := fun report member => (ofDeclare report member).2.symm ▸
    (by decide : "declare" ≠ "register")
  have notDeclare := fun report member => (ofRegister report member).2.symm ▸
    (by decide : "register" ≠ "declare")
  have info : ∀ phase, [generatedInfo count policy].filter (fun report =>
      report.severity == .warning && report.phase == phase) = [] := fun _ => rfl
  unfold phaseWarnings
  rw [reported]
  simp only [List.filter_append, info, List.append_nil]
  constructor
  · rw [filter_phase_self ofDeclare, filter_phase_other notDeclare, List.append_nil]
  · rw [filter_phase_self ofRegister, filter_phase_other notRegister, List.nil_append]

/-- A descriptor is that of a class: it refers to the types that go by the names of the class and
of its builder, one nested in the other, and has the properties of the class. -/
structure Stands (builderName : String) (model : Model) (id : ClassId) (dataClass : DataClass)
    (descriptor : Descriptor) : Prop where
  classId : descriptor.classId = id
  product : model.lookup dataClass.name = some descriptor.product
  builder : model.lookup (dataClass.name ++ "." ++ builderName) = some descriptor.builder
  nested : ∃ product builder, model.get? descriptor.product = some product ∧
    product.qualifiedName = dataClass.name ∧
    model.get? descriptor.builder = some builder ∧
    builder.qualifiedName = dataClass.name ++ "." ++ builderName ∧
    builder.outer = some descriptor.product ∧
    (builderName, descriptor.builder) ∈ product.nested
  properties : descriptor.properties =
    some ((dataClass.fields.filter (fun field => !field.isStatic)).map (fun field =>
      { name := field.name
        setter := setterName field.name
        type := .ofField field.element field.cardinality
        cardinality := field.cardinality
        doc := field.doc }))

/-- Every class has a builder or is reported. -/
structure Accounts (hierarchy : Hierarchy) (builderName : String) (context : Context)
    (registry : Registry) : Prop where
  /-- The builders are those of classes, in the order of these. -/
  keys : registry.descriptors.map Prod.fst =
    (hierarchy.classes.filter (fun dataClass => builderName ∉ dataClass.nested)).map DataClass.name
  registered : ∀ id dataClass, hierarchy.get? id = some dataClass →
    ((registry.get? dataClass.name).isSome ↔ builderName ∉ dataClass.nested) ∧
    ∀ descriptor, registry.get? dataClass.name = some descriptor →
      Stands builderName context.model id dataClass descriptor
  missing : phaseWarnings "register" context =
    (hierarchy.classes.filter (fun dataClass =>
      (registry.get? dataClass.name).isNone)).map (missingReport builderName)
  repeated : phaseWarnings "declare" context = hierarchy.classes.flatMap repeatReports
  repetitions : ∀ dataClass ∈ hierarchy.classes,
    ((phaseWarnings "declare" context).filter (fun report =>
      report.className == some dataClass.name)).length =
        dataClass.nested.length - dataClass.nested.dedup.length
  generated : context.generated = registry.descriptors.length

section

variable {hierarchy : Hierarchy} {builderName : String} {declared : Model}
  {registered : Workshop} (prepared : Prepared hierarchy builderName declared registered)
  {refused : List DataClass}
  (nests : Nests builderName hierarchy.entries registered.registry.descriptors refused
    ⟨declared, {}⟩ registered)

include prepared nests

/-- What is generated leaves a descriptor that of its class. -/
theorem Prepared.stands (policy : Schema.Policy) {id : ClassId} {dataClass : DataClass}
    (known : hierarchy.get? id = some dataClass) {descriptor : Descriptor}
    (found : ((allRequests hierarchy policy registered).foldl Builder.effect
      registered).registry.get? dataClass.name = some descriptor) :
    Stands builderName ((allRequests hierarchy policy registered).foldl Builder.effect
      registered).model id dataClass descriptor := by
  let all := allRequests hierarchy policy registered
  rw [Builder.get?_registry_foldl_effect] at found
  obtain ⟨earlier, looked, rfl⟩ := Option.map_eq_some_iff.1 found
  have member : (dataClass.name, earlier) ∈ registered.registry.descriptors :=
    Keyed.mem_of_value? looked
  obtain ⟨-, -, other, builder, there, named, builderFound, blank⟩ := prepared.entry_builder member
  have own : earlier.classId = id := Hierarchy.eq_of_name prepared.classes there known named
  rw [own, known, Option.some.injEq] at there
  subst there
  obtain ⟨product, productFound, productNamed⟩ := prepared.ready.product _ member
  -- The product was declared before, so its nested types are what registering left.
  have small : earlier.product < declared.size := by
    rw [prepared.entry_product member, own]
    exact (prepared.product known).2.1
  obtain ⟨first, declaredThere⟩ := Model.exists_get? small
  have grown := nests.earlier _ first declaredThere
  rw [productFound, Option.some.injEq] at grown
  have inside : (builderName, earlier.builder) ∈ product.nested := by
    rw [grown]
    refine List.mem_append_right _ (List.mem_map.2 ⟨_, List.mem_filter.2 ⟨member, BEq.rfl⟩, rfl⟩)
  have indexed := Builder.indexed_foldl_effect all prepared.ready.indexed
  have distinct : (all.foldl Builder.effect registered).model.names.Nodup := by
    rw [Builder.names_foldl_effect]
    exact prepared.distinct
  have productLater : (all.foldl Builder.effect registered).model.get? earlier.product =
      some (Builder.extended earlier.product all product) := by
    rw [Builder.get?_foldl_effect, productFound, Option.map_some]
  have builderLater : (all.foldl Builder.effect registered).model.get? earlier.builder =
      some (Builder.extended earlier.builder all builder) := by
    rw [Builder.get?_foldl_effect, builderFound, Option.map_some]
  have productLookup := Model.lookup_of_get? indexed distinct productLater
  have builderLookup := Model.lookup_of_get? indexed distinct builderLater
  refine ⟨own, ?_, ?_, ⟨_, _, productLater, productNamed, builderLater, blank.named, blank.outer,
    inside⟩, ?_⟩
  · rw [show (Builder.extended earlier.product all product).qualifiedName = dataClass.name from
      productNamed] at productLookup
    exact productLookup
  · rw [show (Builder.extended earlier.builder all builder).qualifiedName =
      builderTypeName builderName dataClass.name from blank.named] at builderLookup
    exact builderLookup
  · have noted := prepared.ready.propertiesUnder_allRequests policy member (own ▸ known)
    unfold Descriptor.noting
    rw [noted]
    rfl

variable (apart : NamesApart hierarchy builderName)

include apart

theorem Prepared.isSome_get?_iff {id : ClassId} {dataClass : DataClass}
    (known : hierarchy.get? id = some dataClass) :
    (registered.registry.get? dataClass.name).isSome ↔ builderName ∉ dataClass.nested := by
  rw [← prepared.bears_iff nests apart known]
  unfold bears Builder.Registry.forClass?
  rw [known, Option.bind_some]

/-- Builders are registered in the order of their classes. -/
theorem Prepared.keys_eq : registered.registry.descriptors.map Prod.fst =
    (hierarchy.classes.filter (fun dataClass => builderName ∉ dataClass.nested)).map
      DataClass.name := by
  have names := Hierarchy.map_name_entries hierarchy
  have kept : registered.registry.descriptors.map Prod.fst =
      (hierarchy.classes.map DataClass.name).filter (fun name =>
        decide (name ∈ registered.registry.descriptors.map Prod.fst)) :=
    Lists.eq_filter_of_sublist (names ▸ prepared.registers.keys) prepared.classes
      fun _ _ => decide_eq_true_iff.symm
  rw [kept, List.filter_map]
  congr 1
  apply List.filter_congr
  intro dataClass own
  obtain ⟨id, known⟩ := List.mem_iff_getElem?.1 own
  have present := prepared.isSome_get?_iff nests apart known
  unfold Builder.Registry.get? at present
  rw [Keyed.value?_isSome_iff] at present
  rw [Function.comp_apply, decide_eq_decide]
  exact present

/-- Classes are reported in their order. -/
theorem Prepared.skipped_eq
    (registering : Builder.register hierarchy declared builderName = (registered, none)) :
    registered.registry.skipped.map skippedWarning =
      (hierarchy.classes.filter (fun dataClass => builderName ∈ dataClass.nested)).map
        (missingReport builderName) := by
  obtain ⟨missing, sub, reported⟩ := Builder.skipped_registerAll registering
  rw [Hierarchy.map_snd_entries] at sub
  have refusedPerm := prepared.refused_perm nests apart
  -- What is reported names the classes that were refused, and a class is known by its name.
  have sameNames : missing.map DataClass.name = refused.map DataClass.name := by
    have origins := congrArg (List.map Prod.fst) (reported.symm.trans nests.skipped)
    rwa [List.map_append, List.map_append, List.append_cancel_left_eq, List.map_map,
      List.map_map] at origins
  have byName : ∀ {part : List DataClass}, part ⊆ hierarchy.classes → ∀ {dataClass : DataClass},
      dataClass ∈ hierarchy.classes →
        (dataClass ∈ part ↔ dataClass.name ∈ part.map DataClass.name) := by
    intro part subset dataClass own
    refine ⟨List.mem_map_of_mem, fun named => ?_⟩
    obtain ⟨other, member, same⟩ := List.mem_map.1 named
    exact List.inj_on_of_nodup_map prepared.classes (subset member) own same ▸ member
  have refusedKnown : refused ⊆ hierarchy.classes := fun dataClass member =>
    (List.mem_filter.1 (refusedPerm.mem_iff.1 member)).1
  have inOrder : missing = hierarchy.classes.filter (fun dataClass =>
      decide (builderName ∈ dataClass.nested)) := by
    refine Lists.eq_filter_of_sublist sub prepared.classes.of_map fun dataClass own => ?_
    rw [byName sub.subset own, sameNames, ← byName refusedKnown own, refusedPerm.mem_iff,
      List.mem_filter]
    exact and_iff_right own
  rw [map_skippedWarning reported, inOrder]

end

/-- What a run leaves accounts for every class. -/
theorem accounts_of_building {context : Context} {hierarchy : Hierarchy}
    (known : context.hierarchy = some hierarchy) (silent : context.diagnostics = [])
    (apart : NamesApart hierarchy context.config.builderName) {workshop : Workshop}
    (completes : Completes hierarchy context.config workshop) :
    ∃ registry, (Pipeline.perform building context).context.registry = some registry ∧
      Accounts hierarchy context.config.builderName (Pipeline.perform building context).context
        registry := by
  have distinct := nodup_names completes apart
  obtain ⟨declared, reports, registered, declaring, registering, generating⟩ := completes
  obtain ⟨-, rfl⟩ := Builder.generate_eq_iff.1 generating
  rw [Builder.names_foldl_effect] at distinct
  obtain ⟨prepared, refused, nests⟩ := prepared_of_register declaring registering distinct
  rw [context_of_completes known declaring registering generating, silent]
  refine ⟨_, rfl, ?_⟩
  let all := allRequests hierarchy context.config.policy registered
  have repeated : reports = hierarchy.classes.flatMap repeatReports := by
    obtain ⟨unlinked, declares, -⟩ := declareHierarchy_eq_ok_iff.1 declaring
    exact declareClasses_reports declares
  have keys : (all.foldl Builder.effect registered).registry.descriptors.map Prod.fst =
      registered.registry.descriptors.map Prod.fst := by
    have shape := congrArg (List.map Prod.fst) (Builder.shape_foldl_effect all registered)
    unfold Builder.Registry.shape at shape
    rwa [List.map_map, List.map_map] at shape
  have present : ∀ {id : ClassId} {dataClass : DataClass},
      hierarchy.get? id = some dataClass →
        (((all.foldl Builder.effect registered).registry.get? dataClass.name).isSome ↔
          context.config.builderName ∉ dataClass.nested) := by
    intro id dataClass found
    rw [Builder.get?_registry_foldl_effect, Option.isSome_map]
    exact prepared.isSome_get?_iff nests apart found
  have missing : ∀ dataClass ∈ hierarchy.classes,
      decide (context.config.builderName ∈ dataClass.nested) =
        ((all.foldl Builder.effect registered).registry.get? dataClass.name).isNone := by
    intro dataClass own
    obtain ⟨id, found⟩ := List.mem_iff_getElem?.1 own
    rw [← Option.not_isSome, Bool.eq_iff_iff, Bool.not_eq_true', decide_eq_true_iff,
      ← Bool.not_eq_true, present found, not_not]
  obtain ⟨declareWarnings, registerWarnings⟩ := @phaseWarnings_eq { context with
      model := (all.foldl Builder.effect registered).model
      registry := some (all.foldl Builder.effect registered).registry
      generated := registered.registry.size
      diagnostics := [] ++ reports ++ registered.registry.skipped.map skippedWarning ++
        [generatedInfo registered.registry.size context.config.policy] }
    hierarchy.classes _ _ _ _ (by
      rw [List.nil_append, repeated, prepared.skipped_eq nests apart registering])
  constructor
  · exact keys.trans (prepared.keys_eq nests apart)
  · exact fun id dataClass found => ⟨present found, fun descriptor registers =>
      prepared.stands nests context.config.policy found registers⟩
  · rw [registerWarnings, List.filter_congr missing]
  · exact declareWarnings
  · intro dataClass member
    rw [declareWarnings, filter_repeatReports prepared.classes member, length_repeatReports]
  · unfold Builder.Registry.size
    rw [← List.length_map Prod.fst, ← keys, List.length_map]

/-! ### Runs on manifests -/

/-- The hierarchy of a manifest has names apart if the manifest has. -/
theorem namesApart_of_lowersTo {manifest : Manifest} {hierarchy : Hierarchy}
    (lowers : manifest.LowersTo hierarchy) (disjoint : manifest.NameDisjoint) :
    NamesApart hierarchy manifest.settings.builderName := by
  let names : String × List String → List String :=
    fun entry => typeNames manifest.settings.builderName entry.1 entry.2
  have same := congrArg (List.flatMap names) lowers.nested
  rw [List.flatMap_map, List.flatMap_map] at same
  unfold NamesApart
  exact same ▸ disjoint

/-- A run on a manifest that can be lowered goes on with the hierarchy. -/
theorem context_run_of_lower {manifest : Manifest} {hierarchy : Hierarchy}
    (lowered : manifest.lower = .ok hierarchy) :
    (({} : Pipeline).run manifest).context =
      (Pipeline.perform building (loweredContext manifest hierarchy)).context := by
  rw [run_eq]
  simp only [Pipeline.perform, lower, Context.ofManifest, lowered]
  rfl

/-- A run on an accepted manifest in which no two types would get one name leaves a builder for
every class that has no nested type of the name of builders, and reports the others. -/
theorem classes_accounted {manifest : Manifest} (accepted : manifest.validate = .ok ())
    (disjoint : manifest.NameDisjoint) :
    ∃ context hierarchy registry, (({} : Pipeline).run manifest).result = .ok context ∧
      manifest.lower = .ok hierarchy ∧ manifest.LowersTo hierarchy ∧
      context.hierarchy = some hierarchy ∧ context.registry = some registry ∧
      Accounts hierarchy manifest.settings.builderName context registry := by
  have known := Manifest.accepted_of_validate accepted
  obtain ⟨hierarchy, lowered, lowers⟩ := Manifest.lower_succeeds known
  obtain ⟨context, synthesis, provides⟩ := exists_synthesis known disjoint
  obtain ⟨other, again, reached⟩ := reached_of_run provides.result
  rw [lowered, Except.ok.injEq] at again
  subst again
  obtain ⟨_, -, completes⟩ := reached.completes
  have left : context = (({} : Pipeline).run manifest).context := by
    have success := provides.result
    unfold Ending.result at success
    split at success
    · exact (Except.ok.inj success).symm
    · cases success
  obtain ⟨registry, registered, accounts⟩ :=
    @accounts_of_building (loweredContext manifest hierarchy) hierarchy rfl rfl
      (namesApart_of_lowersTo lowers disjoint) _ completes
  rw [← context_run_of_lower lowered, ← left] at registered accounts
  exact ⟨context, hierarchy, registry, provides.result, lowered, lowers, reached.known, registered,
    accounts⟩

/-- A class that has a nested type of the name of builders, one that names a nested type again,
and one that extends it and adds properties. -/
def crowdedManifest : Manifest :=
  { settings := { package := some "app" }
    classes := [
      { name := ⟨"Leaf", ⟨0, 6⟩⟩
        superclass := some ⟨"Root", ⟨7, 13⟩⟩
        fields := [
          { name := ⟨"tags", ⟨14, 20⟩⟩, type := ⟨"list<string>", ⟨21, 35⟩⟩ },
          { name := ⟨"limit", ⟨36, 43⟩⟩, type := ⟨"int", ⟨44, 49⟩⟩, isStatic := true }] },
      { name := ⟨"Taken", ⟨50, 57⟩⟩
        nested := ["Builder", "Key"]
        location := some ⟨"fluent.toml", 9, 8⟩ },
      { name := ⟨"Root", ⟨58, 64⟩⟩
        nested := ["Kind", "Key", "Kind"]
        fields := [{ name := ⟨"count", ⟨65, 72⟩⟩, type := ⟨"int", ⟨73, 78⟩⟩ }] }] }

theorem crowded_classes_accounted :
    crowdedManifest.validate = .ok () ∧ crowdedManifest.NameDisjoint ∧
      ∃ context hierarchy registry,
        (({} : Pipeline).run crowdedManifest).result = .ok context ∧
        crowdedManifest.lower = .ok hierarchy ∧ crowdedManifest.LowersTo hierarchy ∧
        context.hierarchy = some hierarchy ∧ context.registry = some registry ∧
        Accounts hierarchy crowdedManifest.settings.builderName context registry :=
  have accepted : crowdedManifest.validate = .ok () := by
    decide +kernel
  have disjoint : crowdedManifest.NameDisjoint := by
    decide +kernel
  ⟨accepted, disjoint, classes_accounted accepted disjoint⟩

end BuilderSynthesis.Run
