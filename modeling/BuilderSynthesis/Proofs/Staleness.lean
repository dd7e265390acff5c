import BuilderSynthesis.Proofs.Coherence
import BuilderSynthesis.Proofs.Phases

/-!
Contract: whether builders refer to declared types, for phases that run in any order and again.

Declaring replaces the types of a context and leaves its registry. The builders of the registry
then stand for positions that hold no type, until builders are registered again; whatever else
runs, and whether or not it fails, every builder refers to a type that is nested in its product.

Owns: `Stage`, `Current`, `AsksWithin` and `current_until_declared_again`.
-/

namespace BuilderSynthesis.Builder

open BuilderSynthesis.Code (Declaration Model TypeId)
open BuilderSynthesis.Schema (ClassId DataClass Hierarchy Policy)

/-! ### Generating, up to a failure -/

/-- What generating leaves, whether or not something is refused. -/
structure Retains (before after : Workshop) : Prop where
  names : after.model.names = before.model.names
  indexed : before.model.Indexed → after.model.Indexed
  shape : after.registry.shape = before.registry.shape
  continues : before.model.Continues after.model

theorem retains_refl (workshop : Workshop) : Retains workshop workshop :=
  ⟨rfl, id, rfl, Model.continues_refl workshop.model⟩

theorem Retains.trans {before middle after : Workshop} (first : Retains before middle)
    (second : Retains middle after) : Retains before after :=
  ⟨second.names.trans first.names, fun indexed => second.indexed (first.indexed indexed),
    second.shape.trans first.shape, first.continues.trans second.continues⟩

theorem extends_extended (type : TypeId) (requests : List Request) (declaration : Declaration) :
    (extended type requests declaration).Extends declaration :=
  { declaration.extends_refl with
    fields := List.prefix_append _ _
    methods := List.prefix_append _ _ }

theorem retains_effect (workshop : Workshop) (request : Request) :
    Retains workshop (effect workshop request) where
  names := names_effect workshop request
  indexed := indexed_effect workshop request
  shape := shape_effect workshop request
  continues := by
    intro id earlier found
    rw [get?_effect, found]
    exact ⟨_, rfl, extends_extended id [request] earlier⟩

/-- A request that is refused leaves everything as it is. -/
theorem carryOut_of_failed {className : String} {request : Request} {workshop after : Workshop}
    {failure : Failure} (failed : request.carryOut className workshop = (after, some failure)) :
    after = workshop := by
  have settled : ∀ {outcome : Except Code.Conflict Model},
      settle className workshop outcome = (after, some failure) → after = workshop := by
    intro outcome same
    cases outcome with
    | ok model => cases same
    | error conflict =>
        cases same
        rfl
  cases request with
  | field owner declared => exact settled failed
  | method owner declared => exact settled failed
  | superclass id parent => cases failed
  | properties key noted =>
      change noteProperties key noted workshop = (after, some failure) at failed
      unfold noteProperties at failed
      cases found : workshop.registry.get? key with
      | none =>
          rw [found] at failed
          cases failed
      | some descriptor =>
          simp only [found] at failed
          cases known : descriptor.properties with
          | none =>
              rw [known] at failed
              cases failed
          | some properties =>
              rw [known] at failed
              cases failed
              rfl

theorem retains_carryOut (className : String) (workshop : Workshop) (request : Request) :
    Retains workshop (request.carryOut className workshop).1 := by
  cases outcome : request.carryOut className workshop with
  | mk after failure =>
      cases failure with
      | none =>
          rw [(carryOut_eq_iff.1 outcome).2]
          exact retains_effect workshop request
      | some failure =>
          rw [carryOut_of_failed outcome]
          exact retains_refl workshop

theorem retains_carryOutAll (className : String) (requests : List Request)
    (workshop : Workshop) : Retains workshop (carryOutAll className requests workshop).1 := by
  induction requests generalizing workshop with
  | nil => exact retains_refl workshop
  | cons request rest inductionHypothesis =>
      have first := retains_carryOut className workshop request
      rw [carryOutAll]
      cases outcome : request.carryOut className workshop with
      | mk middle failure =>
          rw [outcome] at first
          cases failure with
          | none => exact first.trans (inductionHypothesis middle)
          | some failure => exact first

theorem retains_generateOne (hierarchy : Hierarchy) (policy : Policy) (workshop : Workshop)
    (key : String) (descriptor : Descriptor) :
    Retains workshop (generateOne hierarchy policy workshop key descriptor).1 := by
  unfold generateOne
  cases hierarchy.get? descriptor.classId with
  | none => exact retains_refl workshop
  | some dataClass => exact retains_carryOutAll dataClass.name _ workshop

theorem retains_generateAll (hierarchy : Hierarchy) (policy : Policy)
    (entries : List (String × Descriptor)) (workshop : Workshop) :
    Retains workshop (generateAll hierarchy policy entries workshop).1 := by
  induction entries generalizing workshop with
  | nil => exact retains_refl workshop
  | cons entry rest inductionHypothesis =>
      obtain ⟨key, descriptor⟩ := entry
      have first := retains_generateOne hierarchy policy workshop key descriptor
      rw [generateAll]
      cases outcome : generateOne hierarchy policy workshop key descriptor with
      | mk middle failure =>
          rw [outcome] at first
          cases failure with
          | none => exact first.trans (inductionHypothesis middle)
          | some failure => exact first

/-! ### Builders that refer to types -/

/-- A descriptor refers to two types of a model, one nested in the other. -/
def Refers (model : Model) (descriptor : Descriptor) : Prop :=
  ∃ product builder, model.get? descriptor.product = some product ∧
    model.get? descriptor.builder = some builder ∧
    builder.outer = some descriptor.product ∧
    descriptor.builder ∈ product.nested.map Prod.snd

theorem Refers.continues {before after : Model} {descriptor : Descriptor}
    (refers : Refers before descriptor) (continues : before.Continues after) :
    Refers after descriptor := by
  obtain ⟨product, builder, productFound, builderFound, outer, listed⟩ := refers
  obtain ⟨productLater, productThere, productGrows⟩ := continues _ _ productFound
  obtain ⟨builderLater, builderThere, builderGrows⟩ := continues _ _ builderFound
  exact ⟨productLater, builderLater, productThere, builderThere, builderGrows.outer.trans outer,
    (productGrows.nested.map Prod.snd).subset listed⟩

theorem refers_blank {model : Model} {descriptor : Descriptor} :
    Refers model descriptor.blank ↔ Refers model descriptor :=
  Iff.rfl

/-- Which builders there are counts only up to the properties that are noted. -/
theorem forall_shape_iff {registry : Registry} {holds : Descriptor → Prop}
    (same : ∀ descriptor, holds descriptor.blank ↔ holds descriptor) :
    (∀ entry ∈ registry.shape, holds entry.2) ↔
      ∀ entry ∈ registry.descriptors, holds entry.2 := by
  unfold Registry.shape
  rw [List.forall_mem_map]
  exact forall₂_congr fun entry _ => same entry.2

/-- Where registering adds builders, they refer to types. -/
theorem refers_of_nests {builderName : String} {entries : List (ClassId × DataClass)}
    {added : List (String × Descriptor)} {refused : List DataClass} {before after : Workshop}
    (registers : Registers builderName entries added before after)
    (nests : Nests builderName entries added refused before after)
    {entry : String × Descriptor} (member : entry ∈ added) : Refers after.model entry.2 := by
  obtain ⟨product, builder, productFound, builderFound, -⟩ := nests.builder entry member
  obtain ⟨dataClass, -, -, declaration, there, blank⟩ :=
    (registers.registered entry member).source
  rw [builderFound, Option.some.injEq] at there
  have own : (builderName, entry.2.builder) ∈
      nestedBuilders builderName added entry.2.product :=
    List.mem_map.2 ⟨entry, List.mem_filter.2 ⟨member, BEq.rfl⟩, rfl⟩
  refine ⟨product, builder, productFound, builderFound, there ▸ blank.outer, ?_⟩
  -- The product is a type that was there before or a builder itself.
  rcases Nat.lt_or_ge entry.2.product before.model.size with old | new
  · obtain ⟨earlier, known⟩ := Model.exists_get? old
    have grown := nests.earlier _ earlier known
    rw [productFound, Option.some.injEq] at grown
    rw [grown, List.map_append]
    exact List.mem_append_right _ (List.mem_map_of_mem own)
  · have small := Model.get?_eq_some_lt productFound
    rw [registers.size] at small
    have listed : entry.2.product ∈ added.map (fun other => other.2.builder) := by
      rw [registers.builders, List.mem_range'_1]
      exact ⟨new, small⟩
    obtain ⟨other, otherMember, same⟩ := List.mem_map.1 listed
    obtain ⟨-, declared, -, found, -, nested⟩ := nests.builder other otherMember
    rw [same, productFound, Option.some.injEq] at found
    rw [found, nested, same]
    exact List.mem_map_of_mem own

/-! ### Types that are asked for -/

/-- The types that a request is about. -/
def Request.types : Request → List TypeId
  | .field owner _ | .method owner _ => [owner]
  | .properties _ _ => []
  | .superclass id parent => [id, parent]

/-- What is asked for a builder is about the types of the registry. -/
theorem types_of_mem_requests {hierarchy : Hierarchy} {policy : Policy} {workshop : Workshop}
    {key : String} {descriptor : Descriptor} {dataClass : DataClass} {request : Request}
    (member : request ∈ requests hierarchy policy workshop key descriptor dataClass)
    {type : TypeId} (about : type ∈ request.types) :
    type = descriptor.builder ∨ type = descriptor.product ∨
      ∃ other ∈ workshop.registry.descriptors, type = other.2.builder := by
  cases request with
  | field owner declared =>
      rw [List.mem_singleton.1 about]
      exact (owner_of_mem_requests member rfl).imp_right .inl
  | method owner declared =>
      rw [List.mem_singleton.1 about]
      exact (owner_of_mem_requests member rfl).imp_right .inl
  | properties key noted => cases about
  | superclass id parent =>
      rw [requests_eq] at member
      simp only [List.mem_append, List.mem_singleton] at member
      rcases member with ((((property | noted) | superclass) | init) | inherited) | last
      · obtain ⟨one, -, here⟩ := List.mem_flatMap.1 property
        simp [propertyRequests] at here
      · cases noted
      · obtain ⟨above, found, same⟩ := Option.map_eq_some_iff.1 (Option.mem_toList.1 superclass)
        cases same
        unfold Registry.nearestAncestor? at found
        obtain ⟨ancestor, -, known⟩ := List.exists_of_findSome?_eq_some found
        obtain ⟨_, -, looked⟩ := Option.bind_eq_some_iff.1 known
        rcases List.mem_cons.1 about with rfl | parent
        · exact .inl rfl
        · rw [List.mem_singleton.1 parent]
          exact .inr (.inr ⟨_, Keyed.mem_of_value? looked, rfl⟩)
      · cases init
      · obtain ⟨method, -, same⟩ := List.mem_map.1 inherited
        cases same
      · split at last
        · cases last
        · simp at last

/-- Every builder gets a method. -/
theorem exists_method_mem_requests (hierarchy : Hierarchy) (policy : Policy)
    (workshop : Workshop) (key : String) (descriptor : Descriptor) (dataClass : DataClass) :
    ∃ method, Request.method descriptor.builder method ∈
      requests hierarchy policy workshop key descriptor dataClass := by
  rw [requests_eq]
  simp only [List.mem_append, List.mem_singleton]
  exact ⟨_, .inl (.inl (.inr rfl))⟩

end BuilderSynthesis.Builder

namespace BuilderSynthesis.Run

open BuilderSynthesis.Builder (Descriptor Nests Refers Registers Registry Request Retains Workshop
  allRequests)
open BuilderSynthesis.Code (Model TypeId)
open BuilderSynthesis.Schema (ClassId DataClass Hierarchy)

/-! ### Phases in any order -/

/-- A phase that may run at any time and again. -/
inductive Stage where
  | declare
  | register
  | generate
deriving DecidableEq, Repr

def Stage.step : Stage → Step
  | .declare => Run.declare
  | .register => Run.register
  | .generate => Run.generate

/-- A context after stages of which each runs whether or not earlier ones failed. -/
def Context.afterStages (context : Context) (stages : List Stage) : Context :=
  stages.foldl (fun context stage => (stage.step context).1) context

def lastBeforeGenerating (stages : List Stage) : Option Stage :=
  (stages.filter (fun stage => stage ≠ .generate)).getLast?

def Context.builders (context : Context) : List (String × Descriptor) :=
  (context.registry.map Registry.descriptors).getD []

/-- Every builder of a context refers to types of the context. -/
def Current (context : Context) : Prop :=
  ∀ entry ∈ context.builders, Refers context.model entry.2

/-- Generating in a context would ask for types of the context only. -/
def AsksWithin (hierarchy : Hierarchy) (context : Context) : Prop :=
  ∀ registry, context.registry = some registry →
    ∀ request ∈ allRequests hierarchy context.config.policy ⟨context.model, registry⟩,
      ∀ type ∈ request.types, type < context.model.size

theorem lastBeforeGenerating_concat (stages : List Stage) {stage : Stage}
    (other : stage ≠ .generate) : lastBeforeGenerating (stages ++ [stage]) = some stage := by
  unfold lastBeforeGenerating
  rw [List.filter_append, List.filter_singleton, decide_eq_true other]
  exact List.getLast?_concat

theorem lastBeforeGenerating_generate (stages : List Stage) :
    lastBeforeGenerating (stages ++ [.generate]) = lastBeforeGenerating stages := by
  unfold lastBeforeGenerating
  rw [List.filter_append]
  exact congrArg List.getLast? (List.append_nil _)

/-! ### What stages leave -/

/-- The types of a context are those of a hierarchy, with builders that came after them. -/
structure GrownFrom (hierarchy : Hierarchy) (declared : Model) (context : Context) : Prop where
  success : ∃ reports, declareHierarchy hierarchy = .ok (declared, reports)
  names : declared.names <+: context.model.names
  builders : ∀ entry ∈ context.builders,
    declared.size ≤ entry.2.builder ∧ (hierarchy.get? entry.2.classId).isSome

/-- What holds of a context after stages. -/
structure Follows (hierarchy : Hierarchy) (stages : List Stage) (context : Context) : Prop where
  known : context.hierarchy = some hierarchy
  indexed : context.model.Indexed
  /-- Either nothing was declared yet or something was, and if it was last there is no more. -/
  types : (context.model.names = [] ∧ context.builders = []) ∨
    ∃ declared, GrownFrom hierarchy declared context ∧
      (lastBeforeGenerating stages = some .declare → context.model.names = declared.names)
  current : lastBeforeGenerating stages ≠ some .declare → Current context

section

variable {hierarchy : Hierarchy} {stages : List Stage} {context : Context}
  (follows : Follows hierarchy stages context)

include follows

/-- Declaring has the same result each time. -/
theorem Follows.declare : Follows hierarchy (stages ++ [.declare]) (Run.declare context).1 := by
  have last := lastBeforeGenerating_concat stages (by decide : Stage.declare ≠ .generate)
  have notCurrent : ∀ context, lastBeforeGenerating (stages ++ [.declare]) ≠ some .declare →
      Current context := fun _ other => absurd last other
  cases declaring : declareHierarchy hierarchy with
  | error failure =>
      have same : (Run.declare context).1 = context := by
        simp only [Run.declare, follows.known, declaring]
      rw [same]
      refine ⟨follows.known, follows.indexed, .inl ?_, notCurrent _⟩
      rcases follows.types with empty | ⟨declared, grown, -⟩
      · exact empty
      · obtain ⟨reports, success⟩ := grown.success
        rw [declaring] at success
        cases success
  | ok result =>
      obtain ⟨declared, reports⟩ := result
      have replaced : (Run.declare context).1 =
          ({ context with model := declared } : Context).report reports := by
        simp only [Run.declare, follows.known, declaring]
      rw [replaced]
      refine ⟨follows.known, (declareHierarchy_declared declaring).indexed,
        .inr ⟨declared, ⟨⟨reports, declaring⟩, List.prefix_rfl, ?_⟩, fun _ => rfl⟩, notCurrent _⟩
      intro entry member
      rcases follows.types with ⟨-, empty⟩ | ⟨earlier, grown, -⟩
      · change entry ∈ context.builders at member
        rw [empty] at member
        cases member
      · obtain ⟨_, again⟩ := grown.success
        rw [declaring, Except.ok.injEq, Prod.mk.injEq] at again
        exact again.1 ▸ grown.builders entry member

/-- Generating leaves names and builders. -/
theorem Follows.generate : Follows hierarchy (stages ++ [.generate]) (Run.generate context).1 := by
  have last := lastBeforeGenerating_generate stages
  cases registered : context.registry with
  | none =>
      have same : (Run.generate context).1 = context := by
        simp only [Run.generate, follows.known, registered]
      rw [same]
      exact ⟨follows.known, follows.indexed, last ▸ follows.types, last ▸ follows.current⟩
  | some registry =>
      have retains := Builder.retains_generateAll hierarchy context.config.policy
        registry.descriptors ⟨context.model, registry⟩
      change Retains _ (Builder.generate hierarchy context.config.policy
        ⟨context.model, registry⟩).1 at retains
      cases outcome : Builder.generate hierarchy context.config.policy
          ⟨context.model, registry⟩ with
      | mk workshop failure =>
          rw [outcome] at retains
          have left : (Run.generate context).1.hierarchy = context.hierarchy ∧
              (Run.generate context).1.model = workshop.model ∧
              (Run.generate context).1.builders = workshop.registry.descriptors := by
            cases failure <;>
              simp only [Run.generate, follows.known, registered, outcome] <;>
              exact ⟨by trivial, by trivial, rfl⟩
          obtain ⟨known, model, builders⟩ := left
          have held : context.builders = registry.descriptors := by
            unfold Context.builders
            rw [registered]
            rfl
          -- Whatever does not depend on noted properties holds of the builders still.
          have still : ∀ {holds : Descriptor → Prop},
              (∀ descriptor, holds descriptor.blank ↔ holds descriptor) →
              (∀ entry ∈ context.builders, holds entry.2) →
                ∀ entry ∈ workshop.registry.descriptors, holds entry.2 := by
            intro holds same all
            rw [held, ← Builder.forall_shape_iff same] at all
            rw [← Builder.forall_shape_iff same, retains.shape]
            exact all
          refine ⟨known.trans follows.known, model ▸ retains.indexed follows.indexed, ?_, ?_⟩
          · rw [last, model, builders, retains.names]
            rcases follows.types with ⟨nothing, empty⟩ | ⟨declared, grown, only⟩
            · refine .inl ⟨nothing, List.eq_nil_iff_forall_not_mem.2 fun entry member => ?_⟩
              refine @still (fun _ => False) (fun _ => Iff.rfl) ?_ entry member
              rw [empty]
              exact List.forall_mem_nil _
            · refine .inr ⟨declared, ⟨grown.success, ?_, ?_⟩, only⟩
              · rw [model, retains.names]
                exact grown.names
              · rw [builders]
                exact @still (fun descriptor => declared.size ≤ descriptor.builder ∧
                  (hierarchy.get? descriptor.classId).isSome) (fun _ => Iff.rfl) grown.builders
          · rw [last]
            intro other
            unfold Current
            rw [model, builders]
            refine still (fun _ => Builder.refers_blank) fun entry member => ?_
            exact (follows.current other entry member).continues retains.continues

/-- Before anything is declared, registering adds no builder. -/
theorem Follows.register_of_nothing (nothing : context.model.names = [])
    (empty : context.builders = []) :
    (Run.register context).1.hierarchy = context.hierarchy ∧
      (Run.register context).1.model = context.model ∧ (Run.register context).1.builders = [] := by
  cases entries : hierarchy.entries with
  | nil =>
      have success : Builder.register hierarchy context.model context.config.builderName =
          (⟨context.model, {}⟩, none) := by
        unfold Builder.register
        rw [entries]
        rfl
      simp only [Run.register, follows.known, success]
      exact ⟨rfl, rfl, rfl⟩
  | cons entry rest =>
      obtain ⟨id, dataClass⟩ := entry
      have unknown : context.model.lookup dataClass.name = none := by
        rw [Model.lookup_eq_none_iff follows.indexed, nothing]
        exact List.not_mem_nil
      have failed : Builder.register hierarchy context.model context.config.builderName =
          (⟨context.model, {}⟩, some (.undeclaredClass dataClass.name)) := by
        simp only [Builder.register, entries, Builder.registerAll, Builder.registerClass, unknown]
      simp only [Run.register, follows.known, failed]
      exact ⟨trivial, trivial, empty⟩

/-- Registering anew makes all builders refer to types. -/
theorem Follows.register : Follows hierarchy (stages ++ [.register]) (Run.register context).1 := by
  have last := lastBeforeGenerating_concat stages (by decide : Stage.register ≠ .generate)
  rcases follows.types with ⟨nothing, empty⟩ | ⟨declared, grown, -⟩
  · obtain ⟨known, model, builders⟩ := follows.register_of_nothing nothing empty
    refine ⟨known.trans follows.known, model ▸ follows.indexed, .inl ⟨model ▸ nothing, builders⟩,
      fun _ => ?_⟩
    unfold Current
    rw [builders]
    exact List.forall_mem_nil _
  · obtain ⟨reports, success⟩ := grown.success
    have classes : (hierarchy.classes.map DataClass.name).Nodup :=
      ((declareHierarchy_succeeds_iff hierarchy).1 ⟨declared, reports, success⟩).distinct
    have names := Hierarchy.map_name_entries hierarchy
    have present : ∀ entry ∈ hierarchy.entries, entry.2.name ∈ context.model.names := by
      intro entry member
      apply grown.names.subset
      rw [(declareHierarchy_declared success).names]
      apply names_sublist.subset
      rw [← names]
      exact List.mem_map_of_mem member
    obtain ⟨workshop, added, refused, registering, registers, nests⟩ :=
      @Builder.registerAll_registers context.config.builderName hierarchy.entries
        ⟨context.model, {}⟩ follows.indexed present (names ▸ classes)
        (fun _ _ unknown => by cases unknown)
    have descriptors : workshop.registry.descriptors = added := registers.descriptors
    have left : (Run.register context).1 =
        ({ context with
            model := workshop.model
            registry := some workshop.registry } : Context).report
          (workshop.registry.skipped.map skippedWarning) := by
      have again : Builder.register hierarchy context.model context.config.builderName =
        (workshop, none) := registering
      simp only [Run.register, follows.known, again]
    rw [left]
    have builders : (({ context with
            model := workshop.model
            registry := some workshop.registry } : Context).report
          (workshop.registry.skipped.map skippedWarning)).builders = added := descriptors
    refine ⟨follows.known, registers.indexed follows.indexed,
      .inr ⟨declared, ⟨grown.success, ?_, ?_⟩, ?_⟩, ?_⟩
    · refine grown.names.trans ?_
      change context.model.names <+: workshop.model.names
      rw [registers.names]
      exact List.prefix_append _ _
    · rw [builders]
      intro entry member
      obtain ⟨dataClass, listed, -⟩ := (registers.registered entry member).source
      have position : entry.2.builder ∈ added.map (fun entry => entry.2.builder) :=
        List.mem_map_of_mem member
      rw [registers.builders, List.mem_range'_1] at position
      have longer := grown.names.length_le
      rw [Model.length_names, Model.length_names] at longer
      refine ⟨Nat.le_trans longer position.1, ?_⟩
      rw [(Hierarchy.mem_entries_iff hierarchy _ _).1 listed]
      rfl
    · rw [last]
      exact fun other => absurd other (by decide)
    · intro _
      unfold Current
      rw [builders]
      exact fun entry member => Builder.refers_of_nests registers nests member

end

theorem follows_afterStages (hierarchy : Hierarchy) (config : Config) (stages : List Stage) :
    Follows hierarchy stages ((Context.ofHierarchy hierarchy config).afterStages stages) := by
  induction stages using List.reverseRecOn with
  | nil =>
      exact ⟨rfl, Model.indexed_empty, .inl ⟨rfl, rfl⟩, fun _ _ impossible => nomatch impossible⟩
  | append_singleton stages stage inductionHypothesis =>
      have step : (Context.ofHierarchy hierarchy config).afterStages (stages ++ [stage]) =
          (stage.step ((Context.ofHierarchy hierarchy config).afterStages stages)).1 := by
        unfold Context.afterStages
        rw [List.foldl_concat]
      rw [step]
      cases stage with
      | declare => exact inductionHypothesis.declare
      | register => exact inductionHypothesis.register
      | generate => exact inductionHypothesis.generate

section

variable {hierarchy : Hierarchy} {stages : List Stage} {context : Context}
  (follows : Follows hierarchy stages context)

include follows

/-- Builders that were there when types were declared again stand for no types. -/
theorem Follows.size_le_builder (declared : lastBeforeGenerating stages = some .declare)
    {entry : String × Descriptor} (member : entry ∈ context.builders) :
    context.model.size ≤ entry.2.builder ∧ (hierarchy.get? entry.2.classId).isSome := by
  rcases follows.types with ⟨-, empty⟩ | ⟨model, grown, only⟩
  · rw [empty] at member
    cases member
  · obtain ⟨later, known⟩ := grown.builders entry member
    rw [← Model.length_names, only declared, Model.length_names]
    exact ⟨later, known⟩

theorem Follows.current_iff : Current context ↔
    context.builders = [] ∨ lastBeforeGenerating stages ≠ some .declare := by
  constructor
  · intro current
    by_contra stale
    rw [not_or, not_not] at stale
    obtain ⟨entry, member⟩ := List.exists_mem_of_ne_nil _ stale.1
    obtain ⟨_, builder, -, found, -⟩ := current entry member
    exact absurd (Model.get?_eq_some_lt found)
      (Nat.not_lt.2 (follows.size_le_builder stale.2 member).1)
  · rintro (empty | other)
    · unfold Current
      rw [empty]
      exact List.forall_mem_nil _
    · exact follows.current other

theorem Follows.asksWithin_iff : AsksWithin hierarchy context ↔ Current context := by
  constructor
  · intro within
    rw [follows.current_iff]
    by_contra stale
    rw [not_or, not_not] at stale
    obtain ⟨entry, member⟩ := List.exists_mem_of_ne_nil _ stale.1
    obtain ⟨large, known⟩ := follows.size_le_builder stale.2 member
    obtain ⟨dataClass, found⟩ := Option.isSome_iff_exists.1 known
    cases registered : context.registry with
    | none =>
        unfold Context.builders at member
        rw [registered] at member
        cases member
    | some registry =>
        have listed : entry ∈ registry.descriptors := by
          unfold Context.builders at member
          rwa [registered] at member
        obtain ⟨method, asked⟩ := Builder.exists_method_mem_requests hierarchy
          context.config.policy ⟨context.model, registry⟩ entry.1 entry.2 dataClass
        have requested : Request.method entry.2.builder method ∈
            allRequests hierarchy context.config.policy ⟨context.model, registry⟩ := by
          refine List.mem_flatMap.2 ⟨entry, listed, ?_⟩
          unfold Builder.requestsOf
          rw [found]
          exact asked
        have small := within registry registered _ requested entry.2.builder
          (List.mem_singleton_self _)
        exact absurd small (Nat.not_lt.2 large)
  · intro current registry registered request requested type about
    have builders : context.builders = registry.descriptors := by
      unfold Context.builders
      rw [registered]
      rfl
    unfold Current at current
    rw [builders] at current
    obtain ⟨entry, listed, asked⟩ := List.mem_flatMap.1 requested
    unfold Builder.requestsOf at asked
    cases found : hierarchy.get? entry.2.classId with
    | none =>
        rw [found] at asked
        cases asked
    | some dataClass =>
        rw [found] at asked
        obtain ⟨product, builder, productFound, builderFound, -⟩ := current entry listed
        rcases Builder.types_of_mem_requests asked about with rfl | rfl | ⟨other, there, rfl⟩
        · exact Model.get?_eq_some_lt builderFound
        · exact Model.get?_eq_some_lt productFound
        · obtain ⟨_, _, -, otherFound, -⟩ := current other there
          exact Model.get?_eq_some_lt otherFound

end

/-- After phases in any order, every builder refers to a type that is nested in its product as
long as types were not declared again after builders were registered; and just then generating
asks for declared types only. Names are always found at positions that hold a type. -/
theorem current_until_declared_again (hierarchy : Hierarchy) (config : Config)
    (stages : List Stage) :
    let context := (Context.ofHierarchy hierarchy config).afterStages stages
    (Current context ↔
      context.builders = [] ∨ lastBeforeGenerating stages ≠ some .declare) ∧
    (AsksWithin hierarchy context ↔ Current context) ∧
    ∀ name type, context.model.lookup name = some type → type < context.model.size := by
  intro context
  have follows := follows_afterStages hierarchy config stages
  refine ⟨follows.current_iff, follows.asksWithin_iff, fun name type found => ?_⟩
  obtain ⟨declaration, there, -⟩ := Model.get?_of_lookup follows.indexed found
  exact Model.get?_eq_some_lt there

/-- Declaring once more leaves the builder of a class where there is no type. -/
theorem declaring_again_leaves_builders :
    ¬ ∀ (hierarchy : Hierarchy) (config : Config), hierarchy.InRange → ∀ stages,
      Current ((Context.ofHierarchy hierarchy config).afterStages stages) := by
  intro always
  have inRange : Hierarchy.InRange ⟨[{ name := "A" }]⟩ := by
    intro dataClass member superclass extended
    rw [List.mem_singleton.1 member] at extended
    cases extended
  have current := always ⟨[{ name := "A" }]⟩ {} inRange [.declare, .register, .declare]
    ("A", ⟨0, 0, 1, none⟩) (by decide +kernel)
  obtain ⟨_, builder, -, found, -⟩ := current
  have small := Model.get?_eq_some_lt found
  revert small
  decide +kernel

end BuilderSynthesis.Run
