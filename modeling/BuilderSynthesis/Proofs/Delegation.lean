import BuilderSynthesis.Proofs.Hiding
import BuilderSynthesis.Proofs.Inventory
import BuilderSynthesis.Proofs.Overloading
import BuilderSynthesis.Proofs.Storing

/-!
Contract: what a call of a setter writes where fields may hide inherited ones.

A builder has a setter of its own for a property of a class above. It stores where no nearer
field has the name of the property, and else calls the setter of the builder above, which does
the same. Each of these calls is bound by the type of the property alone, so however a name is
overloaded on the way, the one slot that is written is that of the property.

Owns:
- `nearerBearers`, the classes on the way from a class to one above it;
- `Arranged`, what all calls on the way rest on;
- `yields_setterAt`, one setter after the other up to the one that stores;
- `setter_writes_one_slot`, for any hierarchy on which a run succeeds.
-/

namespace BuilderSynthesis

namespace Builder

open Code (Method TypeRef)
open Schema (DataClass Field Policy)

/-- The setter of a property in the builder of a class from which some classes are nearer than the
one that declares the property. -/
def setterAt (policy : Policy) (builder : TypeRef) (nearer : List DataClass) (field : Field) :
    Method :=
  match nearer with
  | [] => setterOf policy builder (Property.ofField field)
  | _ :: _ => override policy builder (hiddenBy nearer []) (Property.ofField field)

section

variable {policy : Policy} {builder : TypeRef} {nearer : List DataClass} {field : Field}

theorem isSetterOf_setterAt : IsSetterOf builder field (setterAt policy builder nearer field) := by
  cases nearer with
  | nil => exact isSetterOf_setterOf policy builder field
  | cons first rest => exact isSetterOf_override policy builder _ field

theorem setterAt_of_hidden (hidden : field.name ∈ hiddenBy nearer []) :
    setterAt policy builder nearer field =
      overriding (delegating (Property.ofField field)
        (setterOf policy builder (Property.ofField field))) := by
  cases nearer with
  | nil => cases hidden
  | cons first rest =>
      exact congrArg overriding (if_pos (List.contains_iff_mem.2 hidden))

theorem setterAt_of_shown (shown : field.name ∉ hiddenBy nearer []) :
    ∃ annotations, setterAt policy builder nearer field =
      annotatedSetter policy builder field annotations := by
  cases nearer with
  | nil => exact ⟨[], setterOf_eq_annotated policy builder field⟩
  | cons first rest =>
      refine ⟨["Override"], ?_⟩
      rw [← overriding_eq_annotated]
      exact congrArg overriding
        (if_neg (fun listed => shown (List.contains_iff_mem.1 listed)))

end

end Builder

namespace Run

open Builder (DistinctSignatures SameSetter builderMethods builderTypeName hiddenBy setterAt
  setterName)
open Code (Declaration Method Model TypeId TypeRef)
open Eval (ApartByParameters Candidate Object Store Typed Value Yields)
open Schema (ClassId DataClass Field Hierarchy Policy)

/-! ### Builders between a class and one above it -/

/-- A class and those of its ancestors that have builders, nearest first. -/
def bearers (hierarchy : Hierarchy) (bears : ClassId → Bool) (id : ClassId) : List ClassId :=
  id :: (hierarchy.ancestors id).filter bears

def nearerBearers (hierarchy : Hierarchy) (bears : ClassId → Bool) (id holder : ClassId) :
    List ClassId :=
  (bearers hierarchy bears id).takeWhile (fun other => other != holder)

def nearerClasses (hierarchy : Hierarchy) (bears : ClassId → Bool) (id holder : ClassId) :
    List DataClass :=
  (nearerBearers hierarchy bears id holder).filterMap hierarchy.get?

theorem nearerBearers_self (hierarchy : Hierarchy) (bears : ClassId → Bool) (id : ClassId) :
    nearerBearers hierarchy bears id id = [] :=
  List.takeWhile_cons_of_neg (by simp)

section

variable {hierarchy : Hierarchy} (acyclic : hierarchy.Acyclic) (inRange : hierarchy.InRange)
  {bears : ClassId → Bool}

include acyclic inRange

theorem bearers_eq_path (id : ClassId) :
    bearers hierarchy bears id = id ::
      Walk.path (Walk.nearest hierarchy.superclass hierarchy.size bears) hierarchy.size id := by
  unfold bearers
  rw [Walk.path_nearest acyclic (Hierarchy.bounded_of_inRange inRange),
    Hierarchy.ancestors_eq_path]

/-- The class that is meant comes right after those that are nearer, and is above all of them. -/
theorem split_bearers {id holder : ClassId} (member : holder ∈ bearers hierarchy bears id) :
    (∃ after, bearers hierarchy bears id =
      nearerBearers hierarchy bears id holder ++ holder :: after) ∧
    ∀ other ∈ nearerBearers hierarchy bears id holder, hierarchy.IsAncestor holder other := by
  let next := Walk.nearest hierarchy.superclass hierarchy.size bears
  have climbs : Walk.Acyclic (Walk.nearest hierarchy.superclass hierarchy.size bears) :=
    Walk.acyclic_nearest acyclic bears
  have bounded := Walk.bounded_nearest (Hierarchy.bounded_of_inRange inRange) bears
  have ancestor : ∀ {other : Nat}, Relation.TransGen (Walk.Leads next) other holder →
      hierarchy.IsAncestor holder other := fun reaches =>
    Relation.TransGen.closed (fun _ _ => Walk.reaches_of_nearest) _ _ reaches
  rcases List.mem_cons.1 member with rfl | above
  · rw [nearerBearers_self]
    exact ⟨⟨_, rfl⟩, fun _ impossible => nomatch impossible⟩
  · have whole := @bearers_eq_path hierarchy acyclic inRange bears id
    rw [whole] at member
    have later : holder ∈ Walk.path next hierarchy.size id := by
      rw [Walk.path_nearest acyclic (Hierarchy.bounded_of_inRange inRange),
        ← Hierarchy.ancestors_eq_path]
      exact above
    obtain ⟨before, split, lead⟩ := Walk.path_split climbs bounded later
    have once := Walk.nodup_cons_path climbs hierarchy.size id
    rw [split] at whole
    have fresh : holder ∉ id :: before := by
      rw [split, ← List.cons_append] at once
      intro earlier
      exact (List.nodup_append.1 once).2.2 holder earlier holder List.mem_cons_self rfl
    have nearer : nearerBearers hierarchy bears id holder = id :: before := by
      unfold nearerBearers
      rw [whole, ← List.cons_append, List.takeWhile_append_of_pos, List.takeWhile_cons_of_neg,
        List.append_nil]
      · simp
      · intro other listed
        exact bne_iff_ne.2 (fun same => fresh (same ▸ listed))
    rw [nearer]
    exact ⟨⟨_, whole⟩, List.forall_mem_cons.2
      ⟨ancestor (Walk.reaches_of_mem_visited later),
        fun other listed => ancestor (lead other listed)⟩⟩

/-- Below a class that is meant there is a builder of which the superclass is the next. -/
theorem exists_next {id holder : ClassId} (member : holder ∈ bearers hierarchy bears id)
    (different : id ≠ holder) :
    ∃ parent, Walk.nearest hierarchy.superclass hierarchy.size bears id = some parent ∧
      bearers hierarchy bears id = id :: bearers hierarchy bears parent ∧
      holder ∈ bearers hierarchy bears parent ∧
      nearerBearers hierarchy bears id holder =
        id :: nearerBearers hierarchy bears parent holder := by
  have climbs : Walk.Acyclic (Walk.nearest hierarchy.superclass hierarchy.size bears) :=
    Walk.acyclic_nearest acyclic bears
  have bounded := Walk.bounded_nearest (Hierarchy.bounded_of_inRange inRange) bears
  have whole := @bearers_eq_path hierarchy acyclic inRange bears id
  rw [Walk.path_eq climbs bounded] at whole
  cases link : Walk.nearest hierarchy.superclass hierarchy.size bears id with
  | none =>
      rw [link] at whole
      rw [whole] at member
      exact absurd (List.mem_singleton.1 member).symm different
  | some parent =>
      rw [link] at whole
      simp only [← bearers_eq_path acyclic inRange] at whole
      refine ⟨parent, rfl, whole, ?_, ?_⟩
      · rw [whole] at member
        exact (List.mem_cons.1 member).resolve_left (Ne.symm different)
      · unfold nearerBearers
        rw [whole]
        exact List.takeWhile_cons_of_pos (bne_iff_ne.2 different)

end

/-- No class with a builder that is nearer to a class has a property with the setter of one of a
class above. -/
def Nearest (hierarchy : Hierarchy) (bears : ClassId → Bool) (holder : ClassId) (field : Field)
    (id : ClassId) : Prop :=
  ∀ other otherClass, (other = id ∨ hierarchy.IsAncestor other id) →
    hierarchy.IsAncestor holder other → bears other = true →
    hierarchy.get? other = some otherClass →
    ∀ declared ∈ otherClass.instanceFields, ¬ SameSetter declared field

/-- What holds on the whole way up holds on the rest of it. -/
theorem Nearest.mono {hierarchy : Hierarchy} {bears : ClassId → Bool} {holder id view : ClassId}
    {field : Field} (nearest : Nearest hierarchy bears holder field id)
    (above : view = id ∨ hierarchy.IsAncestor view id) :
    Nearest hierarchy bears holder field view := by
  intro other otherClass between
  refine nearest other otherClass ?_
  rcases above with rfl | first
  · exact between
  · rcases between with rfl | second
    · exact .inr first
    · exact .inr (first.trans second)

section

variable {hierarchy : Hierarchy} {bears : ClassId → Bool} {id holder : ClassId}

theorem bears_of_mem_bearers (bearing : bears id = true)
    (above : holder ∈ bearers hierarchy bears id) : bears holder = true := by
  rcases List.mem_cons.1 above with rfl | member
  · exact bearing
  · exact (List.mem_filter.1 member).2

variable (acyclic : hierarchy.Acyclic) (inRange : hierarchy.InRange)

include acyclic inRange

theorem mem_bearers_iff (bearing : bears id = true) : holder ∈ bearers hierarchy bears id ↔
    (holder = id ∨ hierarchy.IsAncestor holder id) ∧ bears holder = true := by
  constructor
  · intro member
    refine ⟨(List.mem_cons.1 member).imp_right fun above => ?_,
      bears_of_mem_bearers bearing member⟩
    exact (Hierarchy.mem_ancestors_iff acyclic inRange id holder).1 (List.mem_filter.1 above).1
  · rintro ⟨rfl | above, bears⟩
    · exact List.mem_cons_self
    · exact List.mem_cons_of_mem _ (List.mem_filter.2
        ⟨(Hierarchy.mem_ancestors_iff acyclic inRange id holder).2 above, bears⟩)

theorem Nearest.classes {field : Field} (nearest : Nearest hierarchy bears holder field id)
    (bearing : bears id = true) (above : holder ∈ bearers hierarchy bears id) :
    ∀ other ∈ nearerClasses hierarchy bears id holder, ∀ declared ∈ other.instanceFields,
      ¬ SameSetter declared field := by
  intro other listed
  obtain ⟨position, between, found⟩ := List.mem_filterMap.1 listed
  have member := (List.takeWhile_sublist _).subset between
  obtain ⟨up, bears⟩ := (mem_bearers_iff acyclic inRange bearing).1 member
  exact nearest position other up ((split_bearers acyclic inRange above).2 position between) bears
    found

end

/-! ### Calls that are bound by types alone -/

/-- A program in which the types of a call with one argument tell which method it means. -/
structure Arranged (hierarchy : Hierarchy) (config : Config) (bears : ClassId → Bool)
    (model : Model) : Prop where
  program : Program hierarchy config bears model
  acyclic : hierarchy.Acyclic
  inRange : hierarchy.InRange
  plain : ∀ dataClass ∈ hierarchy.classes, ∀ field ∈ dataClass.fields, field.element.IsPlain
  fields : ∀ dataClass ∈ hierarchy.classes, (dataClass.fields.map Field.name).Nodup
  climbs : Walk.Acyclic model.superclass?
  rootless : model.lookup Code.objectType = none

theorem arranged_of_completes {hierarchy : Hierarchy} {config : Config}
    {workshop : Builder.Workshop} (completes : Completes hierarchy config workshop)
    (distinct : workshop.model.names.Nodup) (acyclic : hierarchy.Acyclic)
    (inRange : hierarchy.InRange)
    (plain : ∀ dataClass ∈ hierarchy.classes, ∀ field ∈ dataClass.fields, field.element.IsPlain)
    (rootless : Code.objectType ∉ workshop.model.names) :
    Arranged hierarchy config (bears hierarchy workshop.registry) workshop.model := by
  have program := program_of_completes completes distinct inRange
  have declarable : Declarable [] hierarchy.classes := by
    obtain ⟨model, reports, registered, declared, -⟩ := completes
    exact (declareHierarchy_succeeds_iff hierarchy).1 ⟨model, reports, declared⟩
  refine ⟨program, acyclic, inRange, plain, declarable.1,
    acyclic_superclass? completes distinct acyclic inRange, ?_⟩
  exact (Model.lookup_eq_none_iff program.indexed Code.objectType).2 rootless

namespace Arranged

variable {hierarchy : Hierarchy} {config : Config} {bears : ClassId → Bool} {model : Model}
  (arranged : Arranged hierarchy config bears model)

include arranged

theorem plain_of_instance {id : ClassId} {dataClass : DataClass}
    (known : hierarchy.get? id = some dataClass) {field : Field}
    (declares : field ∈ dataClass.instanceFields) : field.element.IsPlain :=
  arranged.plain dataClass (List.mem_of_getElem? known) field (List.mem_filter.1 declares).1

theorem find?_instanceFields {id : ClassId} {dataClass : DataClass}
    (known : hierarchy.get? id = some dataClass) {field : Field}
    (declares : field ∈ dataClass.instanceFields) :
    dataClass.instanceFields.find? (fun other => other.name == field.name) = some field := by
  have distinct := (arranged.fields dataClass (List.mem_of_getElem? known)).sublist
    ((List.filter_sublist (p := Field.isInstance)).map Field.name)
  exact Lists.find?_key_of_nodup distinct declares

section

variable {id : ClassId} {dataClass : DataClass} (here : hierarchy.get? id = some dataClass)
  (bearing : bears id = true)

include here bearing

/-- The type of a builder has the fields of its own class. -/
theorem field?_builder (name : String) :
    (model.get? (builderId hierarchy config.builderName model id)).bind (fun declaration =>
        declaration.field? name) =
      (dataClass.instanceFields.find? (fun field => field.name == name)).map (fun field =>
        (Builder.Handling.ofProperty config.policy (Builder.Property.ofField field)).field
          (Builder.Property.ofField field)) := by
  obtain ⟨declaration, found, isBuilder⟩ := arranged.program.builder id dataClass here bearing
  rw [found, Option.bind_some]
  unfold Declaration.field?
  rw [isBuilder.fields, Builder.builderFields, Builder.ownProperties, List.map_map,
    List.find?_map]
  rfl

theorem fieldType_builder {field : Field} (declares : field ∈ dataClass.instanceFields) :
    Eval.fieldType model (builderId hierarchy config.builderName model id) field.name =
      .ok (.ofField field.element field.cardinality) := by
  unfold Eval.fieldType
  rw [arranged.field?_builder here bearing, arranged.find?_instanceFields here declares]
  rfl

end

section

variable {id holder : ClassId} {dataClass holderClass : DataClass}
  (here : hierarchy.get? id = some dataClass) (bearing : bears id = true)
  (above : holder ∈ bearers hierarchy bears id)
  (known : hierarchy.get? holder = some holderClass)
  {field : Field} (declares : field ∈ holderClass.instanceFields)

include bearing above known declares

/-- The field that a setter stores in is that of the class that declares the property, unless a
nearer one has its name. -/
theorem fieldOwner_builder
    (shown : field.name ∉ hiddenBy (nearerClasses hierarchy bears id holder) []) :
    Eval.fieldOwner model (builderId hierarchy config.builderName model id) field.name =
      .ok (builderId hierarchy config.builderName model holder) := by
  obtain ⟨⟨after, split⟩, -⟩ := split_bearers arranged.acyclic arranged.inRange above
  have supertypes := arranged.program.supertypes_builder arranged.acyclic arranged.inRange bearing
  have bearsToo : ∀ other ∈ bearers hierarchy bears id, bears other = true :=
    fun other listed => bears_of_mem_bearers bearing listed
  rw [split] at bearsToo
  have owner : Eval.fieldOwner? model (builderId hierarchy config.builderName model id)
      field.name = some (builderId hierarchy config.builderName model holder) := by
    unfold Eval.fieldOwner?
    rw [supertypes, List.find?_map, Option.map_eq_some_iff]
    refine ⟨holder, List.find?_eq_some_iff_append.2 ⟨?_, _, after, split, ?_⟩, rfl⟩
    · simp only [Function.comp_apply,
        arranged.field?_builder known (bears_of_mem_bearers bearing above),
        arranged.find?_instanceFields known declares]
      rfl
    · intro other listed
      have there := bearsToo other (List.mem_append_left _ listed)
      obtain ⟨otherClass, found⟩ := Hierarchy.exists_get? (arranged.program.known other there)
      have absent : otherClass.instanceFields.find? (fun declared =>
          declared.name == field.name) = none := by
        rw [List.find?_eq_none]
        intro declared own same
        refine shown ((Builder.mem_hiddenBy_iff _ _ _).2 (.inr ⟨otherClass, ?_, declared, own,
          beq_iff_eq.1 same⟩))
        exact List.mem_filterMap.2 ⟨other, listed, found⟩
      simp only [Function.comp_apply, arranged.field?_builder found there, absent]
      rfl
  unfold Eval.fieldOwner
  rw [owner]

variable (nearest : Nearest hierarchy bears holder field id)

include here nearest

/-- A builder declares the setter of each property that no nearer setter takes the place of. -/
theorem setterAt_mem_methods :
    setterAt config.policy (.named (builderTypeName config.builderName dataClass.name))
        (nearerClasses hierarchy bears id holder) field ∈
      builderMethods config.policy (.named dataClass.name)
        (.named (builderTypeName config.builderName dataClass.name)) dataClass
        (bearersAbove hierarchy bears id) := by
  by_cases own : id = holder
  · subst own
    rw [here, Option.some.injEq] at known
    subst known
    unfold nearerClasses
    rw [nearerBearers_self]
    exact Builder.setter_mem_builderMethods declares
  · obtain ⟨parent, -, whole, -, first⟩ :=
      exists_next arranged.acyclic arranged.inRange above own
    obtain ⟨⟨after, split⟩, -⟩ := split_bearers arranged.acyclic arranged.inRange above
    have classes : nearerClasses hierarchy bears id holder = dataClass ::
        (nearerBearers hierarchy bears parent holder).filterMap hierarchy.get? := by
      unfold nearerClasses
      rw [first, List.filterMap_cons_some here]
    rw [first, List.cons_append] at split
    have rest := (List.cons.inj split).2
    have ancestors : bearersAbove hierarchy bears id =
        (nearerBearers hierarchy bears parent holder).filterMap hierarchy.get? ++
          holderClass :: after.filterMap hierarchy.get? := by
      unfold bearersAbove
      rw [rest, List.filterMap_append, List.filterMap_cons_some known]
    have holding := bears_of_mem_bearers bearing above
    obtain ⟨declaration, -, isBuilder⟩ :=
      arranged.program.builder holder holderClass known holding
    have distinct := isBuilder.distinct
    rw [isBuilder.methods] at distinct
    have nearer := nearest.classes arranged.acyclic arranged.inRange bearing above
    rw [classes] at nearer ⊢
    apply Builder.override_mem_builderMethods ancestors declares ?_ ?_ nearer
    · intro other listed declared instance'
      rcases List.mem_cons.1 listed with rfl | later
      · exact arranged.plain_of_instance here instance'
      · rcases List.mem_append.1 later with between | last
        · obtain ⟨position, -, found⟩ := List.mem_filterMap.1 between
          exact arranged.plain_of_instance found instance'
        · obtain rfl := List.mem_singleton.1 last
          exact arranged.plain_of_instance known instance'
    · intro other instance' same
      exact Builder.field_unique distinct instance' declares same

/-- A call on a builder with the type of a property means the setter of that property. -/
theorem resolve_setter :
    Eval.resolve model (builderId hierarchy config.builderName model id) (setterName field.name)
        [some (.ofField field.element field.cardinality)] false =
      .ok ⟨builderId hierarchy config.builderName model id,
        setterAt config.policy (.named (builderTypeName config.builderName dataClass.name))
          (nearerClasses hierarchy bears id holder) field, false⟩ := by
  let method := setterAt config.policy
    (.named (builderTypeName config.builderName dataClass.name))
    (nearerClasses hierarchy bears id holder) field
  have setter : Builder.IsSetterOf _ field method := Builder.isSetterOf_setterAt
  have member := arranged.setterAt_mem_methods here bearing above known declares nearest
  obtain ⟨declaration, found, isBuilder⟩ := arranged.program.builder id dataClass here bearing
  rw [← isBuilder.methods] at member
  have own : Candidate.mk (builderId hierarchy config.builderName model id) method ∈
      Eval.declaredCandidates model (setterName field.name) false
        (builderId hierarchy config.builderName model id) := by
    unfold Eval.declaredCandidates
    rw [found]
    refine List.mem_map_of_mem (List.mem_filter.2 ⟨member, ?_⟩)
    rw [setter.name, setter.isInstance]
    simp
  have apart : ApartByParameters (Eval.declaredCandidates model (setterName field.name) false
      (builderId hierarchy config.builderName model id)) := by
    unfold Eval.declaredCandidates ApartByParameters
    rw [found, List.pairwise_map]
    refine (isBuilder.distinct.filter _).imp_of_mem ?_
    intro earlier later one two different same
    simp only [List.mem_filter, Bool.and_eq_true, beq_iff_eq] at one two
    unfold Method.sameSignature at different
    rw [one.2.1, two.2.1, same] at different
    simp at different
  have candidate := Eval.mem_candidates_of_own
    (arranged.program.supertypes_builder arranged.acyclic arranged.inRange bearing) apart own
  exact Eval.resolve_exact arranged.climbs arranged.program.indexed arranged.rootless candidate
    setter.parameters

/-- Whatever builder of a class between the two a caller sees, the setter of the class of the
builder runs. -/
theorem dispatch_setter {view : ClassId} {viewClass : DataClass}
    (viewed : hierarchy.get? view = some viewClass) (bearsView : bears view = true) :
    Eval.dispatch model (builderId hierarchy config.builderName model id)
        ⟨builderId hierarchy config.builderName model view,
          setterAt config.policy (.named (builderTypeName config.builderName viewClass.name))
            (nearerClasses hierarchy bears view holder) field, false⟩ =
      ⟨builderId hierarchy config.builderName model id,
        setterAt config.policy (.named (builderTypeName config.builderName dataClass.name))
          (nearerClasses hierarchy bears id holder) field, false⟩ := by
  unfold Eval.dispatch
  rw [arranged.program.supertypes_builder arranged.acyclic arranged.inRange bearing,
    List.map_cons, Eval.overrideIn?]
  by_cases same : builderId hierarchy config.builderName model id =
      builderId hierarchy config.builderName model view
  · obtain rfl := arranged.program.builderId_injective bearing bearsView same
    rw [here, Option.some.injEq] at viewed
    subst viewed
    rw [if_pos rfl]
    rfl
  · have member := arranged.setterAt_mem_methods here bearing above known declares nearest
    obtain ⟨declaration, found, isBuilder⟩ := arranged.program.builder id dataClass here bearing
    rw [← isBuilder.methods] at member
    have own := @Builder.isSetterOf_setterAt config.policy
      (.named (builderTypeName config.builderName dataClass.name))
      (nearerClasses hierarchy bears id holder) field
    have bound := @Builder.isSetterOf_setterAt config.policy
      (.named (builderTypeName config.builderName viewClass.name))
      (nearerClasses hierarchy bears view holder) field
    have single := Builder.filter_signature_eq isBuilder.distinct member
    rw [if_neg same, found, Option.bind_some, Lists.find?_eq_of_unique member]
    · rfl
    · unfold Eval.overrides
      rw [own.name, own.parameters, own.isInstance, bound.name, bound.parameters]
      simp
    · -- Whatever overrides the setter has its signature, and only one method has that.
      intro other listed overrides
      unfold Eval.overrides at overrides
      rw [bound.name, bound.parameters] at overrides
      simp only [Bool.and_eq_true, beq_iff_eq] at overrides
      have again : other ∈ declaration.methods.filter (fun other => other.sameSignature
          (setterAt config.policy (.named (builderTypeName config.builderName dataClass.name))
            (nearerClasses hierarchy bears id holder) field)) := by
        refine List.mem_filter.2 ⟨listed, ?_⟩
        unfold Method.sameSignature
        rw [own.name, own.parameters, overrides.1.1, overrides.2]
        simp
      rw [single] at again
      exact List.mem_singleton.1 again

end

/-- A setter hands its argument from builder to builder up to the first from which the field is
seen, and that one stores it. -/
theorem yields_setterAt {holder : ClassId} {holderClass : DataClass}
    (known : hierarchy.get? holder = some holderClass) {field : Field}
    (declares : field ∈ holderClass.instanceFields) (object : Object) {given stored : Value}
    {store after : Store}
    (taken : Synthesis.intake config.policy field given store = some (stored, after))
    (id : ClassId) :
    ∀ dataClass, hierarchy.get? id = some dataClass → bears id = true →
      holder ∈ bearers hierarchy bears id → Nearest hierarchy bears holder field id →
      ∀ depth, (bearers hierarchy bears id).length ≤ depth →
        Yields (Eval.invoke model depth (some object)
            ⟨builderId hierarchy config.builderName model id,
              setterAt config.policy (.named (builderTypeName config.builderName dataClass.name))
                (nearerClasses hierarchy bears id holder) field, false⟩
            [⟨given, some (.ofField field.element field.cardinality)⟩]) store
          ⟨.object object, some (.named (builderTypeName config.builderName dataClass.name))⟩
          (after.write object (builderId hierarchy config.builderName model holder, field.name)
            stored) := by
  have climbs : Walk.Acyclic (Walk.nearest hierarchy.superclass hierarchy.size bears) :=
    Walk.acyclic_nearest arranged.acyclic bears
  have bounded := Walk.bounded_nearest (Hierarchy.bounded_of_inRange arranged.inRange) bears
  -- By induction from a class to the next above it with a builder, with one step for each.
  induction id using Walk.induction_on climbs bounded with
  | step id inductionHypothesis =>
      intro dataClass here bearing above nearest depth enough
      obtain ⟨less, rfl⟩ : ∃ less, depth = less + 1 := Nat.exists_eq_succ_of_ne_zero (by
        unfold bearers at enough
        rw [List.length_cons] at enough
        omega)
      have typed := arranged.program.typeRef_builder here bearing
      by_cases hidden : field.name ∈ hiddenBy (nearerClasses hierarchy bears id holder) []
      · -- A field of this class or of a nearer one has the name, so this is not the holder.
        have different : id ≠ holder := by
          rintro rfl
          unfold nearerClasses at hidden
          rw [nearerBearers_self] at hidden
          cases hidden
        obtain ⟨parent, link, whole, there, -⟩ :=
          exists_next arranged.acyclic arranged.inRange above different
        have bearsParent : bears parent = true := List.find?_some link
        obtain ⟨parentClass, found⟩ :=
          Hierarchy.exists_get? (arranged.program.known parent bearsParent)
        have rest : Nearest hierarchy bears holder field parent :=
          nearest.mono (.inr (Walk.reaches_of_nearest link))
        rw [Builder.setterAt_of_hidden hidden]
        apply Builder.yields_delegating typed
        · rw [arranged.program.superclass?_builder bearing, link, Option.map_some]
        · exact arranged.resolve_setter found bearsParent there known declares rest
        · refine inductionHypothesis parent link parentClass found bearsParent there rest less ?_
          rw [whole, List.length_cons] at enough
          omega
      · obtain ⟨annotations, annotated⟩ := @Builder.setterAt_of_shown config.policy
          (.named (builderTypeName config.builderName dataClass.name)) _ _ hidden
        rw [annotated]
        exact Builder.yields_storing typed (arranged.program.lookup_builder here bearing)
          (arranged.fieldOwner_builder bearing above known declares hidden)
          (arranged.fieldType_builder known (bears_of_mem_bearers bearing above) declares)
          (Eval.yields_packed_plain rfl _ store) taken

end Arranged

/-! ### Calls by a caller -/

/-- A call has stored a value of a property in one slot, or a new list with the items of the value
where lists are copied, and has changed nothing else. -/
structure SetsSlot (policy : Policy) (field : Field) (value : Value) (object : Object)
    (slot : Eval.Slot) (before after : Store) : Prop where
  whole : ¬ (policy = .defensive ∧ field.cardinality = .list) ∨ value = .null →
    after.slot? object slot = some value ∧ after.lists = before.lists
  copied : policy = .defensive ∧ field.cardinality = .list → ∀ place isReadOnly,
    value = .list place isReadOnly →
      after.slot? object slot = some (.list before.lists.length false) ∧
      after.lists = before.lists ++ [before.listItems place]
  others : ∀ other wanted, other.place ≠ object.place ∨ wanted ≠ slot →
    after.slot? other wanted = before.slot? other wanted
  objects : after.objects.length = before.objects.length
  arrays : after.arrays = before.arrays

theorem objects_of_intake {policy : Policy} {field : Field} {given stored : Value}
    {store after : Store}
    (taken : Synthesis.intake policy field given store = some (stored, after)) :
    after.objects = store.objects ∧ after.arrays = store.arrays := by
  unfold Synthesis.intake at taken
  split at taken
  · cases given with
    | null =>
        obtain ⟨-, rfl⟩ := Prod.mk.inj (Option.some.inj taken)
        exact ⟨rfl, rfl⟩
    | list place isReadOnly =>
        obtain ⟨-, rfl⟩ := Prod.mk.inj (Option.some.inj taken)
        exact ⟨rfl, rfl⟩
    | _ => cases taken
  · obtain ⟨-, rfl⟩ := Prod.mk.inj (Option.some.inj taken)
    exact ⟨rfl, rfl⟩

/-- A value of the type of a property is taken, and writing it sets the one slot. -/
theorem exists_setsSlot {policy : Policy} {field : Field} {given : Value} {store : Store}
    (typed : field.cardinality = .list →
      given = .null ∨ ∃ place isReadOnly, given = .list place isReadOnly)
    {object : Object} (exists' : object.place < store.objects.length) (slot : Eval.Slot) :
    ∃ stored after, Synthesis.intake policy field given store = some (stored, after) ∧
      SetsSlot policy field given object slot store (after.write object slot stored) := by
  obtain ⟨stored, after, taken⟩ :
      ∃ stored after, Synthesis.intake policy field given store = some (stored, after) := by
    unfold Synthesis.intake
    split
    · rename_i copies
      rcases typed copies.2 with rfl | ⟨place, isReadOnly, rfl⟩
      · exact ⟨_, _, rfl⟩
      · exact ⟨_, _, rfl⟩
    · exact ⟨_, _, rfl⟩
  obtain ⟨objects, arrays⟩ := objects_of_intake taken
  have present : object.place < after.objects.length := by
    rwa [objects]
  have slots : ∀ other wanted, after.slot? other wanted = store.slot? other wanted := by
    intro other wanted
    unfold Store.slot?
    rw [objects]
  have here : (after.write object slot stored).slot? object slot = some stored := by
    rw [Store.slot?_write after present, if_pos ⟨rfl, rfl⟩]
  refine ⟨stored, after, taken, ?_, ?_, ?_, ?_, arrays⟩
  · intro kept
    rw [here]
    unfold Synthesis.intake at taken
    rcases kept with shared | rfl
    · rw [if_neg shared] at taken
      obtain ⟨rfl, rfl⟩ := Prod.mk.inj (Option.some.inj taken)
      exact ⟨rfl, rfl⟩
    · split at taken
      · obtain ⟨rfl, rfl⟩ := Prod.mk.inj (Option.some.inj taken)
        exact ⟨rfl, rfl⟩
      · obtain ⟨rfl, rfl⟩ := Prod.mk.inj (Option.some.inj taken)
        exact ⟨rfl, rfl⟩
  · rintro copies place isReadOnly rfl
    rw [here]
    unfold Synthesis.intake at taken
    rw [if_pos copies] at taken
    obtain ⟨rfl, rfl⟩ := Prod.mk.inj (Option.some.inj taken)
    exact ⟨rfl, rfl⟩
  · intro other wanted different
    rw [Store.slot?_write after present, if_neg, slots]
    rintro ⟨place, same⟩
    exact different.elim (absurd place) (absurd same)
  · rw [Store.length_objects_write, objects]

/-- A call of the setter of a property on a builder sets the slot of that property and returns the
builder, however nearer fields hide the property and overload the setter. -/
theorem setter_writes_one_slot {hierarchy : Hierarchy} {config : Config} {context : Context}
    (acyclic : hierarchy.Acyclic) (inRange : hierarchy.InRange)
    (plain : ∀ dataClass ∈ hierarchy.classes, ∀ field ∈ dataClass.fields, field.element.IsPlain)
    (success : (({} : Pipeline).runHierarchy hierarchy config).result = .ok context)
    (distinct : context.model.names.Nodup) (rootless : Code.objectType ∉ context.model.names) :
    ∃ registry, context.registry = some registry ∧
      ∀ (id view holder : ClassId) (own seen declaring : Builder.Descriptor)
        (holderClass : DataClass) (field : Field) (object : Object) (given : Value)
        (before : Store),
        registry.forClass? hierarchy id = some own →
        registry.forClass? hierarchy view = some seen →
        registry.forClass? hierarchy holder = some declaring →
        (view = id ∨ hierarchy.IsAncestor view id) →
        (holder = view ∨ hierarchy.IsAncestor holder view) →
        hierarchy.get? holder = some holderClass → field ∈ holderClass.instanceFields →
        Nearest hierarchy (bears hierarchy registry) holder field id →
        ((id :: hierarchy.ancestors id).filter (bears hierarchy registry)).length ≤ 255 →
        object.type = own.builder → object.place < before.objects.length →
        (field.cardinality = .list →
          given = .null ∨ ∃ place isReadOnly, given = .list place isReadOnly) →
        ∃ after,
          Yields (Eval.call context.model
              ⟨.object object, some (context.model.typeRef seen.builder)⟩ (setterName field.name)
              [⟨given, some (.ofField field.element field.cardinality)⟩]) before
            ⟨.object object, some (context.model.typeRef own.builder)⟩ after ∧
          SetsSlot config.policy field given object (declaring.builder, field.name) before
            after := by
  obtain ⟨registry, registered, completes⟩ := (reached_of_runHierarchy success).completes
  refine ⟨registry, registered, ?_⟩
  intro id view holder own seen declaring holderClass field object given before ownFound seenFound
    declaringFound up further known declares nearest short instance' present typed
  have arranged := arranged_of_completes completes distinct acyclic inRange plain rootless
  have program := arranged.program
  have bearing : ∀ {other : ClassId} {descriptor : Builder.Descriptor},
      registry.forClass? hierarchy other = some descriptor →
      bears hierarchy registry other = true := by
    intro other descriptor found
    unfold bears
    rw [found]
    rfl
  have bearsId := bearing ownFound
  have bearsView := bearing seenFound
  obtain ⟨dataClass, here⟩ := Hierarchy.exists_get? (program.known id bearsId)
  obtain ⟨viewClass, viewed⟩ := Hierarchy.exists_get? (program.known view bearsView)
  have above : holder ∈ bearers hierarchy (bears hierarchy registry) view :=
    (mem_bearers_iff acyclic inRange bearsView).2 ⟨further, bearing declaringFound⟩
  have there : holder ∈ bearers hierarchy (bears hierarchy registry) id := by
    refine (mem_bearers_iff acyclic inRange bearsId).2 ⟨?_, bearing declaringFound⟩
    rcases up with rfl | first
    · exact further
    · rcases further with rfl | second
      · exact .inr first
      · exact .inr (first.trans second)
  have enough : (bearers hierarchy (bears hierarchy registry) id).length ≤ Eval.maximalDepth := by
    rw [List.filter_cons_of_pos bearsId] at short
    exact Nat.le_succ_of_le short
  obtain ⟨stored, middle, taken, sets⟩ := @exists_setsSlot config.policy field given before typed
    object present (declaring.builder, field.name)
  refine ⟨_, ?_, sets⟩
  rw [builder_eq_builderId completes distinct seenFound,
    builder_eq_builderId completes distinct declaringFound,
    builder_eq_builderId completes distinct ownFound, program.typeRef_builder viewed bearsView,
    program.typeRef_builder here bearsId]
  have received := Eval.receiver_object (program.lookup_builder viewed bearsView) object
    (setterName field.name)
  have resolved := arranged.resolve_setter viewed bearsView above known declares
    (nearest.mono up)
  unfold Eval.call Eval.callOn
  apply (Eval.yields_settled received before).bind
  apply (Eval.yields_settled resolved before).bind
  rw [instance', builder_eq_builderId completes distinct ownFound,
    arranged.dispatch_setter here bearsId there known declares nearest viewed bearsView]
  exact arranged.yields_setterAt known declares object taken id dataClass here bearsId there nearest
    Eval.maximalDepth enough

/-- Four classes in a line, the second without a builder. The third hides the field of the first,
and the names of all three setters are the same. -/
def overloadingHierarchy : Hierarchy :=
  ⟨[{ name := "A"
      fields := [{ name := "x", element := .primitive .int }] },
    { name := "B"
      superclass := some 0
      nested := ["Builder"]
      fields := [{ name := "skipped", element := .named "A" }] },
    { name := "C"
      superclass := some 1
      fields := [{ name := "x", element := .primitive .string, cardinality := .list }] },
    { name := "D"
      superclass := some 2
      fields := [{ name := "X", element := .named "A", cardinality := .array }] }]⟩

theorem overloading_setter_writes_one_slot :
    ∃ context registry own declaring after,
      (({} : Pipeline).runHierarchy overloadingHierarchy {}).result = .ok context ∧
      context.registry = some registry ∧
      registry.forClass? overloadingHierarchy 3 = some own ∧
      registry.forClass? overloadingHierarchy 0 = some declaring ∧
      Yields (Eval.call context.model
          ⟨.object ⟨1, own.builder⟩, some (context.model.typeRef own.builder)⟩ "withX"
          [⟨.int 7, some (.primitive .int)⟩]) { objects := [[], []] }
        ⟨.object ⟨1, own.builder⟩, some (context.model.typeRef own.builder)⟩ after ∧
      SetsSlot .direct { name := "x", element := .primitive .int } (.int 7) ⟨1, own.builder⟩
        (declaring.builder, "x") { objects := [[], []] } after := by
  let field : Field := { name := "x", element := .primitive .int }
  have descending : ∀ id superclass : Nat, overloadingHierarchy.superclass id = some superclass →
      superclass < id := by
    intro id superclass link
    match id, link with
    | 1, link => exact Option.some.inj link ▸ by decide
    | 2, link => exact Option.some.inj link ▸ by decide
    | 3, link => exact Option.some.inj link ▸ by decide
  have acyclic := Hierarchy.acyclic_of_descending descending
  have inRange : overloadingHierarchy.InRange := by
    unfold Hierarchy.InRange
    decide
  have plain : ∀ dataClass ∈ overloadingHierarchy.classes, ∀ field ∈ dataClass.fields,
      field.element.IsPlain := by
    decide
  let ending := ({} : Pipeline).runHierarchy overloadingHierarchy {}
  have success : ending.result = .ok ending.context :=
    result_of_failure_eq_none (by decide +kernel)
  have distinct : ending.context.model.names.Nodup := by
    decide +kernel
  have rootless : Code.objectType ∉ ending.context.model.names := by
    decide +kernel
  have bearing : ∀ id ∈ [0, 3], (ending.context.registry.bind (fun registry =>
      registry.forClass? overloadingHierarchy id)).isSome := by
    decide +kernel
  have ancestor : overloadingHierarchy.IsAncestor 0 3 :=
    .head (b := 2) rfl (.head (b := 1) rfl (.single rfl))
  have apart : ∀ other < 4, other ≠ 0 →
      ∀ declared ∈ ((overloadingHierarchy.get? other).getD default).instanceFields,
        ¬ SameSetter declared field := by
    decide +kernel
  obtain ⟨registry, registered, all⟩ :=
    setter_writes_one_slot acyclic inRange plain success distinct rootless
  rw [registered] at bearing
  obtain ⟨own, ownFound⟩ := Option.isSome_iff_exists.1 (bearing 3 (by decide))
  obtain ⟨declaring, declaringFound⟩ := Option.isSome_iff_exists.1 (bearing 0 (by decide))
  rw [Option.bind_some] at ownFound declaringFound
  have nearest : Nearest overloadingHierarchy (bears overloadingHierarchy registry) 0 field 3 := by
    intro other otherClass _ below _ found declared declares
    have first : other ≠ 0 := by
      rintro rfl
      exact acyclic 0 below
    apply apart other (Hierarchy.get?_eq_some_lt found) first
    rwa [found]
  have enough : ((3 :: overloadingHierarchy.ancestors 3).filter
      (bears overloadingHierarchy registry)).length ≤ 255 :=
    Nat.le_trans (List.length_filter_le _ _) (by decide)
  obtain ⟨after, called, sets⟩ := all 3 3 0 own own declaring _ field ⟨1, own.builder⟩ (.int 7)
    { objects := [[], []] } ownFound ownFound declaringFound (.inl rfl) (.inr ancestor) rfl
    (by decide) nearest enough rfl Nat.one_lt_two (fun list => nomatch list)
  have name : setterName field.name = "withX" := by
    decide +kernel
  rw [name] at called
  exact ⟨_, registry, own, declaring, after, success, registered, ownFound, declaringFound, called,
    sets⟩

end Run

end BuilderSynthesis
