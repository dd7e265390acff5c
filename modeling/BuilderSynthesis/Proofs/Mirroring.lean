import BuilderSynthesis.Proofs.Faithfulness
import BuilderSynthesis.Proofs.Program

/-!
Contract: the types above a builder, and above the type of its class, follow the ancestors of the
class.

A builder extends the builder of the nearest ancestor that has one, whatever lies between. Taken
from one builder to the next, these links pass by each ancestor with a builder and by no other.

Owns: `Mirrors`, and `builder_chain_mirrors`.

Does not own: what each type extends, or the walk over classes of one kind.
-/

namespace BuilderSynthesis.Run

open BuilderSynthesis.Builder (Descriptor Registry builderTypeName)
open BuilderSynthesis.Code (Model TypeId)
open BuilderSynthesis.Schema (ClassId Hierarchy)

def typeOf? (hierarchy : Hierarchy) (model : Model) (id : ClassId) : Option TypeId :=
  (hierarchy.get? id).bind (fun dataClass => model.lookup dataClass.name)

def builderOf? (hierarchy : Hierarchy) (registry : Registry) (id : ClassId) : Option TypeId :=
  (registry.forClass? hierarchy id).map Descriptor.builder

/-- The types that are noted of a class have its names, and the types above them are those of its
ancestors, nearest first. -/
structure Mirrors (hierarchy : Hierarchy) (builderName : String) (registry : Registry)
    (model : Model) (id : ClassId) (descriptor : Descriptor) : Prop where
  named : ∃ dataClass, hierarchy.get? id = some dataClass ∧
    model.lookup dataClass.name = some descriptor.product ∧
    model.lookup (builderTypeName builderName dataClass.name) = some descriptor.builder
  /-- Ancestors without builders are passed over. -/
  builders : model.supertypes descriptor.builder =
    descriptor.builder :: (hierarchy.ancestors id).filterMap (builderOf? hierarchy registry)
  /-- No ancestor is without a type. -/
  products : (model.supertypes descriptor.product).map some =
    (id :: hierarchy.ancestors id).map (typeOf? hierarchy model)

section

variable {hierarchy : Hierarchy} {config : Config} {workshop : Builder.Workshop}

/-- The builders that are noted of some classes are those of the classes that have one. -/
theorem filterMap_builderOf? (completes : Completes hierarchy config workshop)
    (distinct : workshop.model.names.Nodup) (ids : List ClassId) :
    ids.filterMap (builderOf? hierarchy workshop.registry) =
      (ids.filter (bears hierarchy workshop.registry)).map
        (builderId hierarchy config.builderName workshop.model) := by
  induction ids with
  | nil => rfl
  | cons id ids inductionHypothesis =>
      cases found : workshop.registry.forClass? hierarchy id with
      | none =>
          have unnoted : builderOf? hierarchy workshop.registry id = none :=
            congrArg (Option.map Descriptor.builder) found
          have without : ¬ bears hierarchy workshop.registry id = true := by
            unfold bears
            rw [found]
            exact Bool.false_ne_true
          rw [List.filterMap_cons_none unnoted, List.filter_cons_of_neg without,
            inductionHypothesis]
      | some descriptor =>
          have noted : builderOf? hierarchy workshop.registry id = some descriptor.builder :=
            congrArg (Option.map Descriptor.builder) found
          have bearing : bears hierarchy workshop.registry id = true :=
            congrArg Option.isSome found
          rw [List.filterMap_cons_some noted, List.filter_cons_of_pos bearing, List.map_cons,
            inductionHypothesis, builder_eq_builderId completes distinct found]

theorem Program.typeOf?_eq {bears : ClassId → Bool} {model : Model}
    (program : Program hierarchy config bears model) {id : Nat} (known : id < hierarchy.size) :
    typeOf? hierarchy model id = some (productId hierarchy model id) := by
  obtain ⟨dataClass, found⟩ := Hierarchy.exists_get? known
  unfold typeOf?
  rw [found, Option.bind_some, program.lookup_product found]

theorem mirrors_of_completes (completes : Completes hierarchy config workshop)
    (distinct : workshop.model.names.Nodup) (acyclic : hierarchy.Acyclic)
    (inRange : hierarchy.InRange) {id : ClassId} {descriptor : Descriptor}
    (found : workshop.registry.forClass? hierarchy id = some descriptor) :
    Mirrors hierarchy config.builderName workshop.registry workshop.model id descriptor := by
  have program := program_of_completes completes distinct inRange
  have bearing : bears hierarchy workshop.registry id = true := congrArg Option.isSome found
  have known := program.known id bearing
  obtain ⟨product, builder⟩ := noted_of_completes completes distinct found
  obtain ⟨dataClass, there⟩ := Hierarchy.exists_get? known
  constructor
  · rw [product, builder]
    exact ⟨dataClass, there, program.lookup_product there, program.lookup_builder there bearing⟩
  · rw [builder, program.supertypes_builder acyclic inRange bearing, List.map_cons,
      filterMap_builderOf? completes distinct]
  · rw [product, program.supertypes_product acyclic inRange known, List.map_map]
    apply List.map_congr_left
    intro member listed
    have inside : member < hierarchy.size := by
      rcases List.mem_cons.1 listed with rfl | above
      · exact known
      · exact Hierarchy.ancestors_lt acyclic inRange above
    exact (program.typeOf?_eq inside).symm

end

/-- The types above a builder are the builders of those ancestors of its class that have one, and
the types above the type of the class are those of all its ancestors. -/
theorem builder_chain_mirrors {hierarchy : Hierarchy} {config : Config} {context : Context}
    (acyclic : hierarchy.Acyclic) (inRange : hierarchy.InRange)
    (success : (({} : Pipeline).runHierarchy hierarchy config).result = .ok context)
    (distinct : context.model.names.Nodup) :
    ∃ registry, context.registry = some registry ∧
      (∀ id, hierarchy.ListsAncestors id) ∧
      ∀ id descriptor, registry.forClass? hierarchy id = some descriptor →
        Mirrors hierarchy config.builderName registry context.model id descriptor := by
  obtain ⟨registry, registered, completes⟩ := (reached_of_runHierarchy success).completes
  refine ⟨registry, registered, Hierarchy.listsAncestors acyclic inRange, ?_⟩
  intro id descriptor found
  exact mirrors_of_completes completes distinct acyclic inRange found

/-- Five classes in a line, none next to its superclass: the class in the middle has no builder,
as a type of its own has the name of one, and the one below the root is abstract. -/
def scatteredHierarchy : Hierarchy :=
  ⟨[{ name := "zoo.Leaf"
      superclass := some 3
      fields := [{ name := "x", element := .primitive .int }] },
    { name := "zoo.Root"
      fields := [{ name := "name", element := .primitive .string }] },
    { name := "zoo.Base"
      superclass := some 1
      isAbstract := true },
    { name := "zoo.Middle"
      superclass := some 4
      nested := ["Builder"] },
    { name := "zoo.Upper"
      superclass := some 2 }]⟩

/-- The builder of the lowest class extends a builder two classes up. -/
theorem scattered_chain_mirrors :
    ∃ context registry descriptor,
      (({} : Pipeline).runHierarchy scatteredHierarchy {}).result = .ok context ∧
      context.registry = some registry ∧
      registry.forClass? scatteredHierarchy 0 = some descriptor ∧
      (registry.forClass? scatteredHierarchy 3).isNone ∧
      scatteredHierarchy.ancestors 0 = [3, 4, 2, 1] ∧
      Mirrors scatteredHierarchy "Builder" registry context.model 0 descriptor := by
  have acyclic : scatteredHierarchy.Acyclic := by
    apply Walk.acyclic_of_rank ([5, 1, 2, 4, 3].getD · 0)
    intro id superclass link
    match id, link with
    | 0, link => exact Option.some.inj link ▸ by decide
    | 2, link => exact Option.some.inj link ▸ by decide
    | 3, link => exact Option.some.inj link ▸ by decide
    | 4, link => exact Option.some.inj link ▸ by decide
  have inRange : scatteredHierarchy.InRange := by
    unfold Hierarchy.InRange
    decide
  let ending := ({} : Pipeline).runHierarchy scatteredHierarchy {}
  have success : ending.result = .ok ending.context :=
    result_of_failure_eq_none (by decide +kernel)
  have distinct : ending.context.model.names.Nodup := by
    decide +kernel
  obtain ⟨registry, registered, -, mirrors⟩ :=
    builder_chain_mirrors acyclic inRange success distinct
  have bearing : (ending.context.registry.bind (fun registry =>
      registry.forClass? scatteredHierarchy 0)).isSome := by
    decide +kernel
  have passed : (ending.context.registry.bind (fun registry =>
      registry.forClass? scatteredHierarchy 3)).isNone := by
    decide +kernel
  rw [registered, Option.bind_some] at bearing passed
  obtain ⟨descriptor, found⟩ := Option.isSome_iff_exists.1 bearing
  exact ⟨ending.context, registry, descriptor, success, registered, found, passed, by decide,
    mirrors 0 descriptor found⟩

end BuilderSynthesis.Run
