import BuilderSynthesis.Proofs.Completion
import BuilderSynthesis.Proofs.Reaching

/-!
Contract: what each type of a run is there for, whatever names the types have.

A type is that of a class, a nested type that a class has already, or a builder. The first are in
no other type and the second in the first. A builder is in the type that the name of its class
finds, which may be any of the three.

Owns: `TypeRole`, `Completes.role` and, the other way round, `Completes.exists_product`;
`completes_of_accepted`, by which both apply to manifests.
-/

namespace BuilderSynthesis.Run

open BuilderSynthesis.Builder (Descriptor Nests Registers Workshop builderHeader builderTypeName)
open BuilderSynthesis.Code (Declaration Model TypeId)
open BuilderSynthesis.Schema (ClassId DataClass Hierarchy)

inductive TypeRole (hierarchy : Hierarchy) (builderName : String) (model : Model)
    (declaration : Declaration) : Prop where
  /-- The type of a class. -/
  | product {dataClass : DataClass} (known : dataClass ∈ hierarchy.classes)
      (header : declaration.header = classHeader dataClass)
      (named : declaration.qualifiedName = dataClass.name)
      (outermost : declaration.outer = none)
  /-- A nested type that a class has already, in the type of the class. -/
  | host {dataClass : DataClass} {name : String} {outer : TypeId} {parent : Declaration}
      (known : dataClass ∈ hierarchy.classes) (listed : name ∈ dataClass.nested)
      (header : declaration.header = { name := name, isStatic := true })
      (named : declaration.qualifiedName = nestedName dataClass name)
      (inside : declaration.outer = some outer) (found : model.get? outer = some parent)
      (above : parent.header = classHeader dataClass) (outermost : parent.outer = none)
  /-- A builder, in a type of the name of its class. -/
  | builder {dataClass : DataClass} {product : TypeId} {parent : Declaration}
      (known : dataClass ∈ hierarchy.classes)
      (header : declaration.header = builderHeader dataClass builderName)
      (named : declaration.qualifiedName = builderTypeName builderName dataClass.name)
      (inside : declaration.outer = some product) (found : model.get? product = some parent)
      (above : parent.qualifiedName = dataClass.name)

def AllRoles (hierarchy : Hierarchy) (builderName : String) (model : Model) : Prop :=
  ∀ id declaration, model.get? id = some declaration →
    TypeRole hierarchy builderName model declaration

section

variable {hierarchy : Hierarchy} {builderName : String}

/-- Types keep their roles while more is declared. -/
theorem TypeRole.extends {before after : Model} {earlier later : Declaration}
    (role : TypeRole hierarchy builderName before earlier) (grows : later.Extends earlier)
    (continues : before.Continues after) : TypeRole hierarchy builderName after later := by
  cases role with
  | product known header named outermost =>
      exact .product known (grows.header.trans header) (grows.named.trans named)
        (grows.outer.trans outermost)
  | host known listed header named inside found above outermost =>
      obtain ⟨parent, there, more⟩ := continues _ _ found
      exact .host known listed (grows.header.trans header) (grows.named.trans named)
        (grows.outer.trans inside) there (more.header.trans above) (more.outer.trans outermost)
  | builder known header named inside found above =>
      obtain ⟨parent, there, more⟩ := continues _ _ found
      exact .builder known (grows.header.trans header) (grows.named.trans named)
        (grows.outer.trans inside) there (more.named.trans above)

/-- A type that was there before keeps its role. -/
theorem AllRoles.later {before after : Model} (roles : AllRoles hierarchy builderName before)
    (continues : before.Continues after) {id : TypeId} (old : id < before.size)
    {declaration : Declaration} (found : after.get? id = some declaration) :
    TypeRole hierarchy builderName after declaration := by
  obtain ⟨earlier, there⟩ := Model.exists_get? old
  obtain ⟨later, still, grows⟩ := continues id earlier there
  rw [found, Option.some.injEq] at still
  exact (roles id earlier there).extends (still ▸ grows) continues

/-- Where no type is added, all types keep their roles. -/
theorem AllRoles.continues {before after : Model} (roles : AllRoles hierarchy builderName before)
    (continues : before.Continues after) (size : after.size = before.size) :
    AllRoles hierarchy builderName after :=
  fun _ _ found => roles.later continues (size ▸ Model.get?_eq_some_lt found) found

/-- A class brings its type and the nested types that it has already. -/
theorem AllRoles.declareDataClass {dataClass : DataClass} {model : Model}
    {result : Model × List Diagnostic} (roles : AllRoles hierarchy builderName model)
    (coherent : model.Coherent) (known : dataClass ∈ hierarchy.classes)
    (declared : declareDataClass dataClass model = .ok result) :
    AllRoles hierarchy builderName result.1 := by
  have continues : model.Continues result.1 :=
    (coherent.steps (steps_declareDataClass declared)).2
  obtain ⟨-, -, rfl⟩ := declareDataClass_eq_ok_iff.1 declared
  have there := Model.get?_insert_size model (productDeclaration dataClass [])
  have size := Model.size_insert model (productDeclaration dataClass [])
  have adds := declareNestedTypes_adds there rfl rfl dataClass.nested
  obtain ⟨nested, -, product⟩ := adds.listed _ there
  intro id declaration found
  rcases Nat.lt_trichotomy id model.size with old | rfl | new
  · exact roles.later continues old found
  · rw [product, Option.some.injEq] at found
    exact found ▸ .product known rfl rfl rfl
  · obtain ⟨name, listed, rfl⟩ := adds.fresh id declaration (by omega) found
    have mentioned := ((mem_newNames _ _ _).1 listed).1
    exact .host known mentioned rfl rfl rfl product rfl rfl

theorem AllRoles.declareClasses {classes : List DataClass} {model after : Model}
    {reports : List Diagnostic} (roles : AllRoles hierarchy builderName model)
    (coherent : model.Coherent) (known : classes ⊆ hierarchy.classes)
    (declared : declareClasses classes model = .ok (after, reports)) :
    AllRoles hierarchy builderName after := by
  induction classes generalizing model reports with
  | nil =>
      cases declared
      exact roles
  | cons dataClass rest inductionHypothesis =>
      obtain ⟨middle, first, others, later⟩ := declareClasses_cons_eq_ok_iff.1 ⟨reports, declared⟩
      rw [List.cons_subset] at known
      exact inductionHypothesis (roles.declareDataClass coherent known.1 first)
        (coherent.steps (steps_declareDataClass first)).1 known.2 later

theorem size_foldl_linkSuperclass (hierarchy : Hierarchy) (classes : List DataClass)
    (model : Model) : (classes.foldl (linkSuperclass hierarchy) model).size = model.size := by
  induction classes generalizing model with
  | nil => rfl
  | cons dataClass rest inductionHypothesis =>
      rw [List.foldl_cons, inductionHypothesis, ← Model.length_names, names_linkSuperclass,
        Model.length_names]

theorem allRoles_declareHierarchy {declared : Model} {reports : List Diagnostic}
    (success : declareHierarchy hierarchy = .ok (declared, reports)) :
    AllRoles hierarchy builderName declared := by
  obtain ⟨unlinked, declaring, rfl⟩ := declareHierarchy_eq_ok_iff.1 success
  have reached : unlinked.Reached := steps_declareClasses declaring
  have none' : AllRoles hierarchy builderName {} := by
    intro id declaration found
    cases found
  have roles := none'.declareClasses Model.coherent_empty (List.Subset.refl _) declaring
  have steps := steps_foldl_linkSuperclass hierarchy hierarchy.classes reached
  exact roles.continues (reached.coherent.steps steps).2 (size_foldl_linkSuperclass hierarchy _ _)

/-- Registering brings builders. -/
theorem AllRoles.registers {added : List (String × Descriptor)} {before after : Workshop}
    (roles : AllRoles hierarchy builderName before.model)
    (registers : Registers builderName hierarchy.entries added before after)
    (continues : before.model.Continues after.model) :
    AllRoles hierarchy builderName after.model := by
  intro id declaration found
  rcases Nat.lt_or_ge id before.model.size with old | new
  · exact roles.later continues old found
  · have small := Model.get?_eq_some_lt found
    rw [registers.size] at small
    have listed : id ∈ added.map (fun entry => entry.2.builder) := by
      rw [registers.builders, List.mem_range'_1]
      exact ⟨new, small⟩
    obtain ⟨entry, member, rfl⟩ := List.mem_map.1 listed
    have registered := registers.registered entry member
    obtain ⟨dataClass, source, key, builder, there, blank⟩ := registered.source
    obtain ⟨parent, product, named⟩ := registered.product
    rw [found, Option.some.injEq] at there
    subst there
    have known := List.mem_of_getElem? ((Hierarchy.mem_entries_iff hierarchy _ _).1 source)
    exact .builder known blank.header blank.named blank.outer product (named.trans key.symm)

end

section

variable {hierarchy : Hierarchy} {config : Config} {workshop : Workshop}
  (completes : Completes hierarchy config workshop)

include completes

/-- What a run declares before it generates anything stays, and grows in the further phases. -/
theorem Completes.stages : ∃ declared reports registered added refused,
    declareHierarchy hierarchy = .ok (declared, reports) ∧
    Registers config.builderName hierarchy.entries added ⟨declared, {}⟩ registered ∧
    Nests config.builderName hierarchy.entries added refused ⟨declared, {}⟩ registered ∧
    declared.Continues registered.model ∧ registered.model.Continues workshop.model ∧
    workshop.model.size = registered.model.size := by
  obtain ⟨declared, reports, registered, declaring, registering, generating⟩ := completes
  have distinct := ((declareHierarchy_succeeds_iff hierarchy).1 ⟨_, _, declaring⟩).distinct
  obtain ⟨other, added, refused, again, registers, nests, ready⟩ :=
    registered_ready config.builderName (declareHierarchy_declared declaring) distinct
  rw [registering, Prod.mk.injEq] at again
  obtain ⟨rfl, -⟩ := again
  obtain ⟨granted, rfl⟩ := Builder.generate_eq_iff.1 generating
  have first := steps_register registering
  have second := steps_foldl_effect granted fun _ member _ => types_of_mem_allRequests ready member
  obtain ⟨coherent, continues⟩ := (reached_declareHierarchy declaring).coherent.steps first
  refine ⟨declared, reports, registered, added, refused, declaring, registers, nests, continues,
    (coherent.steps second).2, ?_⟩
  rw [← Model.length_names, Builder.names_foldl_effect, Model.length_names]

/-- Every type of a run has a role. -/
theorem Completes.role {id : TypeId} {declaration : Declaration}
    (found : workshop.model.get? id = some declaration) :
    TypeRole hierarchy config.builderName workshop.model declaration := by
  obtain ⟨declared, reports, registered, added, refused, declaring, registers, -, first, second,
    size⟩ := completes.stages
  have roles : AllRoles hierarchy config.builderName registered.model :=
    AllRoles.registers (allRoles_declareHierarchy declaring) registers first
  exact roles.continues second size id declaration found

/-- Every class has a type, with the fields and the nested types of the class. -/
theorem Completes.exists_product {dataClass : DataClass} (known : dataClass ∈ hierarchy.classes) :
    ∃ id declaration, workshop.model.get? id = some declaration ∧
      declaration.header = classHeader dataClass ∧ declaration.qualifiedName = dataClass.name ∧
      declaration.outer = none ∧ dataClass.fields.map declaredField <+: declaration.fields ∧
      dataClass.nested ⊆ declaration.nested.map Prod.fst := by
  obtain ⟨declared, reports, registered, added, refused, declaring, -, -, first, second, -⟩ :=
    completes.stages
  obtain ⟨unlinked, declares, rfl⟩ := declareHierarchy_eq_ok_iff.1 declaring
  obtain ⟨id, nested, keys, there⟩ := (declareClasses_declares declares).product dataClass known
  have reached : unlinked.Reached := steps_declareClasses declares
  have linked := (reached.coherent.steps
    (steps_foldl_linkSuperclass hierarchy hierarchy.classes reached)).2
  obtain ⟨declaration, found, grows⟩ := (linked.trans (first.trans second)) id _ there
  refine ⟨id, declaration, found, grows.header, grows.named, grows.outer, grows.fields, ?_⟩
  intro name listed
  have host : name ∈ nested.map Prod.fst := keys ▸ (mem_hostNames dataClass name).2 listed
  exact (grows.nested.map Prod.fst).subset host

/-- Some type of the name of a class has a nested type of the name of builders. -/
theorem Completes.exists_bearer {dataClass : DataClass} (known : dataClass ∈ hierarchy.classes) :
    ∃ id declaration, workshop.model.get? id = some declaration ∧
      declaration.qualifiedName = dataClass.name ∧
      config.builderName ∈ declaration.nested.map Prod.fst := by
  obtain ⟨declared, reports, registered, added, refused, declaring, registers, nests, -, second,
    -⟩ := completes.stages
  have each : dataClass.name ∈ added.map Prod.fst ++ refused.map DataClass.name := by
    rw [nests.each.mem_iff, Hierarchy.map_name_entries]
    exact List.mem_map_of_mem known
  rcases List.mem_append.1 each with bears | lacks
  · obtain ⟨entry, member, key⟩ := List.mem_map.1 bears
    have entered := registers.registered entry member
    obtain ⟨_, -, -, builder, there, blank⟩ := entered.source
    obtain ⟨product, found, named⟩ := entered.product
    obtain ⟨later, still, grows⟩ := second _ builder there
    obtain ⟨-, parent, above, listed⟩ :=
      completes.reached.coherent.outer still (grows.outer.trans blank.outer)
    obtain ⟨parentLater, parentStill, parentGrows⟩ := second _ product found
    rw [above, Option.some.injEq] at parentStill
    obtain ⟨⟨name, position⟩, inside, rfl⟩ := List.mem_map.1 listed
    obtain ⟨own, here, nested⟩ := completes.reached.coherent.nested above _ inside
    rw [still, Option.some.injEq] at here
    have simple : own.name = name := nested.simple
    have called : name = config.builderName := by
      rw [← simple, ← here, Declaration.name, grows.header, blank.header]
      rfl
    refine ⟨_, parent, above, ?_, called ▸ List.mem_map_of_mem inside⟩
    rw [parentStill, parentGrows.named, named, key]
  · obtain ⟨other, member, same⟩ := List.mem_map.1 lacks
    obtain ⟨-, id, parent, found, named, taken⟩ := nests.reason other member
    obtain ⟨later, still, grows⟩ := second id parent found
    exact ⟨id, later, still, (grows.named.trans named).trans same,
      (grows.nested.map Prod.fst).subset taken⟩

end

/-- A run on an accepted manifest that succeeds completes on the hierarchy of the manifest. -/
theorem completes_of_accepted {manifest : Manifest} {context : Context}
    (accepted : manifest.validate = .ok ())
    (success : (({} : Pipeline).run manifest).result = .ok context) :
    ∃ hierarchy registry, manifest.lower = .ok hierarchy ∧ manifest.LowersTo hierarchy ∧
      Completes hierarchy (.ofManifest manifest) ⟨context.model, registry⟩ := by
  obtain ⟨hierarchy, lowered, reached⟩ := reached_of_run success
  obtain ⟨other, again, lowers⟩ := Manifest.lower_succeeds (Manifest.accepted_of_validate accepted)
  rw [lowered, Except.ok.injEq] at again
  subst again
  obtain ⟨registry, -, completes⟩ := reached.completes
  exact ⟨hierarchy, registry, lowered, lowers, completes⟩

end BuilderSynthesis.Run
