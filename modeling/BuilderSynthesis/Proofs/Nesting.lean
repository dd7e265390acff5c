import BuilderSynthesis.Proofs.Disjoint
import BuilderSynthesis.Proofs.Inventory

/-!
Contract: which types are nested in which after a run, and which classes have builders.

The type of a class contains the nested types that the class has already and then its builder.
A builder contains nothing. Where no two types would have one name, a class has a builder unless
it has a nested type of the name of builders already.

Owns: `Model.NestsByName`, `Contains`, `contains_of_completes` and `Prepared.bears_iff`.
-/

namespace BuilderSynthesis.Code.Model

/-- What is nested in a type goes by the name of that type. -/
def NestsByName (model : Model) : Prop :=
  ∀ id declaration, model.get? id = some declaration → ∀ entry ∈ declaration.nested,
    model.names[entry.2]? = some (declaration.qualifiedName ++ "." ++ entry.1)

variable {model after : Model}

theorem nestsByName_empty : NestsByName {} :=
  fun _ _ found => nomatch found

/-- A type that contains nothing may be added. -/
theorem NestsByName.insert (nests : model.NestsByName) {declaration : Declaration}
    (empty : declaration.nested = []) : (model.insert declaration).NestsByName := by
  intro id other found entry member
  rw [names_insert]
  rcases get?_insert_cases found with old | ⟨-, rfl⟩
  · exact Lists.getElem?_of_isPrefix (List.prefix_append _ _) (nests id other old entry member)
  · rw [empty] at member
    cases member

/-- A change that leaves name and nested types is no matter. -/
theorem NestsByName.update (nests : model.NestsByName) (id : TypeId)
    {change : Declaration → Declaration}
    (named : ∀ declaration, (change declaration).qualifiedName = declaration.qualifiedName)
    (nested : ∀ declaration, (change declaration).nested = declaration.nested) :
    (model.update id change).NestsByName := by
  intro position declaration found entry member
  rw [names_update _ _ named]
  rcases get?_update_cases found with ⟨-, earlier, there, rfl⟩ | ⟨-, there⟩
  · rw [named]
    rw [nested] at member
    exact nests id earlier there entry member
  · exact nests position declaration there entry member

theorem NestsByName.declareNested (nests : model.NestsByName) {outer id : TypeId}
    {header : Header} (granted : model.declareNested outer header = .ok (id, after)) :
    after.NestsByName := by
  obtain ⟨parent, found, -, -, rfl⟩ := declareNested_eq_ok_iff.1 granted
  intro position declaration there entry member
  rw [names_nestIn]
  have kept (added : List String) {id : TypeId} {earlier : Declaration}
      (known : model.get? id = some earlier) (listed : entry ∈ earlier.nested) :
      (model.names ++ added)[entry.2]? = some (earlier.qualifiedName ++ "." ++ entry.1) :=
    Lists.getElem?_of_isPrefix (List.prefix_append _ _) (nests id earlier known entry listed)
  rcases get?_nestIn_cases found there with ⟨-, rfl⟩ | old | ⟨-, rfl⟩
  · rcases List.mem_append.1 member with old | new
    · have listed := kept [parent.qualifiedName ++ "." ++ header.name] found old
      exact listed
    · obtain rfl := List.mem_singleton.1 new
      rw [← length_names, List.getElem?_concat_length]
      rfl
  · exact kept _ old member
  · cases member

end BuilderSynthesis.Code.Model

namespace BuilderSynthesis.Run

open BuilderSynthesis.Builder (Descriptor Nests Workshop allRequests builderTypeName nestedBuilders)
open BuilderSynthesis.Code (Declaration Model TypeId)
open BuilderSynthesis.Schema (ClassId DataClass Hierarchy)

/-! ### Nested types go by the names of the types that contain them -/

theorem nestsByName_declareNestedTypes (dataClass : DataClass) (outer : TypeId)
    (names : List String) {model : Model} (nests : model.NestsByName) :
    (declareNestedTypes dataClass outer names model).1.NestsByName := by
  induction names generalizing model with
  | nil => exact nests
  | cons name rest inductionHypothesis =>
      unfold declareNestedTypes
      cases answer : model.declareNested outer { name := name, isStatic := true } with
      | error conflict => exact inductionHypothesis nests
      | ok result => exact inductionHypothesis (nests.declareNested answer)

theorem nestsByName_declareClasses {classes : List DataClass} {model after : Model}
    {reports : List Diagnostic} (nests : model.NestsByName)
    (success : declareClasses classes model = .ok (after, reports)) : after.NestsByName := by
  induction classes generalizing model reports with
  | nil =>
      cases success
      exact nests
  | cons dataClass rest inductionHypothesis =>
      obtain ⟨middle, first, others, later⟩ := declareClasses_cons_eq_ok_iff.1 ⟨reports, success⟩
      obtain ⟨-, -, rfl⟩ := declareDataClass_eq_ok_iff.1 first
      refine inductionHypothesis ?_ later
      exact nestsByName_declareNestedTypes dataClass _ _ (nests.insert rfl)

theorem nestsByName_declareHierarchy {hierarchy : Hierarchy} {declared : Model}
    {reports : List Diagnostic} (success : declareHierarchy hierarchy = .ok (declared, reports)) :
    declared.NestsByName := by
  obtain ⟨unlinked, declaring, rfl⟩ := declareHierarchy_eq_ok_iff.1 success
  have nests := nestsByName_declareClasses Model.nestsByName_empty declaring
  clear success declaring
  generalize hierarchy.classes = classes
  induction classes generalizing unlinked with
  | nil => exact nests
  | cons dataClass rest inductionHypothesis =>
      refine inductionHypothesis _ ?_
      rw [linkSuperclass_eq]
      cases unlinked.lookup dataClass.name with
      | none => exact nests
      | some id =>
          refine nests.update id (linked_qualifiedName _) fun declaration => ?_
          cases linkTarget hierarchy unlinked dataClass <;> rfl

/-! ### What registering adds -/

section

variable {hierarchy : Hierarchy} {builderName : String} {declared : Model} {registered : Workshop}
  (prepared : Prepared hierarchy builderName declared registered)

include prepared

/-- The type of a class gets at most the builder of the class. -/
theorem Prepared.nestedBuilders_product {id : ClassId} {dataClass : DataClass}
    (known : hierarchy.get? id = some dataClass) :
    nestedBuilders builderName registered.registry.descriptors
        (productId hierarchy registered.model id) =
      if bears hierarchy registered.registry id then
        [(builderName, builderId hierarchy builderName registered.model id)]
      else [] := by
  by_cases bearing : bears hierarchy registered.registry id = true
  · obtain ⟨descriptor, member, -, own⟩ := prepared.entry_of_bears known bearing
    have single := Lists.filter_key_of_nodup prepared.ready.keys member
    have tests : ∀ entry ∈ registered.registry.descriptors,
        (entry.2.product == productId hierarchy registered.model id) =
          (entry.1 == dataClass.name) := by
      intro entry listed
      rw [Bool.eq_iff_iff, beq_iff_eq, beq_iff_eq]
      refine ⟨prepared.key_of_product listed known, fun same => ?_⟩
      obtain rfl := List.inj_on_of_nodup_map prepared.ready.keys listed member same
      rw [prepared.entry_product listed, own]
    unfold nestedBuilders
    rw [List.filter_congr tests, single, if_pos bearing, List.map_singleton,
      (prepared.entry_builder member).2.1, own]
  · rw [if_neg bearing]
    apply Builder.nestedBuilders_eq_nil
    intro entry member same
    exact bearing (prepared.bears_of_key member known
      (prepared.key_of_product member known same))

variable {refused : List DataClass}
  (nests : Nests builderName hierarchy.entries registered.registry.descriptors refused
    ⟨declared, {}⟩ registered)

include nests

theorem Prepared.nestsByName : registered.model.NestsByName := by
  obtain ⟨reports, success⟩ := prepared.reports
  have before := nestsByName_declareHierarchy success
  have builders : ∀ id declaration, registered.model.get? id = some declaration →
      ∀ entry ∈ nestedBuilders builderName registered.registry.descriptors id,
        registered.model.names[entry.2]? = some (declaration.qualifiedName ++ "." ++ entry.1) := by
    intro id declaration found entry member
    obtain ⟨source, listed, rfl⟩ := List.mem_map.1 member
    obtain ⟨listed, here⟩ := List.mem_filter.1 listed
    obtain ⟨product, there, named⟩ := prepared.ready.product source listed
    rw [beq_iff_eq.1 here, found, Option.some.injEq] at there
    obtain ⟨-, -, dataClass, builder, -, name, position, blank⟩ := prepared.entry_builder listed
    unfold Model.names
    rw [List.getElem?_map]
    refine (congrArg (Option.map Declaration.qualifiedName) position).trans ?_
    rw [Option.map_some, blank.named, there, named, ← name]
    rfl
  intro id declaration found entry member
  rcases Nat.lt_or_ge id declared.size with old | new
  · obtain ⟨earlier, there⟩ := Model.exists_get? old
    have grown := nests.earlier id earlier there
    rw [found, Option.some.injEq] at grown
    rw [grown] at member
    rcases List.mem_append.1 member with left | right
    · rw [prepared.names, grown]
      exact Lists.getElem?_of_isPrefix (List.prefix_append _ _) (before id earlier there entry left)
    · exact builders id declaration found entry right
  · have small := Model.get?_eq_some_lt found
    rw [prepared.registers.size] at small
    have listed : id ∈ registered.registry.descriptors.map (fun entry => entry.2.builder) := by
      rw [prepared.registers.builders, List.mem_range'_1]
      exact ⟨new, small⟩
    obtain ⟨source, known, rfl⟩ := List.mem_map.1 listed
    obtain ⟨parent, builder, -, there, -, nested⟩ := nests.builder source known
    rw [found, Option.some.injEq] at there
    rw [there, nested] at member
    exact builders _ declaration found entry member

theorem Prepared.contains_product {id : ClassId} {dataClass : DataClass}
    (known : hierarchy.get? id = some dataClass) :
    ∃ declaration,
      registered.model.get? (productId hierarchy registered.model id) = some declaration ∧
      declaration.package = dataClass.package? ∧ declaration.outer = none ∧
      declaration.nested.map Prod.fst = hostNames dataClass ++
        if bears hierarchy registered.registry id then [builderName] else [] := by
  obtain ⟨reports, success⟩ := prepared.reports
  obtain ⟨type, nested, keys, found⟩ := declareHierarchy_product success
    prepared.distinct_declared (List.mem_of_getElem? known)
  have there := nests.earlier type _ found
  have position := productId_eq prepared.ready.indexed prepared.distinct known there rfl
  subst position
  refine ⟨_, there, rfl, rfl, ?_⟩
  rw [prepared.nestedBuilders_product known, List.map_append]
  refine congrArg₂ (· ++ ·) keys ?_
  split <;> rfl

theorem Prepared.contains_builder {id : ClassId} {dataClass : DataClass}
    (known : hierarchy.get? id = some dataClass)
    (bearing : bears hierarchy registered.registry id = true) :
    ∃ declaration,
      registered.model.get? (builderId hierarchy builderName registered.model id) =
        some declaration ∧
      declaration.package = dataClass.package? ∧ declaration.outer.isSome ∧
      declaration.nested = [] := by
  obtain ⟨descriptor, member, -, own⟩ := prepared.entry_of_bears known bearing
  obtain ⟨parent, declaration, product, builder, package, nested⟩ := nests.builder _ member
  obtain ⟨-, position, source, blank, -, -, found, isBlank⟩ := prepared.entry_builder member
  obtain ⟨outer, there, packaged, -⟩ := prepared.contains_product nests known
  rw [prepared.entry_product member, own, there, Option.some.injEq] at product
  rw [builder, Option.some.injEq] at found
  rw [position, own] at builder
  refine ⟨declaration, builder, ?_, ?_, ?_⟩
  · rw [package, ← product, packaged]
  · rw [found, isBlank.outer]
    rfl
  · rw [nested]
    apply Builder.nestedBuilders_eq_nil
    intro other listed same
    obtain ⟨-, -, source, -, there, -⟩ := prepared.entry_builder listed
    rw [prepared.entry_product listed] at same
    exact prepared.builder_ne member there same.symm

/-! ### Which classes have builders -/

/-- A class that is reported has a nested type of the name of builders. -/
theorem Prepared.nested_of_mem_refused {dataClass : DataClass} (member : dataClass ∈ refused) :
    dataClass ∈ hierarchy.classes ∧ builderName ∈ dataClass.nested := by
  obtain ⟨listed, type, parent, found, named, taken⟩ := nests.reason dataClass member
  rw [Hierarchy.map_snd_entries] at listed
  obtain ⟨id, known⟩ := List.mem_iff_getElem?.1 listed
  have position := productId_eq prepared.ready.indexed prepared.distinct known found named
  obtain ⟨declaration, there, -, -, keys⟩ := prepared.contains_product nests known
  rw [position, found, Option.some.injEq] at there
  rw [there, keys] at taken
  refine ⟨listed, ?_⟩
  rcases List.mem_append.1 taken with host | builder
  · exact (mem_hostNames dataClass builderName).1 host
  · -- No class is both reported and given a builder.
    split at builder
    · rename_i bearing
      obtain ⟨descriptor, registers, -⟩ := prepared.entry_of_bears known bearing
      have apart := nests.each.nodup_iff.2
        (Hierarchy.map_name_entries hierarchy ▸ prepared.classes)
      exact absurd rfl ((List.nodup_append.1 apart).2.2 dataClass.name
        (List.mem_map.2 ⟨_, registers, rfl⟩) dataClass.name
        (List.mem_map.2 ⟨_, member, rfl⟩))
    · cases builder

variable (apart : NamesApart hierarchy builderName)

include apart

theorem Prepared.bears_iff {id : ClassId} {dataClass : DataClass}
    (known : hierarchy.get? id = some dataClass) :
    bears hierarchy registered.registry id = true ↔ builderName ∉ dataClass.nested := by
  obtain ⟨reports, success⟩ := prepared.reports
  have own := List.mem_of_getElem? known
  constructor
  · intro bearing
    obtain ⟨descriptor, member, -⟩ := prepared.entry_of_bears known bearing
    exact not_nested_of_registered apart success prepared.registers member own rfl
  · intro free
    have listed : dataClass.name ∈ hierarchy.entries.map (fun entry => entry.2.name) :=
      List.mem_map.2 ⟨(id, dataClass), (Hierarchy.mem_entries_iff hierarchy _ _).2 known, rfl⟩
    rcases List.mem_append.1 (nests.each.mem_iff.2 listed) with added | reported
    · obtain ⟨entry, member, same⟩ := List.mem_map.1 added
      exact prepared.bears_of_key member known same
    · obtain ⟨other, member, same⟩ := List.mem_map.1 reported
      obtain ⟨there, taken⟩ := prepared.nested_of_mem_refused nests member
      obtain rfl := List.inj_on_of_nodup_map prepared.classes there own same
      exact absurd taken free

/-- The classes that are reported are those with a nested type of the name of builders. -/
theorem Prepared.refused_perm : refused.Perm
    (hierarchy.classes.filter (fun dataClass => builderName ∈ dataClass.nested)) := by
  have once := Hierarchy.map_name_entries hierarchy ▸ prepared.classes
  have distinct := (List.nodup_append.1 (nests.each.nodup_iff.2 once)).2.1.of_map
  refine (List.perm_ext_iff_of_nodup distinct (prepared.classes.of_map.filter _)).2 ?_
  intro dataClass
  rw [List.mem_filter, decide_eq_true_eq]
  constructor
  · exact prepared.nested_of_mem_refused nests
  · rintro ⟨own, taken⟩
    obtain ⟨id, known⟩ := List.mem_iff_getElem?.1 own
    have listed : dataClass.name ∈ hierarchy.entries.map (fun entry => entry.2.name) :=
      List.mem_map.2 ⟨(id, dataClass), (Hierarchy.mem_entries_iff hierarchy _ _).2 known, rfl⟩
    rcases List.mem_append.1 (nests.each.mem_iff.2 listed) with added | reported
    · obtain ⟨entry, member, same⟩ := List.mem_map.1 added
      exact absurd taken ((prepared.bears_iff nests apart known).1
        (prepared.bears_of_key member known same))
    · obtain ⟨other, member, same⟩ := List.mem_map.1 reported
      have there := (prepared.nested_of_mem_refused nests member).1
      obtain rfl := List.inj_on_of_nodup_map prepared.classes there own same
      exact member

/-- There is a builder for each of the other classes. -/
theorem Prepared.length_descriptors : registered.registry.descriptors.length =
    (hierarchy.classes.filter (fun dataClass => builderName ∉ dataClass.nested)).length := by
  have all := nests.each.length_eq
  have size : hierarchy.entries.length = hierarchy.classes.length := by
    rw [← Hierarchy.map_snd_entries, List.length_map]
  rw [List.length_append, List.length_map, List.length_map, List.length_map,
    (prepared.refused_perm nests apart).length_eq, size] at all
  have split := List.length_eq_length_filter_add (l := hierarchy.classes)
    (fun dataClass => decide (builderName ∈ dataClass.nested))
  have others : (fun dataClass : DataClass => !decide (builderName ∈ dataClass.nested)) =
      fun dataClass => decide (builderName ∉ dataClass.nested) := funext fun _ => decide_not.symm
  rw [others] at split
  omega

end

/-! ### After a run -/

/-- What the types of classes and of builders contain. -/
structure Contains (hierarchy : Hierarchy) (builderName : String) (bears : ClassId → Bool)
    (model : Model) : Prop where
  nests : model.NestsByName
  product : ∀ id dataClass, hierarchy.get? id = some dataClass → ∃ declaration,
    model.get? (productId hierarchy model id) = some declaration ∧
    declaration.package = dataClass.package? ∧ declaration.outer = none ∧
    declaration.nested.map Prod.fst =
      hostNames dataClass ++ if bears id then [builderName] else []
  builder : ∀ id dataClass, hierarchy.get? id = some dataClass → bears id = true →
    ∃ declaration, model.get? (builderId hierarchy builderName model id) = some declaration ∧
      declaration.package = dataClass.package? ∧ declaration.outer.isSome ∧
      declaration.nested = []

theorem contains_of_completes {hierarchy : Hierarchy} {config : Config} {workshop : Workshop}
    (completes : Completes hierarchy config workshop) (distinct : workshop.model.names.Nodup) :
    Contains hierarchy config.builderName (bears hierarchy workshop.registry) workshop.model := by
  obtain ⟨declared, registered, prepared, ⟨refused, nests⟩, -, rfl⟩ :=
    prepared_of_completes completes distinct
  let all := allRequests hierarchy config.policy registered
  have found : ∀ {type : TypeId} {declaration : Declaration},
      registered.model.get? type = some declaration →
      (all.foldl Builder.effect registered).model.get? type =
        some (Builder.extended type all declaration) := by
    intro type declaration there
    rw [Builder.get?_foldl_effect, there, Option.map_some]
  rw [bears_foldl_effect]
  constructor
  · intro id declaration there entry member
    rw [Builder.get?_foldl_effect] at there
    obtain ⟨earlier, here, rfl⟩ := Option.map_eq_some_iff.1 there
    rw [Builder.names_foldl_effect]
    exact prepared.nestsByName nests id earlier here entry member
  · intro id dataClass known
    obtain ⟨declaration, there, contains⟩ := prepared.contains_product nests known
    rw [prepared.productId_foldl_effect]
    exact ⟨_, found there, contains⟩
  · intro id dataClass known bearing
    obtain ⟨declaration, there, contains⟩ := prepared.contains_builder nests known bearing
    rw [prepared.builderId_foldl_effect]
    exact ⟨_, found there, contains⟩

section

variable {hierarchy : Hierarchy} {config : Config} {workshop : Workshop}
  (completes : Completes hierarchy config workshop)
  (apart : NamesApart hierarchy config.builderName)

include completes apart

theorem bears_iff_of_completes {id : ClassId} {dataClass : DataClass}
    (known : hierarchy.get? id = some dataClass) :
    bears hierarchy workshop.registry id = true ↔ config.builderName ∉ dataClass.nested := by
  obtain ⟨declared, registered, prepared, ⟨refused, nests⟩, -, rfl⟩ :=
    prepared_of_completes completes (nodup_names completes apart)
  rw [bears_foldl_effect]
  exact prepared.bears_iff nests apart known

theorem size_of_completes : workshop.model.size =
    (hierarchy.classes.flatMap declaredNames).length +
      (hierarchy.classes.filter (fun dataClass =>
        config.builderName ∉ dataClass.nested)).length := by
  obtain ⟨declared, registered, prepared, ⟨refused, nests⟩, -, rfl⟩ :=
    prepared_of_completes completes (nodup_names completes apart)
  obtain ⟨reports, declaring⟩ := prepared.reports
  rw [← Model.length_names, Builder.names_foldl_effect, prepared.names,
    (declareHierarchy_declared declaring).names, List.length_append, List.length_map,
    List.length_map, prepared.length_descriptors nests apart]

end

end BuilderSynthesis.Run
