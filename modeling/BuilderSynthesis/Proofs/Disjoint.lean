import BuilderSynthesis.Proofs.Completion
import BuilderSynthesis.Proofs.Synthesis
import Mathlib.Data.List.Dedup
import Mathlib.Data.List.Pairwise

/-!
Contract: manifests in which no two types would get one name.

A class, the types nested in it and its builder have names that start alike, so only names
of different classes can clash; and a builder is not made where its name is taken.

Owns:
- `Manifest.NameDisjoint`, which can be decided;
- `exists_synthesis`, that such a manifest, once accepted, always has its program.
-/

namespace BuilderSynthesis

open Builder (builderTypeName)
open Schema (DataClass Hierarchy)

def typeNames (builderName name : String) (nested : List String) : List String :=
  name :: (builderName :: nested).dedup.map (fun inner => name ++ "." ++ inner)

/-- No two types of a manifest would have one name. -/
def Manifest.NameDisjoint (manifest : Manifest) : Prop :=
  (manifest.classes.flatMap (fun entry => typeNames manifest.settings.builderName
    (manifest.qualifiedName entry) entry.nested)).Nodup

instance (manifest : Manifest) : Decidable manifest.NameDisjoint :=
  inferInstanceAs (Decidable (List.Nodup _))

theorem mem_typeNames_iff {builderName name : String} {nested : List String} {wanted : String} :
    wanted ∈ typeNames builderName name nested ↔
      wanted = name ∨ ∃ inner, (inner = builderName ∨ inner ∈ nested) ∧
        wanted = name ++ "." ++ inner := by
  unfold typeNames
  rw [List.mem_cons, List.mem_map]
  simp only [List.mem_dedup, List.mem_cons, eq_comm (a := wanted)]

/-! ### Policies -/

namespace Manifest

def withPolicy (manifest : Manifest) (policy : Schema.Policy) : Manifest :=
  { manifest with settings := { manifest.settings with policy := policy } }

theorem lineage_withPolicy (manifest : Manifest) (policy : Schema.Policy) (steps : Nat)
    (entry : ClassEntry) :
    (manifest.withPolicy policy).lineage steps entry = manifest.lineage steps entry := by
  induction steps generalizing entry with
  | zero => rfl
  | succ steps inductionHypothesis =>
      rw [lineage, lineage]
      simp only [inductionHypothesis]
      rfl

/-- No check looks at the policy. -/
theorem Accepted.withPolicy {manifest : Manifest} (known : Accepted manifest)
    (policy : Schema.Policy) : Accepted (manifest.withPolicy policy) := by
  refine ⟨known.names, known.superclasses, known.identifiers, known.types, known.fields,
    known.acyclic, ?_⟩
  intro entry member
  unfold visibleProperties
  rw [lineage_withPolicy]
  exact known.stems entry member

end Manifest

namespace Run

/-- No two types of a hierarchy would have one name. -/
def NamesApart (hierarchy : Hierarchy) (builderName : String) : Prop :=
  (hierarchy.classes.flatMap (fun dataClass =>
    typeNames builderName dataClass.name dataClass.nested)).Nodup

section

variable {hierarchy : Hierarchy} {builderName : String}
  (apart : NamesApart hierarchy builderName)

include apart

theorem NamesApart.disjoint {left right : DataClass} (one : left ∈ hierarchy.classes)
    (two : right ∈ hierarchy.classes) {name : String}
    (first : name ∈ typeNames builderName left.name left.nested)
    (second : name ∈ typeNames builderName right.name right.nested) : left = right := by
  by_contra different
  have pairs := (List.nodup_flatMap.1 apart).2
  have symmetric : Std.Symm (Function.onFun List.Disjoint (fun dataClass : DataClass =>
      typeNames builderName dataClass.name dataClass.nested)) :=
    ⟨fun _ _ disjoint => List.Disjoint.symm disjoint⟩
  exact pairs.forall one two different first second

theorem NamesApart.nested_ne {dataClass : DataClass} (member : dataClass ∈ hierarchy.classes)
    {inner : String} (listed : inner = builderName ∨ inner ∈ dataClass.nested) :
    dataClass.name ++ "." ++ inner ≠ dataClass.name := by
  intro same
  have own := (List.nodup_flatMap.1 apart).1 dataClass member
  unfold typeNames at own
  rw [List.nodup_cons] at own
  apply own.1
  refine List.mem_map.2 ⟨inner, ?_, same⟩
  rw [List.mem_dedup, List.mem_cons]
  exact listed

omit apart in
theorem declaredNames_subset (builderName : String) (dataClass : DataClass) :
    declaredNames dataClass ⊆ typeNames builderName dataClass.name dataClass.nested := by
  intro name member
  rw [mem_typeNames_iff]
  rcases List.mem_cons.1 member with same | inside
  · exact .inl same
  · obtain ⟨inner, listed, rfl⟩ := List.mem_map.1 inside
    exact .inr ⟨inner, .inr ((mem_hostNames dataClass inner).1 listed), rfl⟩

theorem NamesApart.nodup_declaredNames : (hierarchy.classes.flatMap declaredNames).Nodup := by
  rw [List.nodup_flatMap]
  constructor
  · intro dataClass member
    unfold declaredNames
    rw [List.nodup_cons]
    constructor
    · intro inside
      obtain ⟨inner, listed, same⟩ := List.mem_map.1 inside
      exact apart.nested_ne member (.inr ((mem_hostNames dataClass inner).1 listed)) same
    · refine (nodup_newNames [] dataClass.nested).map ?_
      intro left right same
      exact (String.append_right_inj _).1 same
  · refine (List.nodup_flatMap.1 apart).2.imp ?_
    intro earlier later disjoint name one two
    exact disjoint (declaredNames_subset builderName earlier one)
      (declaredNames_subset builderName later two)

theorem NamesApart.nested_pairwise :
    hierarchy.classes.Pairwise (fun earlier later =>
      ∀ name ∈ earlier.nested, nestedName earlier name ≠ later.name) := by
  refine (List.nodup_flatMap.1 apart).2.imp ?_
  intro earlier later disjoint name listed same
  have inside : later.name ∈ typeNames builderName earlier.name earlier.nested :=
    mem_typeNames_iff.2 (.inr ⟨name, .inr listed, same.symm⟩)
  exact disjoint inside (mem_typeNames_iff.2 (.inl rfl))

end

section

variable {hierarchy : Hierarchy} {builderName : String}
  (apart : NamesApart hierarchy builderName) {declared : Code.Model} {reports : List Diagnostic}
  (declaring : declareHierarchy hierarchy = .ok (declared, reports))
  {registered : Builder.Workshop} {added : List (String × Builder.Descriptor)}
  (registers : Builder.Registers builderName hierarchy.entries added ⟨declared, {}⟩ registered)

include apart declaring

theorem nodup_names_declared : declared.names.Nodup := by
  rw [(declareHierarchy_declared declaring).names]
  exact apart.nodup_declaredNames

include registers

omit apart declaring in
/-- The class of a registered builder. -/
theorem class_of_registered {entry : String × Builder.Descriptor} (member : entry ∈ added) :
    ∃ dataClass ∈ hierarchy.classes, dataClass.name = entry.1 := by
  obtain ⟨dataClass, there, named, -⟩ := (registers.registered entry member).source
  refine ⟨dataClass, ?_, named⟩
  rw [← Hierarchy.map_snd_entries]
  exact List.mem_map.2 ⟨_, there, rfl⟩

omit declaring in
/-- The product of a registered builder is the type that was declared for its class. -/
theorem product_of_registered {entry : String × Builder.Descriptor} (member : entry ∈ added) :
    declared.names[entry.2.product]? = some entry.1 := by
  obtain ⟨dataClass, own, named⟩ := class_of_registered registers member
  obtain ⟨declaration, found, qualified⟩ := (registers.registered entry member).product
  have name : registered.model.names[entry.2.product]? = some entry.1 := by
    unfold Code.Model.names
    rw [List.getElem?_map]
    exact (congrArg (Option.map Code.Declaration.qualifiedName) found).trans
      (congrArg some qualified)
  rw [registers.names] at name
  rcases Nat.lt_or_ge entry.2.product declared.names.length with small | large
  · rwa [List.getElem?_append_left small] at name
  · rw [List.getElem?_append_right large] at name
    obtain ⟨key, listed, same⟩ := List.mem_map.1 (List.mem_of_getElem? name)
    obtain ⟨other, too, rfl⟩ := List.mem_map.1 listed
    obtain ⟨otherClass, there, otherName⟩ := class_of_registered registers too
    have builder : dataClass.name = otherClass.name ++ "." ++ builderName := by
      rw [named, otherName]
      exact same.symm
    have equal := apart.disjoint own there (mem_typeNames_iff.2 (.inl rfl))
      (mem_typeNames_iff.2 (.inr ⟨builderName, .inl rfl, builder⟩))
    subst equal
    exact absurd builder.symm (apart.nested_ne own (.inl rfl))

/-- A builder is registered only where the class has no nested type of its name. -/
theorem not_nested_of_registered {entry : String × Builder.Descriptor} (member : entry ∈ added)
    {dataClass : DataClass} (own : dataClass ∈ hierarchy.classes)
    (named : dataClass.name = entry.1) : builderName ∉ dataClass.nested := by
  have once := nodup_names_declared apart declaring
  obtain ⟨type, nested, keys, found⟩ := declareHierarchy_product declaring once own
  have product := product_of_registered apart registers member
  have name : declared.names[type]? = some entry.1 := by
    unfold Code.Model.names
    rw [List.getElem?_map, ← named]
    exact congrArg (Option.map Code.Declaration.qualifiedName) found
  have position : type = entry.2.product :=
    (List.getElem?_inj (List.getElem?_eq_some_iff.1 name).1 once).1 (name.trans product.symm)
  have free := (registers.registered entry member).free _ (position ▸ found)
  rw [← mem_hostNames, ← keys]
  exact free

end

/-- The types of a completed run have names of their own. -/
theorem nodup_names {hierarchy : Hierarchy} {config : Config} {workshop : Builder.Workshop}
    (completes : Completes hierarchy config workshop)
    (apart : NamesApart hierarchy config.builderName) : workshop.model.names.Nodup := by
  obtain ⟨declared, reports, registered, added, declaring, -, registers, -, generating⟩ :=
    completes.registered
  have declares := declareHierarchy_declared declaring
  have once := nodup_names_declared apart declaring
  have classes : (hierarchy.classes.map DataClass.name).Nodup :=
    (declares.names ▸ once).sublist names_sublist
  obtain ⟨-, rfl⟩ := Builder.generate_eq_iff.1 generating
  have keys : (added.map Prod.fst).Nodup :=
    classes.sublist (Hierarchy.map_name_entries hierarchy ▸ registers.keys)
  rw [Builder.names_foldl_effect, registers.names, List.nodup_append']
  refine ⟨once, keys.map ?_, ?_⟩
  · intro left right same
    unfold builderTypeName at same
    rw [String.append_left_inj, String.append_left_inj] at same
    exact same
  · rw [List.disjoint_left]
    intro name earlier later
    obtain ⟨key, listed, rfl⟩ := List.mem_map.1 later
    obtain ⟨entry, member, rfl⟩ := List.mem_map.1 listed
    obtain ⟨dataClass, own, named⟩ := class_of_registered registers member
    unfold builderTypeName at earlier
    rw [declares.names, List.mem_flatMap, ← named] at earlier
    obtain ⟨other, too, inside⟩ := earlier
    have equal := apart.disjoint too own (declaredNames_subset config.builderName other inside)
      (mem_typeNames_iff.2 (.inr ⟨config.builderName, .inl rfl, rfl⟩))
    subst equal
    rcases List.mem_cons.1 inside with same | nested
    · exact apart.nested_ne own (.inl rfl) same
    · obtain ⟨inner, host, same⟩ := List.mem_map.1 nested
      have inner := (String.append_right_inj _).1 same
      subst inner
      exact not_nested_of_registered apart declaring registers member own named
        ((mem_hostNames other _).1 host)

/-! ### Programs of manifests -/

/-- What a run on a manifest leaves is the program of a synthesis. -/
structure Provides (manifest : Manifest) (context : Context) (synthesis : Synthesis) : Prop where
  result : (({} : Pipeline).run manifest).result = .ok context
  lowered : manifest.lower = .ok synthesis.hierarchy
  hierarchy : context.hierarchy = some synthesis.hierarchy
  config : synthesis.config = .ofManifest manifest
  model : synthesis.model = context.model
  registry : ∃ registry, context.registry = some registry ∧
    synthesis.bears = bears synthesis.hierarchy registry

/-- An accepted manifest in which no two types would get one name always gets its program. -/
theorem exists_synthesis {manifest : Manifest} (known : manifest.Accepted)
    (disjoint : manifest.NameDisjoint) :
    ∃ context synthesis, Provides manifest context synthesis := by
  obtain ⟨hierarchy, lowered, lowers⟩ := Manifest.lower_succeeds known
  have wellFormed := lowers.wellFormed known
  let names : String × List String → List String :=
    fun entry => typeNames manifest.settings.builderName entry.1 entry.2
  have apart : NamesApart hierarchy manifest.settings.builderName := by
    have same := congrArg (List.flatMap names) lowers.nested
    rw [List.flatMap_map, List.flatMap_map] at same
    unfold NamesApart
    exact same ▸ disjoint
  obtain ⟨workshop, completes⟩ := (completes_iff_declarable (.ofManifest manifest)
    (fun _ member builder => distinctSignatures_own wellFormed member _ builder)).2
      ((declarable_iff wellFormed).2 apart.nested_pairwise)
  have succeeds := (run_failure_eq_none_iff manifest).2 ⟨hierarchy, workshop, lowered, completes⟩
  have result := result_of_failure_eq_none succeeds
  obtain ⟨other, again, reached⟩ := reached_of_run result
  rw [lowered, Except.ok.injEq] at again
  subst again
  obtain ⟨registry, registered, done⟩ := reached.completes
  have program := program_of_completes done (nodup_names done apart) wellFormed.inRange
  exact ⟨_, ⟨hierarchy, .ofManifest manifest, _, _, wellFormed, program⟩, result, lowered,
    reached.known, rfl, rfl, registry, registered, rfl⟩

end Run

end BuilderSynthesis
