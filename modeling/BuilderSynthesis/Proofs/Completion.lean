import BuilderSynthesis.Proofs.Located
import BuilderSynthesis.Proofs.Lowered
import BuilderSynthesis.Proofs.Phases

/-!
Contract: on which accepted manifests a run succeeds.

Acceptance rules out every failure but one. Names of classes are compared with each other
and not with those of nested types that classes have already; a class whose name is that of
a nested type of an earlier class cannot be declared. In the other order the nested type
comes second, and that is not noticed.
-/

namespace BuilderSynthesis

open Builder (DistinctSignatures ownProperties setterName setterOf)
open Schema (DataClass Hierarchy)

namespace Run

/-- In a well-formed hierarchy no class has two setters of one signature. -/
theorem distinctSignatures_own {hierarchy : Hierarchy} (wellFormed : hierarchy.WellFormed)
    {dataClass : DataClass} (member : dataClass ∈ hierarchy.classes) (policy : Schema.Policy)
    (builder : Code.TypeRef) :
    DistinctSignatures ((ownProperties dataClass).map (setterOf policy builder)) := by
  have stems := List.pairwise_map.1 (wellFormed.own_stems member)
  unfold DistinctSignatures ownProperties
  rw [List.map_map, List.pairwise_map]
  refine stems.imp ?_
  intro earlier later different
  apply Builder.sameSignature_of_name_ne
  intro same
  exact different (Builder.propertyStem_eq_of_setterName_eq same)

/-- In a well-formed hierarchy classes can be declared if none is named as a nested type of one
before it. -/
theorem declarable_iff {hierarchy : Hierarchy} (wellFormed : hierarchy.WellFormed) :
    Declarable [] hierarchy.classes ↔
      hierarchy.classes.Pairwise (fun earlier later =>
        ∀ name ∈ earlier.nested, nestedName earlier name ≠ later.name) := by
  have names := List.pairwise_map.1 wellFormed.names
  have pair : ∀ earlier later : DataClass, later.name ∉ declaredNames earlier ↔
      later.name ≠ earlier.name ∧
        ∀ name ∈ earlier.nested, nestedName earlier name ≠ later.name := by
    intro earlier later
    simp only [declaredNames, List.mem_cons, List.mem_map, mem_hostNames, not_or, not_exists,
      not_and]
  unfold Declarable
  simp only [pair]
  constructor
  · rintro ⟨-, -, apart⟩
    exact apart.imp fun both => both.2
  · intro apart
    refine ⟨wellFormed.fields, fun _ _ => List.not_mem_nil, ?_⟩
    exact names.and apart |>.imp fun both => ⟨both.1.symm, both.2⟩

/-- A manifest that was accepted can be run exactly if no class is named as a nested type of a
class before it. -/
theorem run_succeeds_iff {file source : String} {manifest : Manifest}
    (accepted : Manifest.read file source = .ok manifest) :
    (({} : Pipeline).run manifest).failure = none ↔
      manifest.classes.Pairwise (fun earlier later => ∀ name ∈ earlier.nested,
        manifest.qualifiedName earlier ++ "." ++ name ≠ manifest.qualifiedName later) := by
  have known := Manifest.accepted_of_validate (Manifest.validate_of_read accepted)
  obtain ⟨hierarchy, lowered, lowers⟩ := Manifest.lower_succeeds known
  have wellFormed := lowers.wellFormed known
  have completes := completes_iff_declarable (.ofManifest manifest)
    (fun _ member builder => distinctSignatures_own wellFormed member _ builder)
  have both : (({} : Pipeline).run manifest).failure = none ↔
      Declarable [] hierarchy.classes := by
    rw [run_failure_eq_none_iff, ← completes]
    constructor
    · rintro ⟨other, workshop, same, done⟩
      rw [lowered] at same
      cases same
      exact ⟨workshop, done⟩
    · rintro ⟨workshop, done⟩
      exact ⟨hierarchy, workshop, lowered, done⟩
  let apart : String × List String → String × List String → Prop :=
    fun earlier later => ∀ name ∈ earlier.2, earlier.1 ++ "." ++ name ≠ later.1
  have pairs : (hierarchy.classes.map (fun dataClass =>
      (dataClass.name, dataClass.nested))).Pairwise apart ↔
        (manifest.classes.map (fun entry =>
          (manifest.qualifiedName entry, entry.nested))).Pairwise apart := by
    rw [lowers.nested]
  rw [List.pairwise_map, List.pairwise_map] at pairs
  rw [both, declarable_iff wellFormed]
  exact pairs

/-- A class with a nested type, and after it a class of that name. -/
def clashingSource : String :=
  "[[class]]\nname = \"A\"\nnested = [\"B\"]\n\n[[class]]\nname = \"A.B\"\n"

/-- The same two classes in the other order. -/
def orderedSource : String :=
  "[[class]]\nname = \"A.B\"\n\n[[class]]\nname = \"A\"\nnested = [\"B\"]\n"

def manifestIn (source : String) : Manifest :=
  match Manifest.read "fluent.toml" source with
  | .ok manifest => manifest
  | .error _ => {}

theorem run_succeeds_in_order :
    Manifest.read "fluent.toml" orderedSource = .ok (manifestIn orderedSource) ∧
      (({} : Pipeline).run (manifestIn orderedSource)).failure = none := by
  have accepted : Manifest.read "fluent.toml" orderedSource = .ok (manifestIn orderedSource) := by
    decide +kernel
  refine ⟨accepted, (run_succeeds_iff accepted).2 ?_⟩
  decide +kernel

theorem not_every_accepted_manifest_runs :
    ¬ ∀ file source manifest, Manifest.read file source = .ok manifest →
      (({} : Pipeline).run manifest).failure = none := by
  intro always
  have accepted : Manifest.read "fluent.toml" clashingSource = .ok (manifestIn clashingSource) := by
    decide +kernel
  have fails : (({} : Pipeline).run (manifestIn clashingSource)).failure =
      some (.declaring "A.B" (.type "A.B")) := by
    decide +kernel
  rw [always _ _ _ accepted] at fails
  cases fails

end Run

end BuilderSynthesis
