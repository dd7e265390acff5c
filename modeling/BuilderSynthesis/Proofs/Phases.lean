import BuilderSynthesis.Proofs.Ancestry
import BuilderSynthesis.Proofs.Bracketing
import BuilderSynthesis.Proofs.Granted

/-!
Contract: what it takes for all phases of a run to succeed.

Owns:
- `registered_ready`, that registering never fails on a declared hierarchy and what it
  leaves is ready for generating;
- `Completes`, the workshop that a run on a hierarchy leaves;
- `reached_of_run` and `reached_of_runHierarchy`, that a run that succeeds leaves one;
- `runHierarchy_succeeds_iff`, that one that leaves one succeeds;
- `completes_iff_declarable`, when there is one.
-/

namespace BuilderSynthesis.Run

open BuilderSynthesis.Builder (Descriptor Nests Ready Registers Workshop)
open BuilderSynthesis.Code (Model)
open BuilderSynthesis.Schema (DataClass Hierarchy)

/-! ### Registering -/

theorem blank_of_registers {builderName : String}
    {entries : List (Schema.ClassId × DataClass)} {added : List (String × Descriptor)}
    {before after : Workshop} (registers : Registers builderName entries added before after)
    (blank : Blank before.model) : Blank after.model := by
  intro type declaration found
  rcases registers.get?_cases found with ⟨earlier, nested, present, rfl⟩ | ⟨_, _, builder⟩
  · exact blank type earlier present
  · rw [builder.methods, builder.fields]
    exact ⟨rfl, List.nodup_nil⟩

/-- What registering leaves of a declared hierarchy is ready. -/
theorem ready_of_registers {hierarchy : Hierarchy} {model : Model} {builderName : String}
    {added : List (String × Descriptor)} {workshop : Workshop}
    (declared : Declared hierarchy model)
    (distinct : (hierarchy.classes.map DataClass.name).Nodup)
    (registers : Registers builderName hierarchy.entries added ⟨model, {}⟩ workshop) :
    Ready hierarchy workshop := by
  have descriptors : workshop.registry.descriptors = added := registers.descriptors
  have keys : (added.map Prod.fst).Nodup :=
    distinct.sublist (Hierarchy.map_name_entries hierarchy ▸ registers.keys)
  constructor
  · exact registers.indexed declared.indexed
  · exact blank_of_registers registers declared.blank
  · rwa [descriptors]
  · rw [descriptors, registers.builders]
    exact List.nodup_range'
  · rw [descriptors]
    refine List.Nodup.map_on ?_ keys.of_map
    intro one first two second same
    obtain ⟨left, foundOne, nameOne⟩ := (registers.registered one first).product
    obtain ⟨right, foundTwo, nameTwo⟩ := (registers.registered two second).product
    rw [same, foundTwo, Option.some.injEq] at foundOne
    rw [foundOne, nameOne] at nameTwo
    exact List.inj_on_of_nodup_map keys first second nameTwo
  · rw [descriptors]
    exact fun entry member => (registers.registered entry member).properties
  · rw [descriptors]
    exact fun entry member => (registers.registered entry member).product
  · rw [descriptors]
    intro entry member
    obtain ⟨dataClass, listed, named, declaration, found, blank⟩ :=
      (registers.registered entry member).source
    exact ⟨dataClass, declaration, (Hierarchy.mem_entries_iff hierarchy _ _).1 listed, named, found,
      blank.fields⟩

/-- Registering builders for a declared hierarchy never fails. -/
theorem registered_ready {hierarchy : Hierarchy} {model : Model} (builderName : String)
    (declared : Declared hierarchy model)
    (distinct : (hierarchy.classes.map DataClass.name).Nodup) :
    ∃ workshop added refused, Builder.register hierarchy model builderName = (workshop, none) ∧
      Registers builderName hierarchy.entries added ⟨model, {}⟩ workshop ∧
      Nests builderName hierarchy.entries added refused ⟨model, {}⟩ workshop ∧
      Ready hierarchy workshop := by
  have known : ∀ entry ∈ hierarchy.entries, entry.2.name ∈ model.names := by
    intro entry member
    rw [declared.names]
    apply names_sublist.subset
    rw [← Hierarchy.map_name_entries]
    exact List.mem_map_of_mem member
  have once : (hierarchy.entries.map (fun entry => entry.2.name)).Nodup :=
    Hierarchy.map_name_entries hierarchy ▸ distinct
  obtain ⟨workshop, added, refused, success, registers, nests⟩ :=
    @Builder.registerAll_registers builderName hierarchy.entries ⟨model, {}⟩ declared.indexed known
      once (fun _ _ unknown => nomatch unknown)
  exact ⟨workshop, added, refused, success, registers, nests,
    ready_of_registers declared distinct registers⟩

/-! ### Runs -/

/-- A run on a hierarchy leaves a workshop. -/
def Completes (hierarchy : Hierarchy) (config : Config) (workshop : Workshop) : Prop :=
  ∃ model reports registered, declareHierarchy hierarchy = .ok (model, reports) ∧
    Builder.register hierarchy model config.builderName = (registered, none) ∧
    Builder.generate hierarchy config.policy registered = (workshop, none)

/-- What registering leaves in a completed run is ready for generating. -/
theorem Completes.registered {hierarchy : Hierarchy} {config : Config} {workshop : Workshop}
    (completes : Completes hierarchy config workshop) :
    ∃ declared reports registered added, declareHierarchy hierarchy = .ok (declared, reports) ∧
      Builder.register hierarchy declared config.builderName = (registered, none) ∧
      Registers config.builderName hierarchy.entries added ⟨declared, {}⟩ registered ∧
      Ready hierarchy registered ∧
      Builder.generate hierarchy config.policy registered = (workshop, none) := by
  obtain ⟨declared, reports, registered, declaring, registering, generating⟩ := completes
  have distinct := ((declareHierarchy_succeeds_iff hierarchy).1 ⟨_, _, declaring⟩).distinct
  obtain ⟨other, added, -, again, registers, -, ready⟩ :=
    registered_ready config.builderName (declareHierarchy_declared declaring) distinct
  rw [registering, Prod.mk.injEq] at again
  obtain ⟨rfl, -⟩ := again
  exact ⟨declared, reports, registered, added, declaring, registering, registers, ready, generating⟩

/-- A context is that of a completed run. -/
structure Reached (hierarchy : Hierarchy) (config : Config) (context : Context) : Prop where
  known : context.hierarchy = some hierarchy
  configured : context.config = config
  completes : ∃ registry, context.registry = some registry ∧
    Completes hierarchy config ⟨context.model, registry⟩

theorem result_of_failure_eq_none {ending : Ending} (succeeds : ending.failure = none) :
    ending.result = .ok ending.context := by
  unfold Ending.result
  rw [succeeds]

def building : List Scheduled :=
  [⟨.phase "declare", declare⟩, ⟨.phase "register", register⟩, ⟨.phase "generate", generate⟩]

theorem perform_building {context : Context} {hierarchy : Hierarchy}
    (known : context.hierarchy = some hierarchy) :
    (∃ failure, (Pipeline.perform building context).failure = some failure ∧
      ∀ workshop, ¬ Completes hierarchy context.config workshop) ∨
    ((Pipeline.perform building context).failure = none ∧
      Reached hierarchy context.config (Pipeline.perform building context).context) := by
  unfold building
  cases first : declareHierarchy hierarchy with
  | error failure =>
      refine .inl ⟨failure, ?_, ?_⟩
      · simp only [Pipeline.perform, declare, known, first]
      · rintro workshop ⟨model, reports, registered, declared, -⟩
        rw [first] at declared
        cases declared
  | ok result =>
      obtain ⟨model, reports⟩ := result
      cases second : Builder.register hierarchy model context.config.builderName with
      | mk registered failure =>
          cases failure with
          | some failure =>
              refine .inl ⟨.building failure, ?_, ?_⟩
              · simp only [Pipeline.perform, declare, known, first, register, Context.report,
                  second]
              · rintro workshop ⟨model, reports, others, declared, all, -⟩
                rw [first] at declared
                cases declared
                rw [second] at all
                cases all
          | none =>
              cases third : Builder.generate hierarchy context.config.policy registered with
              | mk workshop failure =>
                  cases failure with
                  | some failure =>
                      refine .inl ⟨.building failure, ?_, ?_⟩
                      · simp only [Pipeline.perform, declare, known, first, register,
                          Context.report, second, generate, third]
                      · rintro workshop ⟨model, reports, others, declared, all, generated⟩
                        rw [first] at declared
                        cases declared
                        rw [second] at all
                        cases all
                        rw [third] at generated
                        cases generated
                  | none =>
                      right
                      simp only [Pipeline.perform, declare, known, first, register,
                        Context.report, second, generate, third]
                      exact ⟨trivial, rfl, rfl, _, rfl, model, reports, registered, first, second,
                        third⟩

theorem runHierarchy_eq (hierarchy : Hierarchy) (config : Config) :
    ({} : Pipeline).runHierarchy hierarchy config =
      Pipeline.perform building (.ofHierarchy hierarchy config) :=
  runPhases_eq_perform _ _ _

/-- A run on a hierarchy that succeeds leaves the context of a completed run. -/
theorem reached_of_runHierarchy {hierarchy : Hierarchy} {config : Config} {context : Context}
    (success : (({} : Pipeline).runHierarchy hierarchy config).result = .ok context) :
    Reached hierarchy config context := by
  have known : (Context.ofHierarchy hierarchy config).hierarchy = some hierarchy := rfl
  rw [runHierarchy_eq] at success
  unfold Ending.result at success
  rcases perform_building known with ⟨failure, failed, -⟩ | ⟨succeeded, reached⟩
  · rw [failed] at success
    cases success
  · rw [succeeded] at success
    cases success
    exact reached

/-- A run on a hierarchy succeeds exactly if it leaves a workshop. -/
theorem runHierarchy_succeeds_iff (hierarchy : Hierarchy) (config : Config) :
    (∃ context, (({} : Pipeline).runHierarchy hierarchy config).result = .ok context) ↔
      ∃ workshop, Completes hierarchy config workshop := by
  constructor
  · rintro ⟨context, success⟩
    obtain ⟨registry, -, completes⟩ := (reached_of_runHierarchy success).completes
    exact ⟨_, completes⟩
  · rintro ⟨workshop, completes⟩
    have known : (Context.ofHierarchy hierarchy config).hierarchy = some hierarchy := rfl
    rcases perform_building known with ⟨failure, -, never⟩ | ⟨succeeded, -⟩
    · exact absurd completes (never workshop)
    · rw [runHierarchy_eq]
      exact ⟨_, result_of_failure_eq_none succeeded⟩

/-- The context of a run on a manifest that has been lowered. -/
def loweredContext (manifest : Manifest) (hierarchy : Hierarchy) : Context :=
  { manifest := some manifest
    config := Config.ofManifest manifest
    hierarchy := some hierarchy }

theorem run_eq (manifest : Manifest) :
    ({} : Pipeline).run manifest =
      Pipeline.perform (⟨.phase "lower", lower⟩ :: building) (.ofManifest manifest) :=
  runPhases_eq_perform _ _ _

/-- A run on a manifest succeeds exactly if the manifest has a hierarchy and the run on that
completes. -/
theorem run_failure_eq_none_iff (manifest : Manifest) :
    (({} : Pipeline).run manifest).failure = none ↔
      ∃ hierarchy workshop, manifest.lower = .ok hierarchy ∧
        Completes hierarchy (.ofManifest manifest) workshop := by
  rw [run_eq]
  cases lowered : manifest.lower with
  | error problem =>
      simp [Pipeline.perform, lower, Context.ofManifest, lowered]
  | ok hierarchy =>
      simp only [Pipeline.perform, lower, Context.ofManifest, lowered, Except.ok.injEq]
      have known : (loweredContext manifest hierarchy).hierarchy = some hierarchy := rfl
      change (Pipeline.perform building (loweredContext manifest hierarchy)).failure = none ↔ _
      rcases perform_building known with ⟨failure, failed, never⟩ | ⟨succeeded, reached⟩
      · rw [failed]
        constructor
        · intro impossible
          cases impossible
        · rintro ⟨other, workshop, rfl, completes⟩
          exact absurd completes (never workshop)
      · obtain ⟨registry, -, completes⟩ := reached.completes
        exact ⟨fun _ => ⟨hierarchy, _, rfl, completes⟩, fun _ => succeeded⟩

/-- A run on a manifest that succeeds leaves the context of a completed run on its hierarchy. -/
theorem reached_of_run {manifest : Manifest} {context : Context}
    (success : (({} : Pipeline).run manifest).result = .ok context) :
    ∃ hierarchy, manifest.lower = .ok hierarchy ∧
      Reached hierarchy (.ofManifest manifest) context := by
  rw [run_eq] at success
  unfold Ending.result at success
  cases lowered : manifest.lower with
  | error problem =>
      simp [Pipeline.perform, lower, Context.ofManifest, lowered] at success
  | ok hierarchy =>
      simp only [Pipeline.perform, lower, Context.ofManifest, lowered] at success
      have known : (loweredContext manifest hierarchy).hierarchy = some hierarchy := rfl
      rcases perform_building known with ⟨failure, failed, -⟩ | ⟨succeeded, reached⟩
      · unfold loweredContext at failed
        rw [failed] at success
        cases success
      · unfold loweredContext at succeeded
        rw [succeeded] at success
        cases success
        exact ⟨hierarchy, rfl, reached⟩

/-- The run on a hierarchy completes exactly if its classes can be declared, where no class has
two setters of one signature. -/
theorem completes_iff_declarable {hierarchy : Hierarchy} (config : Config)
    (own : ∀ dataClass ∈ hierarchy.classes, ∀ builder, Builder.DistinctSignatures
      ((Builder.ownProperties dataClass).map (Builder.setterOf config.policy builder))) :
    (∃ workshop, Completes hierarchy config workshop) ↔ Declarable [] hierarchy.classes := by
  rw [← declareHierarchy_succeeds_iff]
  constructor
  · rintro ⟨workshop, model, reports, registered, declared, -⟩
    exact ⟨model, reports, declared⟩
  · rintro ⟨model, reports, success⟩
    have declarable := (declareHierarchy_succeeds_iff hierarchy).1 ⟨model, reports, success⟩
    obtain ⟨registered, added, refused, registering, -, -, ready⟩ :=
      registered_ready config.builderName (declareHierarchy_declared success) declarable.distinct
    obtain ⟨workshop, generating⟩ := ready.generate_succeeds declarable.1
      (fun _ _ dataClass known => own dataClass (List.mem_of_getElem? known))
    exact ⟨workshop, model, reports, registered, success, registering, generating⟩

end BuilderSynthesis.Run
