import BuilderSynthesis.Builder.Generation
import BuilderSynthesis.Run.Declaring

/-!
Contract: the phases of a run.

A run lowers the manifest, declares the classes, registers an empty builder for
each of them and generates the members of the builders. Registering ends before
generating begins. A phase that needs what an earlier one would have left fails
without it.
-/

namespace BuilderSynthesis.Run

structure Phase (σ : Type := Context) where
  name : String
  description : String
  run : Step σ

/-- Takes configuration and hierarchy from the manifest. -/
def lower : Step := fun context =>
  match context.manifest with
  | none => (context, some .noManifest)
  | some manifest =>
      let context := { context with config := .ofManifest manifest }
      match manifest.lower with
      | .error problem => (context, some (.lowering problem))
      | .ok hierarchy => ({ context with hierarchy := some hierarchy }, none)

/-- Declares the classes of the hierarchy, in place of all types there were. -/
def declare : Step := fun context =>
  match context.hierarchy with
  | none => (context, some .noHierarchy)
  | some hierarchy =>
      match declareHierarchy hierarchy with
      | .error failure => (context, some failure)
      | .ok (model, diagnostics) => ({ context with model := model }.report diagnostics, none)

def skippedWarning (skipped : Builder.Skipped) : Diagnostic :=
  { severity := .warning
    phase := "register"
    message := skipped.message
    location := skipped.location.map Schema.Location.text
    className := some skipped.name }

def register : Step := fun context =>
  match context.hierarchy with
  | none => (context, some .noHierarchy)
  | some hierarchy =>
      match Builder.register hierarchy context.model context.config.builderName with
      | (workshop, some failure) =>
          ({ context with model := workshop.model }, some (.building failure))
      | (workshop, none) =>
          ({ context with
              model := workshop.model
              registry := some workshop.registry }.report
            (workshop.registry.skipped.map skippedWarning), none)

def generatedInfo (count : Nat) (policy : Schema.Policy) : Diagnostic :=
  { severity := .info
    phase := "generate"
    message := "generated " ++ toString count ++ " builders (" ++ policy.strategyName ++ ")" }

def generate : Step := fun context =>
  match context.hierarchy with
  | none => (context, some .noHierarchy)
  | some hierarchy =>
      match context.registry with
      | none => (context, some .noRegistry)
      | some registry =>
          match Builder.generate hierarchy context.config.policy ⟨context.model, registry⟩ with
          | (workshop, some failure) =>
              ({ context with
                  model := workshop.model
                  registry := some workshop.registry }, some (.building failure))
          | (workshop, none) =>
              ({ context with
                  model := workshop.model
                  registry := some workshop.registry
                  generated := registry.size }.report
                [generatedInfo registry.size context.config.policy], none)

namespace Phase

def lower : Phase :=
  ⟨"lower", "Transform manifest to class hierarchy", Run.lower⟩

def declare : Phase :=
  ⟨"declare", "Declare product classes in the code model", Run.declare⟩

def register : Phase :=
  ⟨"register", "Declare one builder type per class", Run.register⟩

def generate : Phase :=
  ⟨"generate", "Generate builder members", Run.generate⟩

end Phase

end BuilderSynthesis.Run
