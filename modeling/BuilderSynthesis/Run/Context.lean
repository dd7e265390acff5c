import BuilderSynthesis.Builder.Registry
import BuilderSynthesis.Manifest.Lowering
import BuilderSynthesis.Run.Diagnostic

/-!
Contract: the state of a run, and why a run ends early.

Every phase reads what earlier phases left in the context and adds to it. A phase
that fails leaves a context too: what it changed before the failure stays.
-/

namespace BuilderSynthesis.Run

open BuilderSynthesis.Schema (Hierarchy Policy)

/-- What all phases of a run agree on. -/
structure Config where
  policy : Policy := .direct
  /-- The simple name of builder types. -/
  builderName : String := Manifest.defaultBuilderName
  /-- The directory for generated sources. -/
  output : Option String := none
deriving DecidableEq, Repr, Inhabited

def Config.ofManifest (manifest : Manifest) : Config :=
  ⟨manifest.settings.policy, manifest.settings.builderName, manifest.settings.output⟩

structure Context where
  /-- The manifest, unless the run starts from a hierarchy. -/
  manifest : Option Manifest := none
  config : Config := {}
  hierarchy : Option Hierarchy := none
  model : Code.Model := {}
  registry : Option Builder.Registry := none
  /-- The number of builders that have members. -/
  generated : Nat := 0
  diagnostics : List Diagnostic := []
deriving Repr

namespace Context

def ofManifest (manifest : Manifest) : Context :=
  { manifest := some manifest }

def ofHierarchy (hierarchy : Hierarchy) (config : Config) : Context :=
  { hierarchy := some hierarchy, config := config }

def report (context : Context) (diagnostics : List Diagnostic) : Context :=
  { context with diagnostics := context.diagnostics ++ diagnostics }

def count (context : Context) (severity : Severity) : Nat :=
  (context.diagnostics.filter (fun diagnostic => diagnostic.severity == severity)).length

def worst? (context : Context) : Option Severity :=
  match context.diagnostics with
  | [] => none
  | first :: rest =>
      some (rest.foldl (fun worst diagnostic => worst.worse diagnostic.severity) first.severity)

end Context

inductive Failure where
  | noManifest
  | lowering (problem : Manifest.LoweringProblem)
  | noHierarchy
  | noRegistry
  | declaring (className : String) (conflict : Code.Conflict)
  | building (failure : Builder.Failure)
  /-- A plugin or a phase of the user fails. -/
  | custom (message : String)
deriving DecidableEq, Repr

def Failure.chain : Failure → List String
  | .noManifest => ["no manifest to lower"]
  | .lowering problem => [problem.message]
  | .noHierarchy => ["class model not set - did LowerPhase run?"]
  | .noRegistry => ["builder registry not set - did RegisterPhase run?"]
  | .declaring className conflict =>
      ["declaring class '" ++ className ++ "'", conflict.message]
  | .building failure => failure.chain
  | .custom message => [message]

abbrev Step (σ : Type := Context) := σ → σ × Option Failure

end BuilderSynthesis.Run
