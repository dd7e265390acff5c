import BuilderSynthesis.Run.Phase

/-!
Contract: a run as one phase after the other.

Around every phase each plugin is called, before and after, in the order of the
plugins. Phases of the user follow the others. The first event that fails is the
last. A run tells what events took place and what the state was at each.

A state is a context, or a context with what else plugins and phases of the user
remember.
-/

namespace BuilderSynthesis.Run

/-- Something that is called around every phase, with the name of the phase. -/
structure Plugin (σ : Type := Context) where
  name : String
  before : String → Step σ
  after : String → Step σ

/-- What takes place in a run. -/
inductive Event where
  | before (plugin phase : String)
  | phase (name : String)
  | after (plugin phase : String)
deriving DecidableEq, Repr

/-- An event with the state that it found. -/
structure Moment (σ : Type := Context) where
  event : Event
  context : σ
deriving Repr

/-- The end of a run or of a part of it: what took place, the state that was left, and the
failure. -/
structure Ending (σ : Type := Context) where
  moments : List (Moment σ)
  context : σ
  failure : Option Failure
deriving Repr

/-- What a run adds to the phases there always are. -/
structure Pipeline (σ : Type := Context) where
  plugins : List (Plugin σ) := []
  phases : List (Phase σ) := []

variable {σ : Type}

namespace Ending

/-- The state after a run that did not fail. -/
def result (ending : Ending σ) : Except Failure σ :=
  match ending.failure with
  | none => .ok ending.context
  | some failure => .error failure

/-- One part of a run and then another, unless the first one failed. -/
def andThen (first : Ending σ) (next : σ → Ending σ) : Ending σ :=
  match first.failure with
  | some _ => first
  | none =>
      let last := next first.context
      { last with moments := first.moments ++ last.moments }

end Ending

def Event.occur (event : Event) (step : Step σ) (state : σ) : Ending σ :=
  let (left, failure) := step state
  ⟨[⟨event, state⟩], left, failure⟩

/-- Does the same with one item after the other, up to the first that fails. -/
def inTurn (act : α → σ → Ending σ) : List α → σ → Ending σ
  | [], state => ⟨[], state, none⟩
  | first :: rest, state => (act first state).andThen (inTurn act rest)

namespace Pipeline

def runPhase (pipeline : Pipeline σ) (phase : Phase σ) (state : σ) : Ending σ :=
  let before := inTurn (fun plugin : Plugin σ =>
    (Event.before plugin.name phase.name).occur (plugin.before phase.name)) pipeline.plugins
  let after := inTurn (fun plugin : Plugin σ =>
    (Event.after plugin.name phase.name).occur (plugin.after phase.name)) pipeline.plugins
  ((before state).andThen ((Event.phase phase.name).occur phase.run)).andThen after

/-- Runs the phases there always are and then those of the user. -/
def runPhases (pipeline : Pipeline σ) (phases : List (Phase σ)) : σ → Ending σ :=
  inTurn pipeline.runPhase (phases ++ pipeline.phases)

def run (pipeline : Pipeline) (manifest : Manifest) : Ending :=
  pipeline.runPhases [.lower, .declare, .register, .generate] (.ofManifest manifest)

def runHierarchy (pipeline : Pipeline) (hierarchy : Schema.Hierarchy) (config : Config) :
    Ending :=
  pipeline.runPhases [.declare, .register, .generate] (.ofHierarchy hierarchy config)

end Pipeline

end BuilderSynthesis.Run
