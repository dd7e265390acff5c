import BuilderSynthesis.Run.Pipeline

/-!
Contract: the events of a run, in order, up to the first that fails.

A run consists of loops, one over the phases and two over the plugins around each phase, and any of
them can end early. Taken together they come to a single list of events, of which each finds the
state that the events before it left, and the first that fails is the last. This is so for states of
any kind, so also where plugins remember what they saw; `brackets_perform` says it of events in any
order.

Owns: `bracketed` and `runPhases_eq_perform`, that the loops are the list; `contextAfter`,
`failureAt?`, `FailsFirst` and `Brackets`; `hooks_bracket_phases`.
-/

namespace BuilderSynthesis.Run

variable {σ : Type}

/-- An event with the step that it takes. -/
structure Scheduled (σ : Type := Context) where
  event : Event
  step : Step σ

/-- Lets events take place up to the first that fails. -/
def Pipeline.perform : List (Scheduled σ) → σ → Ending σ
  | [], state => ⟨[], state, none⟩
  | scheduled :: rest, state =>
      let moment : Moment σ := ⟨scheduled.event, state⟩
      match scheduled.step state with
      | (left, some failure) => ⟨[moment], left, some failure⟩
      | (left, none) =>
          let ending := perform rest left
          { ending with moments := moment :: ending.moments }

def Ending.events (ending : Ending σ) : List Event :=
  ending.moments.map Moment.event

/-- The phases in order, each between the hooks of all plugins before it and the hooks of all
plugins after it. -/
def bracketed (plugins : List (Plugin σ)) (phases : List (Phase σ)) : List (Scheduled σ) :=
  phases.flatMap fun phase =>
    plugins.map (fun plugin => ⟨.before plugin.name phase.name, plugin.before phase.name⟩) ++
      ⟨.phase phase.name, phase.run⟩ ::
        plugins.map (fun plugin => ⟨.after plugin.name phase.name, plugin.after phase.name⟩)

def contextAfter (scheduled : List (Scheduled σ)) (start : σ) : σ :=
  scheduled.foldl (fun context one => (one.step context).1) start

/-- The failure of the event at a position, in the context that all events before it leave. -/
def failureAt? (scheduled : List (Scheduled σ)) (start : σ) (position : Nat) : Option Failure :=
  scheduled[position]?.bind fun one => (one.step (contextAfter (scheduled.take position) start)).2

/-- An event fails and none before it does. -/
def FailsFirst (scheduled : List (Scheduled σ)) (start : σ) (position : Nat)
    (failure : Failure) : Prop :=
  failureAt? scheduled start position = some failure ∧
    ∀ earlier < position, failureAt? scheduled start earlier = none

/-- Events take place in an order up to the first that fails, and all of them if none does. -/
structure Brackets (order : List (Scheduled σ)) (start : σ) (ending : Ending σ) : Prop where
  /-- Nothing takes place out of order. -/
  begins : ending.events <+: order.map Scheduled.event
  /-- Each event finds what those before it left. -/
  finds : ∀ position moment, ending.moments[position]? = some moment →
    moment.context = contextAfter (order.take position) start
  /-- If nothing fails, then everything takes place. -/
  whole : (∀ position, failureAt? order start position = none) →
    ending.events = order.map Scheduled.event ∧ ending.result = .ok (contextAfter order start)
  /-- The first event that fails is the last, and its failure is the result. -/
  stops : ∀ position failure, FailsFirst order start position failure →
    ending.events = (order.take (position + 1)).map Scheduled.event ∧
      ending.result = .error failure

/-! ### One event -/

section Step

variable (first : Scheduled σ) (rest : List (Scheduled σ)) (start : σ)

theorem failureAt?_zero : failureAt? (first :: rest) start 0 = (first.step start).2 := rfl

theorem failureAt?_succ (position : Nat) :
    failureAt? (first :: rest) start (position + 1) =
      failureAt? rest (first.step start).1 position := by
  simp [failureAt?, contextAfter]

variable {first start}

/-- The event that fails is the last. -/
theorem perform_of_fails {failure : Failure} (fails : (first.step start).2 = some failure) :
    Pipeline.perform (first :: rest) start =
      ⟨[⟨first.event, start⟩], (first.step start).1, some failure⟩ := by
  unfold Pipeline.perform
  split <;> simp_all

/-- After an event that does not fail the others take place. -/
theorem perform_of_succeeds (succeeds : (first.step start).2 = none) :
    Pipeline.perform (first :: rest) start =
      ⟨⟨first.event, start⟩ :: (Pipeline.perform rest (first.step start).1).moments,
        (Pipeline.perform rest (first.step start).1).context,
        (Pipeline.perform rest (first.step start).1).failure⟩ := by
  rw [Pipeline.perform]
  split <;> simp_all

/-- The first of several events does not fail first where it does not fail. -/
theorem failsFirst_succ_iff (succeeds : (first.step start).2 = none) {position : Nat}
    {failure : Failure} :
    FailsFirst (first :: rest) start (position + 1) failure ↔
      FailsFirst rest (first.step start).1 position failure := by
  unfold FailsFirst
  rw [failureAt?_succ, Nat.forall_lt_succ_left, failureAt?_zero]
  simp only [failureAt?_succ, succeeds, true_and]

end Step

/-! ### All events -/

theorem events_perform_isPrefix (scheduled : List (Scheduled σ)) (start : σ) :
    (Pipeline.perform scheduled start).events <+: scheduled.map Scheduled.event := by
  induction scheduled generalizing start with
  | nil => exact List.prefix_rfl
  | cons first rest inductionHypothesis =>
      cases outcome : (first.step start).2 with
      | none =>
          rw [perform_of_succeeds rest outcome]
          simpa [Ending.events] using inductionHypothesis (first.step start).1
      | some failure =>
          rw [perform_of_fails rest outcome]
          simp [Ending.events]

theorem context_moments_perform (scheduled : List (Scheduled σ)) (start : σ) {position : Nat}
    {moment : Moment σ}
    (found : (Pipeline.perform scheduled start).moments[position]? = some moment) :
    moment.context = contextAfter (scheduled.take position) start := by
  induction scheduled generalizing start position with
  | nil => simp [Pipeline.perform] at found
  | cons first rest inductionHypothesis =>
      cases position with
      | zero =>
          have front : moment = ⟨first.event, start⟩ := by
            cases outcome : (first.step start).2 with
            | none => simpa [perform_of_succeeds rest outcome] using found.symm
            | some failure => simpa [perform_of_fails rest outcome] using found.symm
          simp [front, contextAfter]
      | succ position =>
          cases outcome : (first.step start).2 with
          | none =>
              rw [perform_of_succeeds rest outcome, List.getElem?_cons_succ] at found
              simpa [contextAfter] using inductionHypothesis (first.step start).1 found
          | some failure => simp [perform_of_fails rest outcome] at found

theorem perform_of_no_failure (scheduled : List (Scheduled σ)) (start : σ)
    (never : ∀ position, failureAt? scheduled start position = none) :
    (Pipeline.perform scheduled start).events = scheduled.map Scheduled.event ∧
      (Pipeline.perform scheduled start).result = .ok (contextAfter scheduled start) := by
  induction scheduled generalizing start with
  | nil => exact ⟨rfl, rfl⟩
  | cons first rest inductionHypothesis =>
      have later : ∀ position, failureAt? rest (first.step start).1 position = none := by
        intro position
        rw [← failureAt?_succ]
        exact never (position + 1)
      obtain ⟨events, result⟩ := inductionHypothesis (first.step start).1 later
      have succeeds : (first.step start).2 = none := never 0
      rw [perform_of_succeeds rest succeeds]
      constructor
      · simpa [Ending.events] using events
      · exact result

theorem perform_of_failsFirst (scheduled : List (Scheduled σ)) (start : σ) {position : Nat}
    {failure : Failure} (fails : FailsFirst scheduled start position failure) :
    (Pipeline.perform scheduled start).events =
        (scheduled.take (position + 1)).map Scheduled.event ∧
      (Pipeline.perform scheduled start).result = .error failure := by
  induction scheduled generalizing start position with
  | nil => simp [FailsFirst, failureAt?] at fails
  | cons first rest inductionHypothesis =>
      cases position with
      | zero =>
          have outcome : (first.step start).2 = some failure := fails.1
          rw [perform_of_fails rest outcome]
          exact ⟨by simp [Ending.events], rfl⟩
      | succ position =>
          have succeeds : (first.step start).2 = none := fails.2 0 (Nat.succ_pos position)
          rw [failsFirst_succ_iff rest succeeds] at fails
          obtain ⟨events, result⟩ := inductionHypothesis (first.step start).1 fails
          rw [perform_of_succeeds rest succeeds]
          constructor
          · simpa [Ending.events] using events
          · exact result

/-- Events take place in their order, whatever steps they take. -/
theorem brackets_perform (order : List (Scheduled σ)) (start : σ) :
    Brackets order start (Pipeline.perform order start) where
  begins := events_perform_isPrefix order start
  finds := fun _ _ found => context_moments_perform order start found
  whole := perform_of_no_failure order start
  stops := fun _ _ fails => perform_of_failsFirst order start fails

/-! ### Loops -/

section AndThen

variable {one : Ending σ} (two three : σ → Ending σ)

theorem andThen_of_fails {failure : Failure} (fails : one.failure = some failure) :
    one.andThen two = one := by
  unfold Ending.andThen
  rw [fails]

theorem andThen_of_succeeds (succeeds : one.failure = none) :
    one.andThen two =
      ⟨one.moments ++ (two one.context).moments, (two one.context).context,
        (two one.context).failure⟩ := by
  unfold Ending.andThen
  rw [succeeds]

theorem andThen_assoc (one : Ending σ) :
    (one.andThen two).andThen three = one.andThen fun state => (two state).andThen three := by
  cases first : one.failure with
  | some failure =>
      rw [andThen_of_fails two first, andThen_of_fails three first, andThen_of_fails _ first]
  | none =>
      rw [andThen_of_succeeds two first, andThen_of_succeeds _ first]
      cases second : (two one.context).failure with
      | some failure => rw [andThen_of_fails three rfl, andThen_of_fails three second, second]
      | none =>
          rw [andThen_of_succeeds three rfl, andThen_of_succeeds three second, List.append_assoc]

end AndThen

theorem occur_eq_perform (event : Event) (step : Step σ) (state : σ) :
    event.occur step state = Pipeline.perform [⟨event, step⟩] state := by
  let one : Scheduled σ := ⟨event, step⟩
  change (⟨[⟨event, state⟩], (step state).1, (step state).2⟩ : Ending σ) = _
  cases outcome : (step state).2 with
  | some failure => exact (@perform_of_fails σ one [] state failure outcome).symm
  | none => exact (@perform_of_succeeds σ one [] state outcome).symm

/-- Events of one list and then those of another. -/
theorem perform_append (one two : List (Scheduled σ)) (state : σ) :
    Pipeline.perform (one ++ two) state =
      (Pipeline.perform one state).andThen (Pipeline.perform two) := by
  induction one generalizing state with
  | nil => rfl
  | cons first rest inductionHypothesis =>
      rw [List.cons_append]
      cases outcome : (first.step state).2 with
      | some failure =>
          rw [perform_of_fails _ outcome, perform_of_fails _ outcome, andThen_of_fails _ rfl]
      | none =>
          rw [perform_of_succeeds _ outcome, perform_of_succeeds _ outcome, inductionHypothesis]
          cases later : (Pipeline.perform rest (first.step state).1).failure with
          | some failure =>
              rw [andThen_of_fails _ later, andThen_of_fails _ rfl, later]
          | none => rw [andThen_of_succeeds _ later, andThen_of_succeeds _ rfl, List.cons_append]

/-- A loop over items is the list of the events of all items. -/
theorem inTurn_eq_perform {act : α → σ → Ending σ} {events : α → List (Scheduled σ)}
    (each : ∀ item state, act item state = Pipeline.perform (events item) state) (items : List α)
    (state : σ) : inTurn act items state = Pipeline.perform (items.flatMap events) state := by
  induction items generalizing state with
  | nil => rfl
  | cons first rest inductionHypothesis =>
      rw [inTurn, each, List.flatMap_cons, perform_append]
      exact congrArg _ (funext inductionHypothesis)

theorem runPhase_eq_perform (pipeline : Pipeline σ) (phase : Phase σ) (state : σ) :
    pipeline.runPhase phase state =
      Pipeline.perform (bracketed pipeline.plugins [phase]) state := by
  have hooks : ∀ (event : Plugin σ → Event) (step : Plugin σ → Step σ),
      inTurn (fun plugin => (event plugin).occur (step plugin)) pipeline.plugins =
        Pipeline.perform (pipeline.plugins.map fun plugin => ⟨event plugin, step plugin⟩) := by
    intro event step
    funext state
    rw [inTurn_eq_perform (fun _ _ => occur_eq_perform _ _ _), List.map_eq_flatMap]
  have last : ∀ state, ((Event.phase phase.name).occur phase.run state).andThen
      (Pipeline.perform (pipeline.plugins.map fun plugin =>
        ⟨.after plugin.name phase.name, plugin.after phase.name⟩)) =
      Pipeline.perform (⟨.phase phase.name, phase.run⟩ :: pipeline.plugins.map fun plugin =>
        ⟨.after plugin.name phase.name, plugin.after phase.name⟩) state := by
    intro state
    rw [occur_eq_perform, ← perform_append, List.singleton_append]
  unfold Pipeline.runPhase bracketed
  dsimp only
  rw [hooks, hooks, andThen_assoc, List.flatMap_singleton, perform_append]
  exact congrArg _ (funext last)

/-- The loops of a run are one list of events. -/
theorem runPhases_eq_perform (pipeline : Pipeline σ) (phases : List (Phase σ)) (state : σ) :
    pipeline.runPhases phases state =
      Pipeline.perform (bracketed pipeline.plugins (phases ++ pipeline.phases)) state := by
  unfold Pipeline.runPhases
  rw [inTurn_eq_perform (runPhase_eq_perform pipeline)]
  unfold bracketed
  simp only [List.flatMap_singleton]

/-- Whatever the states are, phases take place between hooks. -/
theorem brackets_runPhases (pipeline : Pipeline σ) (phases : List (Phase σ)) (state : σ) :
    Brackets (bracketed pipeline.plugins (phases ++ pipeline.phases)) state
      (pipeline.runPhases phases state) :=
  runPhases_eq_perform pipeline phases state ▸ brackets_perform _ state

/-- Hooks and phases of a run take place in one order: lowering first if there is a manifest to
lower, declaring, registering and generating, the phases of the user last, and each phase between
the hooks of all plugins. A run stops at the first of them that fails, with its failure. -/
theorem hooks_bracket_phases (pipeline : Pipeline) :
    (∀ manifest : Manifest,
      Brackets
        (bracketed pipeline.plugins
          (.lower :: .declare :: .register :: .generate :: pipeline.phases))
        (.ofManifest manifest) (pipeline.run manifest)) ∧
      ∀ (hierarchy : Schema.Hierarchy) (config : Config),
        Brackets
          (bracketed pipeline.plugins (.declare :: .register :: .generate :: pipeline.phases))
          (.ofHierarchy hierarchy config) (pipeline.runHierarchy hierarchy config) := by
  exact ⟨fun _ => brackets_runPhases pipeline [.lower, .declare, .register, .generate] _,
    fun _ _ => brackets_runPhases pipeline [.declare, .register, .generate] _⟩

/-! ### Hooks that remember -/

/-- A phase that leaves what plugins remember as it is. -/
def Phase.beside (ρ : Type) (phase : Phase) : Phase (ρ × Context) where
  name := phase.name
  description := phase.description
  run state := ((state.1, (phase.run state.2).1), (phase.run state.2).2)

/-- Plugins and phases of the user that remember something are called in the same order. -/
theorem remembering_hooks_bracket_phases {ρ : Type} (pipeline : Pipeline (ρ × Context))
    (remembered : ρ) :
    (∀ manifest : Manifest,
      Brackets
        (bracketed pipeline.plugins
          ([Phase.lower, Phase.declare, Phase.register, Phase.generate].map (Phase.beside ρ) ++
            pipeline.phases))
        (remembered, .ofManifest manifest)
        (pipeline.runPhases
          ([Phase.lower, Phase.declare, Phase.register, Phase.generate].map (Phase.beside ρ))
          (remembered, .ofManifest manifest))) ∧
      ∀ (hierarchy : Schema.Hierarchy) (config : Config),
        Brackets
          (bracketed pipeline.plugins
            ([Phase.declare, Phase.register, Phase.generate].map (Phase.beside ρ) ++
              pipeline.phases))
          (remembered, .ofHierarchy hierarchy config)
          (pipeline.runPhases
            ([Phase.declare, Phase.register, Phase.generate].map (Phase.beside ρ))
            (remembered, .ofHierarchy hierarchy config)) :=
  ⟨fun _ => brackets_runPhases pipeline _ _, fun _ _ => brackets_runPhases pipeline _ _⟩

end BuilderSynthesis.Run
