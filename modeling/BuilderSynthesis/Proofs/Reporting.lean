import BuilderSynthesis.Proofs.Nesting

/-!
Contract: what a run reports.

A class is reported for each nested type that it names again, and where a nested type has the
name of builders for the builder that it does not get. Each report is made from its class alone.

Owns: `repeatReports` and `missingReport`, what is reported, word for word; `context_of_completes`
and `reports_of_success`.
-/

namespace BuilderSynthesis.Run

open BuilderSynthesis.Builder (Descriptor Nests Skipped Workshop)
open BuilderSynthesis.Code (Declaration Model TypeId)
open BuilderSynthesis.Schema (DataClass Hierarchy)

/-! ### Nested types that are named again -/

/-- The names of a list that are among those given or mentioned before, in order. -/
def repeatedNames : List String → List String → List String
  | _, [] => []
  | known, name :: rest =>
      if name ∈ known then name :: repeatedNames known rest
      else repeatedNames (known ++ [name]) rest

/-- What was mentioned before counts only if it is mentioned again. -/
theorem repeatedNames_congr {one two names : List String}
    (same : ∀ name ∈ names, name ∈ one ↔ name ∈ two) :
    repeatedNames one names = repeatedNames two names := by
  induction names generalizing one two with
  | nil => rfl
  | cons first rest inductionHypothesis =>
      obtain ⟨here, later⟩ := List.forall_mem_cons.1 same
      unfold repeatedNames
      by_cases mentioned : first ∈ one
      · rw [if_pos mentioned, if_pos (here.1 mentioned), inductionHypothesis later]
      · rw [if_neg mentioned, if_neg (mt here.2 mentioned)]
        refine inductionHypothesis fun name member => ?_
        rw [List.mem_append, List.mem_append, later name member]

/-- A name that is mentioned nowhere else is not named again. -/
theorem repeatedNames_insert {known before after : List String} {new : String}
    (unknown : new ∉ known) (first : new ∉ before) (last : new ∉ after) :
    repeatedNames known (before ++ new :: after) = repeatedNames known (before ++ after) := by
  induction before generalizing known with
  | nil =>
      rw [List.nil_append, List.nil_append, repeatedNames, if_neg unknown]
      refine repeatedNames_congr fun name member => ?_
      have other : name ≠ new := fun same => last (same ▸ member)
      rw [List.mem_append, List.mem_singleton, or_iff_left other]
  | cons name rest inductionHypothesis =>
      rw [List.mem_cons, not_or] at first
      rw [List.cons_append, List.cons_append, repeatedNames, repeatedNames]
      split
      · rw [inductionHypothesis unknown first.2]
      · refine inductionHypothesis ?_ first.2
        rw [List.mem_append, List.mem_singleton, not_or]
        exact ⟨unknown, first.1⟩

/-- Where a class stands in a schema, as reports say it. -/
def placeOf (dataClass : DataClass) : Option String :=
  dataClass.location.map (fun location =>
    location.file ++ ":" ++ toString location.line ++ ":" ++ toString location.column)

def repeatReport (dataClass : DataClass) (name : String) : Diagnostic :=
  { severity := .warning
    phase := "declare"
    message := "'" ++ dataClass.name ++ "' already contains nested type '" ++ name ++ "'"
    location := placeOf dataClass
    className := some dataClass.name }

/-- The reports on all nested types that a class names again, in the order in which it does. -/
def repeatReports (dataClass : DataClass) : List Diagnostic :=
  (repeatedNames [] dataClass.nested).map (repeatReport dataClass)

theorem nestedWarning_nestedType (dataClass : DataClass) (name : String) :
    nestedWarning dataClass (.nestedType dataClass.name name) = repeatReport dataClass name := rfl

theorem declareNestedTypes_reports {dataClass : DataClass} {outer : TypeId} {model : Model}
    {parent : Declaration} (found : model.get? outer = some parent)
    (named : parent.qualifiedName = dataClass.name) (names : List String) :
    (declareNestedTypes dataClass outer names model).2 =
      (repeatedNames (parent.nested.map Prod.fst) names).map (repeatReport dataClass) := by
  induction names generalizing model parent with
  | nil => rfl
  | cons name rest inductionHypothesis =>
      unfold declareNestedTypes repeatedNames
      rw [Model.declareNested_eq found]
      by_cases mentioned : name ∈ parent.nested.map Prod.fst
      · rw [if_pos mentioned, if_pos mentioned, List.map_cons, ← inductionHypothesis found named,
          named, ← nestedWarning_nestedType]
      · rw [if_neg mentioned, if_neg mentioned]
        -- The next names are compared with what the class contains by now.
        have keys : (parent.addNested name model.size).nested.map Prod.fst =
            parent.nested.map Prod.fst ++ [name] := List.map_append
        rw [← keys]
        exact inductionHypothesis (Model.get?_nestIn_outer found _) named

theorem declareClasses_reports {classes : List DataClass} {model after : Model}
    {reports : List Diagnostic} (success : declareClasses classes model = .ok (after, reports)) :
    reports = classes.flatMap repeatReports := by
  induction classes generalizing model reports with
  | nil =>
      cases success
      rfl
  | cons dataClass rest inductionHypothesis =>
      rw [declareClasses] at success
      simp only [Outcome.bind_eq_ok_iff, Outcome.mapError_eq_ok_iff, Prod.exists] at success
      obtain ⟨middle, first, declared, other, others, later, same⟩ := success
      simp only [pure, Except.pure, Except.ok.injEq, Prod.mk.injEq] at same
      obtain ⟨-, -, result⟩ := declareDataClass_eq_ok_iff.1 declared
      have own := declareNestedTypes_reports (Model.get?_insert_size model
        (productDeclaration dataClass [])) rfl dataClass.nested
      rw [← result] at own
      rw [← same.2, List.flatMap_cons, ← inductionHypothesis (same.1 ▸ later)]
      exact congrArg (· ++ others) own

/-! ### Classes without builders -/

def missingReport (builderName : String) (dataClass : DataClass) : Diagnostic :=
  { severity := .warning
    phase := "register"
    message := "Class \"" ++ dataClass.name ++ "\" already contains inner class \"" ++
      builderName ++ "\". Skipping generation of fluent builder."
    location := placeOf dataClass
    className := some dataClass.name }

/-- A report is made from what is known of a class: its name, the name of builders and its place. -/
theorem map_skippedWarning {builderName : String} {skipped : List Skipped}
    {refused : List DataClass} (same : skipped.map Skipped.origin =
      refused.map (fun dataClass => (dataClass.name, builderName, dataClass.location))) :
    skipped.map skippedWarning = refused.map (missingReport builderName) := by
  let report := fun (origin : String × String × Option Schema.Location) =>
    missingReport origin.2.1 { name := origin.1, location := origin.2.2 }
  have warnings : skipped.map skippedWarning = (skipped.map Skipped.origin).map report := by
    rw [List.map_map]
    rfl
  rw [warnings, same, List.map_map]
  rfl

/-! ### Runs -/

/-- The context that a completed run leaves. -/
theorem context_of_completes {context : Context} {hierarchy : Hierarchy}
    (known : context.hierarchy = some hierarchy) {declared : Model} {reports : List Diagnostic}
    {registered workshop : Workshop}
    (declaring : declareHierarchy hierarchy = .ok (declared, reports))
    (registering : Builder.register hierarchy declared context.config.builderName =
      (registered, none))
    (generating : Builder.generate hierarchy context.config.policy registered =
      (workshop, none)) :
    (Pipeline.perform building context).context =
      { context with
        model := workshop.model
        registry := some workshop.registry
        generated := registered.registry.size
        diagnostics := context.diagnostics ++ reports ++
          registered.registry.skipped.map skippedWarning ++
          [generatedInfo registered.registry.size context.config.policy] } := by
  simp only [building, Pipeline.perform, declare, known, declaring, register, Context.report,
    registering, generate, generating]

/-- The warnings of a run. -/
def warnings (context : Context) : List Diagnostic :=
  context.diagnostics.filter (fun diagnostic => diagnostic.severity == .warning)

/-- What a run warns of and how many builders it makes, by the classes. -/
structure Reports (classes : List DataClass) (builderName : String) (context : Context) :
    Prop where
  generated : context.generated =
    (classes.filter (fun dataClass => builderName ∉ dataClass.nested)).length
  warned : (warnings context).Perm (classes.flatMap repeatReports ++
    (classes.filter (fun dataClass => builderName ∈ dataClass.nested)).map
      (missingReport builderName))

theorem reports_of_success {hierarchy : Hierarchy} {config : Config} {context : Context}
    (apart : NamesApart hierarchy config.builderName)
    (success : (({} : Pipeline).runHierarchy hierarchy config).result = .ok context) :
    Reports hierarchy.classes config.builderName context := by
  obtain ⟨registry, -, completes⟩ := (reached_of_runHierarchy success).completes
  have distinct := nodup_names completes apart
  obtain ⟨declared, reports, registered, declaring, registering, generating⟩ := completes
  have left : context = (Pipeline.perform building (.ofHierarchy hierarchy config)).context := by
    rw [runHierarchy_eq] at success
    unfold Ending.result at success
    split at success
    · exact (Except.ok.inj success).symm
    · cases success
  obtain ⟨-, same⟩ := Builder.generate_eq_iff.1 generating
  rw [context_of_completes rfl declaring registering generating] at left
  have earlier : registered.model.names.Nodup := by
    have names := congrArg (fun workshop : Workshop => workshop.model.names) same
    rw [Builder.names_foldl_effect] at names
    exact names ▸ distinct
  obtain ⟨prepared, refused, nests⟩ := prepared_of_register declaring registering earlier
  have refusedPerm := prepared.refused_perm nests apart
  have repeated : reports = hierarchy.classes.flatMap repeatReports := by
    obtain ⟨unlinked, declares, -⟩ := declareHierarchy_eq_ok_iff.1 declaring
    exact declareClasses_reports declares
  have count : context.generated = registered.registry.size := congrArg Context.generated left
  have diagnostics : context.diagnostics = [] ++ reports ++
      registered.registry.skipped.map skippedWarning ++
      [generatedInfo registered.registry.size config.policy] := congrArg Context.diagnostics left
  constructor
  · exact count.trans (prepared.length_descriptors nests apart)
  · have first : (hierarchy.classes.flatMap repeatReports).filter (fun diagnostic =>
        diagnostic.severity == .warning) = hierarchy.classes.flatMap repeatReports := by
      rw [List.filter_eq_self]
      intro diagnostic member
      obtain ⟨dataClass, -, inside⟩ := List.mem_flatMap.1 member
      obtain ⟨name, -, rfl⟩ := List.mem_map.1 inside
      rfl
    have second : (refused.map (missingReport config.builderName)).filter (fun diagnostic =>
        diagnostic.severity == .warning) = refused.map (missingReport config.builderName) := by
      rw [List.filter_eq_self]
      intro diagnostic member
      obtain ⟨dataClass, -, rfl⟩ := List.mem_map.1 member
      rfl
    have last : ([generatedInfo registered.registry.size config.policy]).filter (fun diagnostic =>
        diagnostic.severity == .warning) = [] := rfl
    have skipped : registered.registry.skipped.map skippedWarning =
        refused.map (missingReport config.builderName) := map_skippedWarning nests.skipped
    unfold warnings
    rw [diagnostics, List.nil_append, List.filter_append, List.filter_append, repeated, skipped,
      first, second, last, List.append_nil]
    exact (refusedPerm.map _).append_left _

end BuilderSynthesis.Run
