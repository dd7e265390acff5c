import BuilderSynthesis.Proofs.Correspondence
import BuilderSynthesis.Proofs.Hiding
import BuilderSynthesis.Proofs.Reporting

/-!
Contract: the order of classes is immaterial.

Whether a run succeeds depends on each class alone where no two types would have one name. So do
the warnings, and types of one name are alike in both programs.

Only where two classes have one path the order decides which of them is found there.

Owns: `Buildable`, when a run succeeds; `contentAt?`, what is found at a path; `SameOutcome` and
`order_immaterial`.
-/

namespace BuilderSynthesis.Run

open BuilderSynthesis.Builder (SettersApart Workshop)
open BuilderSynthesis.Files (TextFile)
open BuilderSynthesis.Java (filePath sourceFiles)
open BuilderSynthesis.Schema (ClassId DataClass Hierarchy)
open BuilderSynthesis.Schema.Hierarchy (Renumbers)

/-! ### Which runs succeed -/

/-- What a run asks of each class, where no two types would have one name. -/
structure Buildable (builderName : String) (classes : List DataClass) : Prop where
  fields : ∀ dataClass ∈ classes, (dataClass.fields.map Schema.Field.name).Nodup
  setters : ∀ dataClass ∈ classes, builderName ∉ dataClass.nested → SettersApart dataClass

section

variable {hierarchy : Hierarchy} {config : Config}
  (apart : NamesApart hierarchy config.builderName)

include apart

theorem buildable_of_completes (inRange : hierarchy.InRange) {workshop : Workshop}
    (completes : Completes hierarchy config workshop) :
    Buildable config.builderName hierarchy.classes := by
  have settled := settled_of_completes completes apart inRange
  obtain ⟨model, reports, registered, declaring, -⟩ := completes
  constructor
  · exact ((declareHierarchy_succeeds_iff hierarchy).1 ⟨model, reports, declaring⟩).1
  · intro dataClass own free
    obtain ⟨id, known⟩ := List.mem_iff_getElem?.1 own
    have bearing := (settled.bearing id dataClass known).2 free
    obtain ⟨builder, -, isBuilder⟩ := settled.program.builder id dataClass known bearing
    have distinct := isBuilder.distinct
    rw [isBuilder.methods] at distinct
    exact Builder.settersApart_of_distinct distinct

theorem declarable_of_buildable (buildable : Buildable config.builderName hierarchy.classes) :
    Declarable [] hierarchy.classes := by
  refine ⟨buildable.fields, fun _ _ => List.not_mem_nil, ?_⟩
  refine (List.nodup_flatMap.1 apart).2.imp ?_
  intro earlier later disjoint taken
  exact disjoint (declaredNames_subset config.builderName earlier taken)
    (mem_typeNames_iff.2 (.inl rfl))

theorem completes_of_buildable (buildable : Buildable config.builderName hierarchy.classes) :
    ∃ workshop, Completes hierarchy config workshop := by
  have declarable := declarable_of_buildable apart buildable
  obtain ⟨model, reports, declaring⟩ := (declareHierarchy_succeeds_iff hierarchy).2 declarable
  have classes : (hierarchy.classes.map DataClass.name).Nodup :=
    apart.nodup_declaredNames.sublist names_sublist
  obtain ⟨registered, added, refused, registering, registers, -, ready⟩ :=
    registered_ready config.builderName (declareHierarchy_declared declaring) classes
  obtain ⟨workshop, generating⟩ : ∃ workshop,
      Builder.generate hierarchy config.policy registered = (workshop, none) := by
    refine ready.generate_succeeds declarable.1 ?_
    intro entry member dataClass known builder
    obtain ⟨other, -, there, named, -⟩ := ready.builder entry member
    obtain rfl := Option.some.inj (known.symm.trans there)
    have own := List.mem_of_getElem? known
    have descriptors : registered.registry.descriptors = added := registers.descriptors
    rw [descriptors] at member
    -- A class that is in the registry is one that gets a builder, so its setters are apart.
    have free := not_nested_of_registered apart declaring registers member own named
    exact (Builder.distinctSignatures_own_iff _ _ _).2 (buildable.setters dataClass own free)
  exact ⟨workshop, model, reports, registered, declaring, registering, generating⟩

/-- Where no two types would have one name, a run succeeds unless a class is not fit on its own. -/
theorem runHierarchy_succeeds_iff_buildable (inRange : hierarchy.InRange) :
    (∃ context, (({} : Pipeline).runHierarchy hierarchy config).result = .ok context) ↔
      Buildable config.builderName hierarchy.classes := by
  rw [runHierarchy_succeeds_iff]
  constructor
  · rintro ⟨workshop, completes⟩
    exact buildable_of_completes apart inRange completes
  · exact completes_of_buildable apart

end

/-! ### Two orders -/

section

variable {first second : Hierarchy} {place : ClassId → ClassId}
  (renumbers : Renumbers first second place) {builderName : String}

include renumbers

theorem buildable_iff_of_renumbers :
    Buildable builderName second.classes ↔ Buildable builderName first.classes := by
  have each : ∀ {fits : DataClass → Prop}, (∀ dataClass ∈ second.classes, fits dataClass) ↔
      ∀ dataClass ∈ first.classes, fits (dataClass.renumber place) := by
    intro fits
    simp only [renumbers.classes.mem_iff, List.forall_mem_map]
  constructor
  · rintro ⟨fields, setters⟩
    exact ⟨each.1 fields, each.1 setters⟩
  · rintro ⟨fields, setters⟩
    exact ⟨each.2 fields, each.2 setters⟩

/-- What is reported of classes does not depend on their order. -/
theorem reports_perm :
    (second.classes.flatMap repeatReports ++
      (second.classes.filter (fun dataClass => builderName ∈ dataClass.nested)).map
        (missingReport builderName)).Perm
    (first.classes.flatMap repeatReports ++
      (first.classes.filter (fun dataClass => builderName ∈ dataClass.nested)).map
        (missingReport builderName)) := by
  have repeated := renumbers.flatMap_perm repeatReports fun _ => rfl
  have missing := (renumbers.filter_perm
    (fun dataClass => decide (builderName ∈ dataClass.nested)) fun _ => rfl).map
      (missingReport builderName)
  rw [List.map_map] at missing
  exact repeated.append missing

end

/-! ### What is at a path -/

/-- What stands at a path once files are written one after the other: the last of those with the
path. -/
def contentAt? (files : List TextFile) (path : String) : Option String :=
  ((files.filter (fun file => file.path == path)).getLast?).map TextFile.content

/-- Where no two files have one path, it does not matter which is written first. -/
theorem contentAt?_perm {one two : List TextFile} (same : two.Perm one)
    (distinct : (one.map TextFile.path).Nodup) (path : String) :
    contentAt? two path = contentAt? one path := by
  have kept := same.filter (fun file => file.path == path)
  unfold contentAt?
  cases here : one.filter (fun file => file.path == path) with
  | nil =>
      rw [here] at kept
      rw [kept.eq_nil]
  | cons first rest =>
      cases rest with
      | nil =>
          rw [here] at kept
          rw [List.perm_singleton.1 kept]
      | cons second others =>
          have isAt : ∀ file ∈ first :: second :: others, file.path = path := by
            intro file member
            rw [← here] at member
            exact beq_iff_eq.1 (List.mem_filter.1 member).2
          have apart : ((first :: second :: others).map TextFile.path).Nodup :=
            here ▸ distinct.sublist (List.filter_sublist.map TextFile.path)
          have both : first.path = second.path :=
            (isAt first List.mem_cons_self).trans
              (isAt second (List.mem_cons_of_mem _ List.mem_cons_self)).symm
          exact absurd both (List.ne_of_not_mem_cons (List.nodup_cons.1 apart).1)

/-- Two runs that come to the same: the files, the number of builders and the warnings. The same
stands at every path, unless the paths of two classes coincide; they can only do so where a name
contains separators of paths. -/
structure SameOutcome (classes : List DataClass) (one two : Context) : Prop where
  files : (sourceFiles two.model).Perm (sourceFiles one.model)
  paths : ((sourceFiles one.model).map TextFile.path).Perm
    (classes.map (fun dataClass => filePath dataClass.name))
  contents : (classes.map (fun dataClass => filePath dataClass.name)).Nodup → ∀ path,
    contentAt? (sourceFiles two.model) path = contentAt? (sourceFiles one.model) path
  distinct : (∀ dataClass ∈ classes, '/' ∉ dataClass.name.toList) →
    (classes.map (fun dataClass => filePath dataClass.name)).Nodup
  generated : two.generated = one.generated
  warned : (warnings two).Perm (warnings one)

/-- Runs on the same classes in two orders both fail or both come to the same. -/
theorem order_immaterial {hierarchy : Hierarchy} {config : Config} {order : List ClassId}
    (acyclic : hierarchy.Acyclic) (inRange : hierarchy.InRange)
    (apart : NamesApart hierarchy config.builderName)
    (permutes : order.Perm (List.range hierarchy.size)) :
    ((∃ context, (({} : Pipeline).runHierarchy hierarchy config).result = .ok context) ↔
      ∃ context,
        (({} : Pipeline).runHierarchy (hierarchy.reorder order) config).result = .ok context) ∧
    ∀ one two, (({} : Pipeline).runHierarchy hierarchy config).result = .ok one →
      (({} : Pipeline).runHierarchy (hierarchy.reorder order) config).result = .ok two →
      SameOutcome hierarchy.classes one two := by
  have renumbers := Hierarchy.renumbers_reorder permutes
  have apartToo := namesApart_of_renumbers renumbers apart
  have inRangeToo := renumbers.inRange_second inRange
  constructor
  · rw [runHierarchy_succeeds_iff_buildable apart inRange,
      runHierarchy_succeeds_iff_buildable apartToo inRangeToo]
    exact (buildable_iff_of_renumbers renumbers).symm
  · intro one two success successToo
    obtain ⟨_, -, completes⟩ := (reached_of_runHierarchy success).completes
    obtain ⟨_, -, completesToo⟩ := (reached_of_runHierarchy successToo).completes
    have left := settled_of_completes completes apart inRange
    have right := settled_of_completes completesToo apartToo inRangeToo
    have reports := reports_of_success apart success
    have reportsToo := reports_of_success apartToo successToo
    have files := sourceFiles_perm renumbers left right inRange acyclic apart
    have paths := left.paths_perm
    constructor
    · exact files
    · exact paths
    · exact fun distinct => contentAt?_perm files (paths.nodup_iff.2 distinct)
    · exact nodup_filePath left.program.classes
    · exact reportsToo.generated.trans
        ((length_free renumbers config.builderName).trans reports.generated.symm)
    · exact reportsToo.warned.trans ((reports_perm renumbers).trans reports.warned.symm)

/-- Three classes in a line. The first has a nested type that is named twice, the second one of the
name of builders, and a field of the third hides one of the first. -/
def reportedHierarchy : Hierarchy :=
  ⟨[{ name := "tree.Node"
      nested := ["Kind", "Kind"]
      fields := [{ name := "parts", element := .named "tree.Node", cardinality := .array }] },
    { name := "tree.Branch"
      superclass := some 0
      nested := ["Builder"]
      location := some ⟨"tree.toml", 7, 8⟩ },
    { name := "tree.Leaf"
      superclass := some 1
      fields := [{ name := "parts", element := .primitive .string, cardinality := .list }] }]⟩

theorem reported_order_immaterial :
    ∃ one two,
      (({} : Pipeline).runHierarchy reportedHierarchy {}).result = .ok one ∧
      (({} : Pipeline).runHierarchy (reportedHierarchy.reorder [2, 0, 1]) {}).result = .ok two ∧
      (warnings one).length = 2 ∧ SameOutcome reportedHierarchy.classes one two := by
  have acyclic : reportedHierarchy.Acyclic := by
    apply Hierarchy.acyclic_of_descending
    intro id superclass link
    match id, link with
    | 1, link => exact Option.some.inj link ▸ by decide
    | 2, link => exact Option.some.inj link ▸ by decide
  have inRange : reportedHierarchy.InRange := by
    unfold Hierarchy.InRange
    decide
  have apart : NamesApart reportedHierarchy "Builder" := by
    unfold NamesApart
    decide +kernel
  have permutes : [2, 0, 1].Perm (List.range reportedHierarchy.size) := by
    decide
  have success : (({} : Pipeline).runHierarchy reportedHierarchy {}).result = .ok _ :=
    result_of_failure_eq_none (by decide +kernel)
  obtain ⟨both, same⟩ := @order_immaterial reportedHierarchy {} _ acyclic inRange apart permutes
  obtain ⟨two, successToo⟩ := both.1 ⟨_, success⟩
  refine ⟨_, two, success, successToo, ?_, same _ two success successToo⟩
  decide +kernel

/-- Two classes with one path. -/
def slashedHierarchy : Hierarchy :=
  ⟨[{ name := "a.b" }, { name := "a/b" }]⟩

/-- Which of the two is found at the path depends on their order. -/
theorem not_every_order_leaves_the_same :
    ¬ ∀ (hierarchy : Hierarchy) (config : Config) (order : List ClassId), hierarchy.Acyclic →
      hierarchy.InRange → NamesApart hierarchy config.builderName →
      order.Perm (List.range hierarchy.size) → ∀ one two,
      (({} : Pipeline).runHierarchy hierarchy config).result = .ok one →
      (({} : Pipeline).runHierarchy (hierarchy.reorder order) config).result = .ok two →
      ∀ path,
        contentAt? (sourceFiles two.model) path = contentAt? (sourceFiles one.model) path := by
  intro same
  have acyclic : slashedHierarchy.Acyclic := by
    apply Hierarchy.acyclic_of_descending
    intro id superclass link
    match id, link with
    | 0, link => cases link
    | 1, link => cases link
  have inRange : slashedHierarchy.InRange := by
    unfold Hierarchy.InRange
    decide
  have apart : NamesApart slashedHierarchy "Builder" := by
    unfold NamesApart
    decide +kernel
  have permutes : [1, 0].Perm (List.range slashedHierarchy.size) := by
    decide
  have inOrder : (({} : Pipeline).runHierarchy slashedHierarchy {}).result = .ok _ :=
    result_of_failure_eq_none (by decide +kernel)
  have turned : (({} : Pipeline).runHierarchy (slashedHierarchy.reorder [1, 0]) {}).result =
      .ok _ :=
    result_of_failure_eq_none (by decide +kernel)
  have both := same slashedHierarchy {} [1, 0] acyclic inRange apart permutes _ _ inOrder turned
    "a/b.java"
  revert both
  decide +kernel

end BuilderSynthesis.Run
