import BuilderSynthesis.Proofs.Reordering

/-!
Contract: a class that contains a type of the name of builders is no matter to classes that do not
extend it.

If a class comes to have such a type, a run succeeds as before. The class has no builder and is
reported, and those that extend it may come out differently; every other class keeps all that is
above it, so that it keeps its file.

Owns: `Hierarchy.nest`, `Isolated` and `collision_isolated`.
-/

namespace BuilderSynthesis.Schema

def DataClass.nest (dataClass : DataClass) (position : Nat) (name : String) : DataClass :=
  { dataClass with
    nested := dataClass.nested.take position ++ name :: dataClass.nested.drop position }

theorem DataClass.nested_nest_perm (dataClass : DataClass) (position : Nat) (name : String) :
    (dataClass.nest position name).nested.Perm (name :: dataClass.nested) := by
  refine List.perm_middle.trans (.of_eq ?_)
  rw [List.take_append_drop]

namespace Hierarchy

def nest (hierarchy : Hierarchy) (id : ClassId) (position : Nat) (name : String) : Hierarchy :=
  ⟨hierarchy.classes.modify id (DataClass.nest · position name)⟩

variable (hierarchy : Hierarchy) (id : ClassId) (position : Nat) (name : String)

theorem size_nest : (hierarchy.nest id position name).size = hierarchy.size := by
  simp [size, nest]

theorem get?_nest (other : ClassId) :
    (hierarchy.nest id position name).get? other =
      if other = id then (hierarchy.get? other).map (DataClass.nest · position name)
      else hierarchy.get? other := by
  by_cases same : other = id
  · simp [get?, nest, same]
  · simp [get?, nest, same, Ne.symm same]

theorem superclass_nest :
    (hierarchy.nest id position name).superclass = hierarchy.superclass := by
  funext other
  unfold superclass
  rw [get?_nest]
  split
  · cases hierarchy.get? other <;> rfl
  · rfl

theorem inRange_nest (inRange : hierarchy.InRange) :
    (hierarchy.nest id position name).InRange := by
  intro dataClass member above extended
  obtain ⟨other, found⟩ := List.mem_iff_getElem?.1 member
  have link : (hierarchy.nest id position name).superclass other = some above :=
    Option.bind_eq_some_iff.2 ⟨dataClass, found, extended⟩
  rw [superclass_nest] at link
  rw [size_nest]
  exact (bounded_of_inRange inRange other above link).2

/-- All classes but the changed one are the same. -/
theorem exists_perm_nest {hierarchy : Hierarchy} {id : ClassId} {dataClass : DataClass}
    (known : hierarchy.get? id = some dataClass) (position : Nat) (name : String) :
    ∃ rest, hierarchy.classes.Perm (dataClass :: rest) ∧
      (hierarchy.nest id position name).classes.Perm (dataClass.nest position name :: rest) := by
  obtain ⟨small, here⟩ := List.getElem?_eq_some_iff.1 known
  refine ⟨hierarchy.classes.take id ++ hierarchy.classes.drop (id + 1), ?_, ?_⟩
  · refine .trans (.of_eq ?_) List.perm_middle
    rw [← here, ← List.drop_eq_getElem_cons small, List.take_append_drop]
  · refine .trans (.of_eq ?_) List.perm_middle
    unfold nest
    rw [List.modify_eq_take_cons_drop small, here]

/-- Classes that neither are one class nor extend it are kept if the class changes. -/
theorem keeps_nest {hierarchy : Hierarchy} (inRange : hierarchy.InRange) (id : ClassId)
    (position : Nat) (name : String) :
    Keeps hierarchy (hierarchy.nest id position name) (fun other => other)
      (fun other => other < hierarchy.size ∧ other ≠ id ∧ ¬ hierarchy.IsAncestor id other) where
  size := size_nest ..
  known _ kept := kept.1
  moved other dataClass kept known := by
    rw [get?_nest, if_neg kept.2.1, known, DataClass.renumber, Option.map_id']
  closed other above kept link := by
    obtain ⟨-, -, apart⟩ := kept
    refine ⟨(bounded_of_inRange inRange other above link).2, ?_, ?_⟩
    · rintro rfl
      exact apart (.single link)
    · exact fun ancestor => apart (.head link ancestor)

end Hierarchy

end BuilderSynthesis.Schema

namespace BuilderSynthesis.Run

open BuilderSynthesis.Code (Model)
open BuilderSynthesis.Files (TextFile)
open BuilderSynthesis.Java (sourceFile sourceFiles)
open BuilderSynthesis.Schema (ClassId DataClass Hierarchy)

/-! ### The class with a nested type more -/

section

variable (builderName : String) (dataClass : DataClass) (position : Nat)

/-- The name of builders is one of the names of the class either way. -/
theorem typeNames_nest_perm :
    (typeNames builderName dataClass.name (dataClass.nest position builderName).nested).Perm
      (typeNames builderName dataClass.name dataClass.nested) := by
  have listed : builderName ∈ builderName :: dataClass.nested := List.mem_cons_self
  have names := ((dataClass.nested_nest_perm position builderName).cons builderName).dedup
  rw [List.dedup_cons_of_mem listed] at names
  exact (names.map _).cons dataClass.name

variable {builderName dataClass} (free : builderName ∉ dataClass.nested)

include free

/-- One more type is declared for the class. -/
theorem length_declaredNames_nest :
    (declaredNames (dataClass.nest position builderName)).length =
      (declaredNames dataClass).length + 1 := by
  have hosts : (hostNames (dataClass.nest position builderName)).Perm
      (builderName :: hostNames dataClass) := by
    refine (List.perm_ext_iff_of_nodup (nodup_newNames _ _) ?_).2 fun name => ?_
    · refine List.nodup_cons.2 ⟨?_, nodup_newNames _ _⟩
      exact fun listed => free ((mem_hostNames dataClass builderName).1 listed)
    · show name ∈ hostNames _ ↔ _
      rw [mem_hostNames, List.mem_cons, mem_hostNames,
        (dataClass.nested_nest_perm position builderName).mem_iff, List.mem_cons]
  unfold declaredNames
  rw [List.length_cons, List.length_cons, List.length_map, List.length_map, hosts.length_eq,
    List.length_cons]

/-- No nested type is named again. -/
theorem repeatReports_nest :
    repeatReports (dataClass.nest position builderName) = repeatReports dataClass := by
  have known := List.take_append_drop position dataClass.nested
  rw [← known, List.mem_append, not_or] at free
  have names := repeatedNames_insert List.not_mem_nil free.1 free.2
  rw [known] at names
  exact congrArg (List.map (repeatReport dataClass)) names

end

/-! ### The other classes -/

section

variable {hierarchy : Hierarchy} {builderName : String} {id : ClassId} {dataClass : DataClass}
  (known : hierarchy.get? id = some dataClass) (position : Nat)

include known

theorem namesApart_nest (apart : NamesApart hierarchy builderName) :
    NamesApart (hierarchy.nest id position builderName) builderName := by
  obtain ⟨rest, before, after⟩ := Hierarchy.exists_perm_nest known position builderName
  let told := fun dataClass : DataClass =>
    typeNames builderName dataClass.name dataClass.nested
  have own : (told (dataClass.nest position builderName) ++ rest.flatMap told).Perm
      (told dataClass ++ rest.flatMap told) :=
    (typeNames_nest_perm builderName dataClass position).append_right _
  have all := (after.flatMap_right told).trans (own.trans (before.flatMap_right told).symm)
  exact all.nodup_iff.2 apart

/-- A run asks less of a class that gets no builder. -/
theorem buildable_nest (buildable : Buildable builderName hierarchy.classes) :
    Buildable builderName (hierarchy.nest id position builderName).classes := by
  obtain ⟨rest, before, after⟩ := Hierarchy.exists_perm_nest known position builderName
  have other : ∀ {dataClass : DataClass}, dataClass ∈ rest → dataClass ∈ hierarchy.classes :=
    fun member => before.mem_iff.2 (List.mem_cons_of_mem _ member)
  constructor
  · intro current member
    rcases List.mem_cons.1 (after.mem_iff.1 member) with rfl | later
    · exact buildable.fields dataClass (List.mem_of_getElem? known)
    · exact buildable.fields current (other later)
  · intro current member without
    rcases List.mem_cons.1 (after.mem_iff.1 member) with rfl | later
    · refine absurd ?_ without
      exact (dataClass.nested_nest_perm position builderName).mem_iff.2 List.mem_cons_self
    · exact buildable.setters current (other later) without

variable (free : builderName ∉ dataClass.nested)

include free

/-- One type more is declared. -/
theorem length_declared_nest :
    ((hierarchy.nest id position builderName).classes.flatMap declaredNames).length =
      (hierarchy.classes.flatMap declaredNames).length + 1 := by
  obtain ⟨rest, before, after⟩ := Hierarchy.exists_perm_nest known position builderName
  rw [(after.flatMap_right _).length_eq, (before.flatMap_right _).length_eq, List.flatMap_cons,
    List.flatMap_cons, List.length_append, List.length_append,
    length_declaredNames_nest position free]
  omega

/-- One class less gets a builder. -/
theorem length_free_nest :
    ((hierarchy.nest id position builderName).classes.filter (fun dataClass =>
        builderName ∉ dataClass.nested)).length + 1 =
      (hierarchy.classes.filter (fun dataClass => builderName ∉ dataClass.nested)).length := by
  obtain ⟨rest, before, after⟩ := Hierarchy.exists_perm_nest known position builderName
  have taken : builderName ∈ (dataClass.nest position builderName).nested :=
    (dataClass.nested_nest_perm position builderName).mem_iff.2 List.mem_cons_self
  rw [(after.filter _).length_eq, (before.filter _).length_eq,
    List.filter_cons_of_neg (by simpa using taken), List.filter_cons_of_pos (by simpa using free),
    List.length_cons]

/-- One class more is reported. -/
theorem reports_nest_perm :
    ((hierarchy.nest id position builderName).classes.flatMap repeatReports ++
      ((hierarchy.nest id position builderName).classes.filter (fun dataClass =>
        builderName ∈ dataClass.nested)).map (missingReport builderName)).Perm
    (missingReport builderName dataClass :: (hierarchy.classes.flatMap repeatReports ++
      (hierarchy.classes.filter (fun dataClass => builderName ∈ dataClass.nested)).map
        (missingReport builderName))) := by
  obtain ⟨rest, before, after⟩ := Hierarchy.exists_perm_nest known position builderName
  have taken : builderName ∈ (dataClass.nest position builderName).nested :=
    (dataClass.nested_nest_perm position builderName).mem_iff.2 List.mem_cons_self
  have repeated : ((hierarchy.nest id position builderName).classes.flatMap repeatReports).Perm
      (hierarchy.classes.flatMap repeatReports) := by
    refine (after.flatMap_right repeatReports).trans ?_
    rw [List.flatMap_cons, repeatReports_nest position free, ← List.flatMap_cons]
    exact (before.flatMap_right repeatReports).symm
  have missing : (((hierarchy.nest id position builderName).classes.filter (fun dataClass =>
      builderName ∈ dataClass.nested)).map (missingReport builderName)).Perm
      (missingReport builderName dataClass :: (hierarchy.classes.filter (fun dataClass =>
        builderName ∈ dataClass.nested)).map (missingReport builderName)) := by
    have one := (after.filter (fun dataClass => builderName ∈ dataClass.nested)).map
      (missingReport builderName)
    have two := (before.filter (fun dataClass => builderName ∈ dataClass.nested)).map
      (missingReport builderName)
    rw [List.filter_cons_of_pos (by simpa using taken), List.map_cons] at one
    rw [List.filter_cons_of_neg (by simpa using free)] at two
    exact one.trans (two.symm.cons _)
  exact (repeated.append missing).trans List.perm_middle

end

/-! ### Two runs -/

/-- The file of the type with a qualified name. -/
def fileOf? (model : Model) (name : String) : Option TextFile :=
  (model.lookup name).map (sourceFile model)

theorem Settled.fileOf? {hierarchy : Hierarchy} {config : Config} {bears : ClassId → Bool}
    {model : Model} (settled : Settled hierarchy config bears model) {id : ClassId}
    {dataClass : DataClass} (known : hierarchy.get? id = some dataClass) :
    fileOf? model dataClass.name = some (sourceFile model (productId hierarchy model id)) ∧
      sourceFile model (productId hierarchy model id) ∈ sourceFiles model := by
  constructor
  · unfold Run.fileOf?
    rw [settled.program.lookup_product known, Option.map_some]
  · refine settled.sourceFiles_perm.mem_iff.2 (List.mem_map.2 ⟨id, ?_, rfl⟩)
    exact List.mem_range.2 (Hierarchy.get?_eq_some_lt known)

/-- What a run on classes comes to, against one on which a class had no type of the name of
builders: other classes keep their files unless they extend the class, which gets no builder and is
reported. -/
structure Isolated (hierarchy : Hierarchy) (id : ClassId) (dataClass : DataClass)
    (one two : Context) : Prop where
  files : ∀ other otherClass, hierarchy.get? other = some otherClass → other ≠ id →
    ¬ hierarchy.IsAncestor id other → ∃ file, fileOf? one.model otherClass.name = some file ∧
      fileOf? two.model otherClass.name = some file ∧
      file ∈ sourceFiles one.model ∧ file ∈ sourceFiles two.model
  noBuilder : ∃ registry, two.registry = some registry ∧ registry.get? dataClass.name = none
  generated : two.generated + 1 = one.generated
  warned : ∃ report : Diagnostic, (warnings two).Perm (report :: warnings one) ∧
    report.severity = .warning ∧ report.phase = "register" ∧
    report.className = some dataClass.name ∧
    report.location = dataClass.location.map Schema.Location.text

/-- A run that succeeds also does so if a class comes to have a type of the name of builders, and
only the class and those that extend it are affected. -/
theorem collision_isolated {hierarchy : Hierarchy} {config : Config} (acyclic : hierarchy.Acyclic)
    (inRange : hierarchy.InRange) (apart : NamesApart hierarchy config.builderName) {one : Context}
    (success : (({} : Pipeline).runHierarchy hierarchy config).result = .ok one) {id : ClassId}
    {dataClass : DataClass} (known : hierarchy.get? id = some dataClass)
    (free : config.builderName ∉ dataClass.nested) (position : Nat) :
    ∃ two, (({} : Pipeline).runHierarchy (hierarchy.nest id position config.builderName)
        config).result = .ok two ∧ Isolated hierarchy id dataClass one two := by
  have apartToo := namesApart_nest known position apart
  have inRangeToo := Hierarchy.inRange_nest hierarchy id position config.builderName inRange
  have buildable := (runHierarchy_succeeds_iff_buildable apart inRange).1 ⟨one, success⟩
  obtain ⟨two, successToo⟩ := (runHierarchy_succeeds_iff_buildable apartToo inRangeToo).2
    (buildable_nest known position buildable)
  refine ⟨two, successToo, ?_⟩
  obtain ⟨_, -, completes⟩ := (reached_of_runHierarchy success).completes
  obtain ⟨registry, registered, completesToo⟩ := (reached_of_runHierarchy successToo).completes
  have left := settled_of_completes completes apart inRange
  have right := settled_of_completes completesToo apartToo inRangeToo
  have reports := reports_of_success apart success
  have reportsToo := reports_of_success apartToo successToo
  have keeps := Hierarchy.keeps_nest inRange id position config.builderName
  have changed : (hierarchy.nest id position config.builderName).get? id =
      some (dataClass.nest position config.builderName) := by
    rw [Hierarchy.get?_nest, if_pos rfl, known, Option.map_some]
  -- A type of the name of builders is declared either way.
  have sizes : two.model.size = one.model.size := by
    have declared := length_declared_nest known position free
    have built := length_free_nest known position free
    rw [right.size, left.size]
    omega
  constructor
  · intro other otherClass there different further
    have kept := And.intro (Hierarchy.get?_eq_some_lt there) (And.intro different further)
    have thereToo := keeps.moved other otherClass kept there
    have same := sourceFile_kept keeps left right acyclic inRange apart apartToo sizes kept
    obtain ⟨found, listed⟩ := left.fileOf? there
    obtain ⟨foundToo, listedToo⟩ := right.fileOf? thereToo
    rw [same] at foundToo listedToo
    exact ⟨_, found, foundToo, listed, listedToo⟩
  · refine ⟨registry, registered, Option.not_isSome_iff_eq_none.1 fun builder => ?_⟩
    have bearing : bears (hierarchy.nest id position config.builderName) registry id = true := by
      unfold bears Builder.Registry.forClass?
      rw [changed]
      exact builder
    refine (right.bearing id _ changed).1 bearing ?_
    exact (dataClass.nested_nest_perm position config.builderName).mem_iff.2 List.mem_cons_self
  · rw [reports.generated, reportsToo.generated]
    exact length_free_nest known position free
  · refine ⟨missingReport config.builderName dataClass, ?_, rfl, rfl, rfl, rfl⟩
    refine reportsToo.warned.trans ((reports_nest_perm known position free).trans ?_)
    exact reports.warned.symm.cons _

/-- Dogs and cats are animals, and puppies are dogs. -/
def zoo : Hierarchy :=
  ⟨[{ name := "zoo.Animal"
      fields := [{ name := "name", element := .primitive .string }] },
    { name := "zoo.Dog"
      superclass := some 0
      nested := ["Collar"]
      fields := [{ name := "friends", element := .named "zoo.Animal", cardinality := .list }]
      location := some ⟨"zoo.toml", 7, 8⟩ },
    { name := "zoo.Puppy"
      superclass := some 1
      fields := [{ name := "weeks", element := .primitive .int }] },
    { name := "zoo.Cat"
      superclass := some 0
      fields := [{ name := "lives", element := .primitive .int }] }]⟩

/-- Dogs come to have a type of the name of builders. -/
theorem zoo_collision_isolated :
    ∃ one two,
      (({} : Pipeline).runHierarchy zoo {}).result = .ok one ∧
      (({} : Pipeline).runHierarchy (zoo.nest 1 0 "Builder") {}).result = .ok two ∧
      ¬ zoo.IsAncestor 1 3 ∧
      ∃ dataClass, zoo.get? 1 = some dataClass ∧ Isolated zoo 1 dataClass one two := by
  have acyclic : zoo.Acyclic := by
    apply Hierarchy.acyclic_of_descending
    intro id superclass link
    match id, link with
    | 1, link => exact Option.some.inj link ▸ by decide
    | 2, link => exact Option.some.inj link ▸ by decide
    | 3, link => exact Option.some.inj link ▸ by decide
  have inRange : zoo.InRange := by
    unfold Hierarchy.InRange
    decide
  have apart : NamesApart zoo "Builder" := by
    unfold NamesApart
    decide +kernel
  have besides : ¬ zoo.IsAncestor 1 3 := by
    rw [← Hierarchy.mem_ancestors_iff acyclic inRange]
    decide
  have known : zoo.get? 1 = some _ := rfl
  have success : (({} : Pipeline).runHierarchy zoo {}).result = .ok _ :=
    result_of_failure_eq_none (by decide +kernel)
  obtain ⟨two, successToo, isolated⟩ :=
    @collision_isolated zoo {} acyclic inRange apart _ success 1 _ known (by decide) 0
  exact ⟨_, two, success, successToo, besides, _, known, isolated⟩

end BuilderSynthesis.Run
