import BuilderSynthesis.Proofs.Declaration
import BuilderSynthesis.Proofs.Naming
import BuilderSynthesis.Proofs.Outcome
import BuilderSynthesis.Run.Declaring

/-!
Contract: the types that a hierarchy stands for, before there are builders.

Owns:
- `productDeclaration` and `hostDeclaration`, what is declared for a class and for a
  nested type that it has already;
- `declareClasses_succeeds_iff`, exactly when all classes of a list can be declared;
- `Declares`, what the types are then.
-/

namespace BuilderSynthesis.Run

open BuilderSynthesis.Code (Declaration Model TypeId)
open BuilderSynthesis.Schema (ClassId DataClass Hierarchy)

/-- The names of a list that are neither among those given nor mentioned before, in order. -/
def newNames : List String → List String → List String
  | _, [] => []
  | known, name :: rest =>
      if name ∈ known then newNames known rest else name :: newNames (known ++ [name]) rest

theorem mem_newNames (known names : List String) (name : String) :
    name ∈ newNames known names ↔ name ∈ names ∧ name ∉ known := by
  induction names generalizing known with
  | nil => simp [newNames]
  | cons first rest inductionHypothesis =>
      by_cases mentioned : first ∈ known
      · simp only [newNames, mentioned, if_true, inductionHypothesis, List.mem_cons]
        constructor
        · exact fun ⟨later, new⟩ => ⟨.inr later, new⟩
        · rintro ⟨same | later, new⟩
          · exact absurd (same ▸ mentioned) new
          · exact ⟨later, new⟩
      · simp only [newNames, mentioned, if_false, List.mem_cons, inductionHypothesis,
          List.mem_append, List.not_mem_nil, or_false, not_or]
        by_cases same : name = first
        · simp [same, mentioned]
        · simp [same]

theorem nodup_newNames (known names : List String) : (newNames known names).Nodup := by
  induction names generalizing known with
  | nil => simp [newNames]
  | cons first rest inductionHypothesis =>
      by_cases mentioned : first ∈ known
      · simpa [newNames, mentioned] using inductionHypothesis known
      · simp only [newNames, mentioned, if_false, List.nodup_cons]
        refine ⟨fun again => ?_, inductionHypothesis (known ++ [first])⟩
        exact ((mem_newNames _ _ _).1 again).2 (by simp)

/-- The nested types that a class has already, each once. -/
def hostNames (dataClass : DataClass) : List String :=
  newNames [] dataClass.nested

theorem mem_hostNames (dataClass : DataClass) (name : String) :
    name ∈ hostNames dataClass ↔ name ∈ dataClass.nested := by
  simp [hostNames, mem_newNames]

def nestedName (dataClass : DataClass) (name : String) : String :=
  dataClass.name ++ "." ++ name

/-- The qualified names of a class and of the nested types that it has already. -/
def declaredNames (dataClass : DataClass) : List String :=
  dataClass.name :: (hostNames dataClass).map (nestedName dataClass)

def productDeclaration (dataClass : DataClass) (nested : List (String × TypeId)) : Declaration :=
  { header := classHeader dataClass
    qualifiedName := dataClass.name
    package := Text.beforeLastDot? dataClass.name
    fields := dataClass.fields.map declaredField
    nested := nested }

def hostDeclaration (dataClass : DataClass) (outer : TypeId) (name : String) : Declaration :=
  { header := { name := name, isStatic := true }
    qualifiedName := nestedName dataClass name
    package := Text.beforeLastDot? dataClass.name
    outer := some outer }

/-! ### One class -/

/-- Fields can be added to the latest type if no name is taken, and then they follow the others. -/
theorem declareFields_eq_ok_iff (model : Model) (declaration : Declaration)
    (fields : List Schema.Field) {after : Model} :
    fields.foldlM (fun model' field => model'.declareField model.size (declaredField field))
        (model.insert declaration) = .ok after ↔
      (fields.map Schema.Field.name).Nodup ∧
        (∀ field ∈ fields, field.name ∉ declaration.fields.map Code.Field.name) ∧
        after = model.insert
          { declaration with fields := declaration.fields ++ fields.map declaredField } := by
  induction fields generalizing declaration with
  | nil => simp [pure, Except.pure, eq_comm]
  | cons field rest inductionHypothesis =>
      have step : ∀ middle, (model.insert declaration).declareField model.size
            (declaredField field) = .ok middle ↔
          field.name ∉ declaration.fields.map Code.Field.name ∧
            middle = model.insert (declaration.addField (declaredField field)) := by
        intro middle
        rw [Model.declareField_eq_ok_iff, Model.get?_insert_size, Model.update_insert_size]
        · simp [declaredField]
        · rfl
      rw [List.foldlM_cons, Outcome.bind_eq_ok_iff]
      simp only [step, List.map_cons, List.nodup_cons, List.forall_mem_cons]
      constructor
      · rintro ⟨middle, ⟨new, rfl⟩, others⟩
        obtain ⟨distinct, apart, rfl⟩ := (inductionHypothesis _).1 others
        simp only [Declaration.addField, List.map_append, List.mem_append, List.map_cons,
          List.map_nil, List.mem_singleton, not_or] at apart
        refine ⟨⟨fun again => ?_, distinct⟩, ⟨new, fun other member => (apart other member).1⟩, ?_⟩
        · obtain ⟨other, member, same⟩ := List.mem_map.1 again
          exact (apart other member).2 same
        · simp [Declaration.addField]
      · rintro ⟨⟨once, distinct⟩, ⟨new, apart⟩, rfl⟩
        refine ⟨_, ⟨new, rfl⟩, (inductionHypothesis _).2 ⟨distinct, fun other member => ?_, ?_⟩⟩
        · simp only [Declaration.addField, List.map_append, List.mem_append, List.map_cons,
            List.map_nil, List.mem_singleton, not_or]
          exact ⟨apart other member, fun same => once (List.mem_map.2 ⟨other, member, same⟩)⟩
        · simp [Declaration.addField]

/-- A class can be declared if its name is free and its fields have different names; its nested
types come after that, whatever they are. -/
theorem declareDataClass_eq_ok_iff {dataClass : DataClass} {model : Model}
    {result : Model × List Diagnostic} :
    declareDataClass dataClass model = .ok result ↔
      model.lookup dataClass.name = none ∧ (dataClass.fields.map Schema.Field.name).Nodup ∧
        result = declareNestedTypes dataClass model.size dataClass.nested
          (model.insert (productDeclaration dataClass [])) := by
  unfold declareDataClass
  rw [Outcome.bind_eq_ok_iff]
  constructor
  · rintro ⟨⟨id, inserted⟩, declared, rest⟩
    obtain ⟨free, rfl, rfl⟩ := Model.declareClass_eq_ok_iff.1 declared
    obtain ⟨middle, added, same⟩ := Outcome.bind_eq_ok_iff.1 rest
    obtain ⟨distinct, -, rfl⟩ := (declareFields_eq_ok_iff _ _ _).1 added
    exact ⟨free, distinct, (Except.ok.inj same).symm⟩
  · rintro ⟨free, distinct, rfl⟩
    refine ⟨_, Model.declareClass_eq_ok_iff.2 ⟨free, rfl, rfl⟩, Outcome.bind_eq_ok_iff.2 ?_⟩
    exact ⟨_, (declareFields_eq_ok_iff _ _ _).2 ⟨distinct, by simp, rfl⟩, rfl⟩

/-- What adding nested types of a class to its type leaves. -/
structure AddsNested (dataClass : DataClass) (outer : TypeId) (added : List String)
    (model after : Model) : Prop where
  names : after.names = model.names ++ added.map (nestedName dataClass)
  indexed : model.Indexed → after.Indexed
  /-- The type of the class lists them. -/
  listed : ∀ parent, model.get? outer = some parent →
    ∃ nested, nested.map Prod.fst = added ∧
      after.get? outer = some { parent with nested := parent.nested ++ nested }
  others : ∀ id < model.size, id ≠ outer → after.get? id = model.get? id
  fresh : ∀ id declaration, model.size ≤ id → after.get? id = some declaration →
    ∃ name ∈ added, declaration = hostDeclaration dataClass outer name

/-- Adding one nested type is a special case. -/
theorem addsNested_single (dataClass : DataClass) {outer : TypeId} {model : Model}
    {parent : Declaration} (found : model.get? outer = some parent) (name : String) :
    AddsNested dataClass outer [name] model
      (model.nestIn outer (hostDeclaration dataClass outer name)) := by
  constructor
  · exact Model.names_nestIn model outer _
  · exact fun indexed => Model.indexed_nestIn indexed outer _
  · intro other same
    exact ⟨[(name, model.size)], rfl, Model.get?_nestIn_outer same _⟩
  · exact fun id small different => Model.get?_nestIn_of_lt outer _ small different
  · intro id declaration large present
    have known := Model.get?_eq_some_lt found
    rcases Model.get?_nestIn_cases found present with ⟨rfl, -⟩ | old | ⟨-, rfl⟩
    · omega
    · exact absurd (Model.get?_eq_some_lt old) (Nat.not_lt.2 large)
    · exact ⟨name, List.mem_singleton_self name, rfl⟩

theorem AddsNested.trans {dataClass : DataClass} {outer : TypeId} {first second : List String}
    {model middle after : Model} {parent : Declaration} (found : model.get? outer = some parent)
    (before : AddsNested dataClass outer first model middle)
    (later : AddsNested dataClass outer second middle after) :
    AddsNested dataClass outer (first ++ second) model after := by
  have known := Model.get?_eq_some_lt found
  have grows : model.size ≤ middle.size := by
    rw [← Model.length_names, ← Model.length_names, before.names, List.length_append]
    omega
  constructor
  · rw [later.names, before.names, List.map_append, List.append_assoc]
  · exact fun indexed => later.indexed (before.indexed indexed)
  · intro other same
    obtain ⟨nested, keys, there⟩ := before.listed other same
    obtain ⟨more, moreKeys, finally'⟩ := later.listed _ there
    refine ⟨nested ++ more, by rw [List.map_append, keys, moreKeys], ?_⟩
    rw [finally']
    simp only [List.append_assoc]
  · intro id small different
    rw [later.others id (by omega) different, before.others id small different]
  · intro id declaration large present
    by_cases new : middle.size ≤ id
    · obtain ⟨name, member, same⟩ := later.fresh id declaration new present
      exact ⟨name, List.mem_append_right first member, same⟩
    · rw [later.others id (by omega) (by omega)] at present
      obtain ⟨name, member, same⟩ := before.fresh id declaration large present
      exact ⟨name, List.mem_append_left second member, same⟩

theorem addsNested_nil (dataClass : DataClass) (outer : TypeId) (model : Model) :
    AddsNested dataClass outer [] model model := by
  refine ⟨by simp, id, fun parent found => ⟨[], rfl, by simpa using found⟩, fun _ _ _ => rfl, ?_⟩
  intro id declaration large found
  exact absurd (Model.get?_eq_some_lt found) (Nat.not_lt.2 large)

/-- Of the nested types of a class those that are new are added to its type. -/
theorem declareNestedTypes_adds {dataClass : DataClass} {outer : TypeId} {model : Model}
    {parent : Declaration} (found : model.get? outer = some parent)
    (named : parent.qualifiedName = dataClass.name)
    (packaged : parent.package = Text.beforeLastDot? dataClass.name) (names : List String) :
    AddsNested dataClass outer (newNames (parent.nested.map Prod.fst) names) model
      (declareNestedTypes dataClass outer names model).1 := by
  induction names generalizing model parent with
  | nil => exact addsNested_nil dataClass outer model
  | cons name rest inductionHypothesis =>
      unfold declareNestedTypes newNames
      rw [Model.declareNested_eq found]
      by_cases mentioned : name ∈ parent.nested.map Prod.fst
      · rw [if_pos mentioned, if_pos mentioned]
        exact inductionHypothesis found named packaged
      · rw [if_neg mentioned, if_neg mentioned]
        have first := addsNested_single dataClass found name
        obtain ⟨nested, keys, there⟩ := first.listed parent found
        have others := inductionHypothesis there named packaged
        rw [List.map_append, keys] at others
        have both := first.trans found others
        simpa only [hostDeclaration, nestedName, named, packaged, List.singleton_append] using both

/-! ### All classes -/

/-- A declaration is that of a class of a list or of a nested type of one. -/
def StandsFor (classes : List DataClass) (declaration : Declaration) : Prop :=
  ∃ dataClass ∈ classes,
    (∃ nested, declaration = productDeclaration dataClass nested) ∨
      ∃ outer, ∃ name ∈ hostNames dataClass, declaration = hostDeclaration dataClass outer name

/-- What declaring classes adds to a model. -/
structure Declares (classes : List DataClass) (model after : Model) : Prop where
  names : after.names = model.names ++ classes.flatMap declaredNames
  indexed : model.Indexed → after.Indexed
  earlier : ∀ id < model.size, after.get? id = model.get? id
  product : ∀ dataClass ∈ classes, ∃ id nested, nested.map Prod.fst = hostNames dataClass ∧
    after.get? id = some (productDeclaration dataClass nested)
  fresh : ∀ id declaration, model.size ≤ id → after.get? id = some declaration →
    StandsFor classes declaration

theorem declares_nil (model : Model) : Declares [] model model := by
  refine ⟨by simp, id, fun _ _ => rfl, by simp, fun id declaration large found => ?_⟩
  exact absurd (Model.get?_eq_some_lt found) (Nat.not_lt.2 large)

theorem StandsFor.mono {classes more : List DataClass} {declaration : Declaration}
    (stands : StandsFor classes declaration) (subset : classes ⊆ more) :
    StandsFor more declaration := by
  obtain ⟨dataClass, member, kind⟩ := stands
  exact ⟨dataClass, subset member, kind⟩

theorem Declares.append {first second : List DataClass} {model middle after : Model}
    (before : Declares first model middle) (later : Declares second middle after) :
    Declares (first ++ second) model after := by
  have grows : model.size ≤ middle.size := by
    rw [← Model.length_names, ← Model.length_names, before.names, List.length_append]
    omega
  constructor
  · rw [later.names, before.names, List.flatMap_append, List.append_assoc]
  · exact fun indexed => later.indexed (before.indexed indexed)
  · intro id small
    rw [later.earlier id (by omega), before.earlier id small]
  · intro dataClass member
    rcases List.mem_append.1 member with left | right
    · obtain ⟨id, nested, keys, found⟩ := before.product dataClass left
      have small := Model.get?_eq_some_lt found
      exact ⟨id, nested, keys, by rw [later.earlier id small, found]⟩
    · exact later.product dataClass right
  · intro id declaration large found
    by_cases new : middle.size ≤ id
    · exact (later.fresh id declaration new found).mono (List.subset_append_right first second)
    · rw [later.earlier id (by omega)] at found
      exact (before.fresh id declaration large found).mono (List.subset_append_left first second)

/-- A class adds its own type and its nested types. -/
theorem declareDataClass_declares {dataClass : DataClass} {model : Model}
    {result : Model × List Diagnostic} (declared : declareDataClass dataClass model = .ok result) :
    Declares [dataClass] model result.1 := by
  obtain ⟨-, -, rfl⟩ := declareDataClass_eq_ok_iff.1 declared
  have there := Model.get?_insert_size model (productDeclaration dataClass [])
  have adds := declareNestedTypes_adds there rfl rfl dataClass.nested
  obtain ⟨nested, keys, found⟩ := adds.listed _ there
  have size := Model.size_insert model (productDeclaration dataClass [])
  have product : (declareNestedTypes dataClass model.size dataClass.nested
      (model.insert (productDeclaration dataClass []))).1.get? model.size =
        some (productDeclaration dataClass nested) := by
    rw [found]
    rfl
  constructor
  · rw [adds.names, Model.names_insert]
    simp [declaredNames, hostNames, productDeclaration]
  · exact fun indexed => adds.indexed (Model.indexed_insert indexed _)
  · intro id small
    rw [adds.others id (by omega) (by omega), Model.get?_insert_of_lt _ _ small]
  · intro other member
    obtain rfl := List.mem_singleton.1 member
    exact ⟨model.size, nested, keys, product⟩
  · intro id declaration large present
    refine ⟨dataClass, List.mem_singleton_self dataClass, ?_⟩
    by_cases own : id = model.size
    · rw [own, product] at present
      exact .inl ⟨nested, (Option.some.inj present).symm⟩
    · obtain ⟨name, member, same⟩ := adds.fresh id declaration (by omega) present
      exact .inr ⟨model.size, name, member, same⟩

theorem declareClasses_cons_eq_ok_iff {dataClass : DataClass} {rest : List DataClass}
    {model after : Model} :
    (∃ reports, declareClasses (dataClass :: rest) model = .ok (after, reports)) ↔
      ∃ middle, declareDataClass dataClass model = .ok middle ∧
        ∃ reports, declareClasses rest middle.1 = .ok (after, reports) := by
  rw [declareClasses]
  simp only [Outcome.bind_eq_ok_iff, Outcome.mapError_eq_ok_iff, Prod.exists]
  constructor
  · rintro ⟨reports, middle, first, declared, other, others, declaredLater, same⟩
    simp only [pure, Except.pure, Except.ok.injEq, Prod.mk.injEq] at same
    exact ⟨middle, first, declared, others, same.1 ▸ declaredLater⟩
  · rintro ⟨middle, first, declared, others, declaredLater⟩
    exact ⟨first ++ others, middle, first, declared, after, others, declaredLater, rfl⟩

theorem declareClasses_declares {classes : List DataClass} {model after : Model}
    {reports : List Diagnostic} (declared : declareClasses classes model = .ok (after, reports)) :
    Declares classes model after := by
  induction classes generalizing model reports with
  | nil =>
      cases declared
      exact declares_nil _
  | cons dataClass rest inductionHypothesis =>
      obtain ⟨middle, first, others, declaredLater⟩ :=
        declareClasses_cons_eq_ok_iff.1 ⟨reports, declared⟩
      exact (declareDataClass_declares first).append (inductionHypothesis declaredLater)

/-- Classes whose fields have different names, none under a name that is taken or that a class
before it takes. -/
def Declarable (taken : List String) (classes : List DataClass) : Prop :=
  (∀ dataClass ∈ classes, (dataClass.fields.map Schema.Field.name).Nodup) ∧
    (∀ dataClass ∈ classes, dataClass.name ∉ taken) ∧
    classes.Pairwise (fun earlier later => later.name ∉ declaredNames earlier)

theorem Declarable.distinct {taken : List String} {classes : List DataClass}
    (declarable : Declarable taken classes) : (classes.map DataClass.name).Nodup := by
  refine List.pairwise_map.2 (declarable.2.2.imp ?_)
  intro earlier later different same
  exact different (List.mem_cons.2 (.inl same.symm))

/-- Classes can be declared exactly if names stay apart. -/
theorem declareClasses_succeeds_iff {classes : List DataClass} {model : Model}
    (indexed : model.Indexed) :
    (∃ after reports, declareClasses classes model = .ok (after, reports)) ↔
      Declarable model.names classes := by
  induction classes generalizing model with
  | nil => simp [declareClasses, Declarable]
  | cons dataClass rest inductionHypothesis =>
      have free := Model.lookup_eq_none_iff indexed dataClass.name
      simp only [declareClasses_cons_eq_ok_iff]
      constructor
      · rintro ⟨after, middle, first, later⟩
        have declares := declareDataClass_declares first
        obtain ⟨new, distinct, -⟩ := declareDataClass_eq_ok_iff.1 first
        obtain ⟨fields, apart, pairwise⟩ :=
          (inductionHypothesis (declares.indexed indexed)).1 ⟨after, later⟩
        rw [declares.names] at apart
        simp only [List.flatMap_cons, List.flatMap_nil, List.append_nil, List.mem_append,
          not_or] at apart
        exact ⟨List.forall_mem_cons.2 ⟨distinct, fields⟩,
          List.forall_mem_cons.2 ⟨free.1 new, fun other member => (apart other member).1⟩,
          List.pairwise_cons.2 ⟨fun other member => (apart other member).2, pairwise⟩⟩
      · rintro ⟨fields, apart, pairwise⟩
        rw [List.forall_mem_cons] at fields apart
        rw [List.pairwise_cons] at pairwise
        have first := declareDataClass_eq_ok_iff.2 ⟨free.2 apart.1, fields.1, rfl⟩
        have declares := declareDataClass_declares first
        have others : ∀ other ∈ rest, other.name ∉
            (declareNestedTypes dataClass model.size dataClass.nested
              (model.insert (productDeclaration dataClass []))).1.names := by
          intro other member
          rw [declares.names]
          simp only [List.flatMap_cons, List.flatMap_nil, List.append_nil, List.mem_append, not_or]
          exact ⟨apart.2 other member, pairwise.1 other member⟩
        obtain ⟨after, later⟩ :=
          (inductionHypothesis (declares.indexed indexed)).2 ⟨fields.2, others, pairwise.2⟩
        exact ⟨after, _, first, later⟩

end BuilderSynthesis.Run
