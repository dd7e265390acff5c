import BuilderSynthesis.Proofs.Nesting
import BuilderSynthesis.Proofs.Rendering
import BuilderSynthesis.Proofs.Renumbering

/-!
Contract: how the types of classes that two programs have in common correspond.

Types of one name correspond, if a class that is kept gives it. What a type declares, extends and
contains depends on names alone, and on the class and those above it. So types that correspond are
alike, and both programs have the same files for the classes that are kept.

Owns: `Settled`, all that is known of a program; `corresponds`, `sourceFile_kept` and, for all
classes in another order, `sourceFiles_perm`.
-/

namespace BuilderSynthesis.Code.Model

theorem getElem?_names (model : Model) (id : TypeId) :
    model.names[id]? = (model.get? id).map Declaration.qualifiedName :=
  List.getElem?_map ..

end BuilderSynthesis.Code.Model

namespace BuilderSynthesis.Builder

open BuilderSynthesis.Code (TypeRef)
open BuilderSynthesis.Schema (ClassId DataClass Policy)

variable (policy : Policy) (place : ClassId → ClassId) (ancestors : List DataClass)

theorem inheritedSetters_renumber (builder : TypeRef) (declared hidden : List String) :
    inheritedSetters policy builder (ancestors.map (DataClass.renumber place)) declared hidden =
      inheritedSetters policy builder ancestors declared hidden := by
  induction ancestors generalizing declared hidden with
  | nil => rfl
  | cons first rest inductionHypothesis =>
      rw [List.map_cons, inheritedSetters_cons, inheritedSetters_cons, inductionHypothesis]
      rfl

/-- The methods of a builder do not depend on the positions of classes. -/
theorem builderMethods_renumber (productType builderType : TypeRef) (dataClass : DataClass) :
    builderMethods policy productType builderType (dataClass.renumber place)
        (ancestors.map (DataClass.renumber place)) =
      builderMethods policy productType builderType dataClass ancestors := by
  have last : initEnd (ancestors.map (DataClass.renumber place)) = initEnd ancestors := by
    cases ancestors <;> rfl
  unfold builderMethods
  rw [inheritedSetters_renumber, last]
  rfl

end BuilderSynthesis.Builder

namespace BuilderSynthesis.Run

open BuilderSynthesis.Builder (Workshop builderTypeName)
open BuilderSynthesis.Code (Declaration Model TypeId TypeRef)
open BuilderSynthesis.Files (TextFile)
open BuilderSynthesis.Java (AlikeAt Corresponds filePath sourceFile sourceFiles)
open BuilderSynthesis.Schema (ClassId DataClass Hierarchy)
open BuilderSynthesis.Schema.Hierarchy (Keeps Renumbers)

/-! ### One program -/

/-- All that is known of the types that a run leaves, where no two would have one name. -/
structure Settled (hierarchy : Hierarchy) (config : Config) (bears : ClassId → Bool)
    (model : Model) : Prop where
  program : Program hierarchy config bears model
  contains : Contains hierarchy config.builderName bears model
  origin : ∀ type declaration, model.get? type = some declaration →
    Origin hierarchy config.builderName bears model type declaration
  bearing : ∀ id dataClass, hierarchy.get? id = some dataClass →
    (bears id = true ↔ config.builderName ∉ dataClass.nested)
  size : model.size = (hierarchy.classes.flatMap declaredNames).length +
    (hierarchy.classes.filter (fun dataClass => config.builderName ∉ dataClass.nested)).length

/-- What a type of a class is: its product, its builder, or another nested type. -/
inductive Role (builderName : String) (bears : ClassId → Bool) (id : ClassId)
    (dataClass : DataClass) (declaration : Declaration) : Prop where
  | product (named : declaration.qualifiedName = dataClass.name)
  | builder (bearing : bears id = true)
      (named : declaration.qualifiedName = builderTypeName builderName dataClass.name)
  | host (outer : TypeId) (inner : String)
      (same : declaration = hostDeclaration dataClass outer inner)

theorem settled_of_completes {hierarchy : Hierarchy} {config : Config} {workshop : Workshop}
    (completes : Completes hierarchy config workshop)
    (apart : NamesApart hierarchy config.builderName) (inRange : hierarchy.InRange) :
    Settled hierarchy config (bears hierarchy workshop.registry) workshop.model := by
  have distinct := nodup_names completes apart
  exact ⟨program_of_completes completes distinct inRange,
    contains_of_completes completes distinct,
    fun _ _ => origin_of_completes completes distinct,
    fun _ _ => bears_iff_of_completes completes apart,
    size_of_completes completes apart⟩

section

variable {hierarchy : Hierarchy} {config : Config} {bears : ClassId → Bool} {model : Model}
  (settled : Settled hierarchy config bears model) {id : ClassId} {dataClass : DataClass}
  (known : hierarchy.get? id = some dataClass) {declaration : Declaration}

include settled known

theorem Settled.named_product
    (found : model.get? (productId hierarchy model id) = some declaration) :
    declaration.qualifiedName = dataClass.name := by
  obtain ⟨product, there, isProduct⟩ := settled.program.product id dataClass known
  obtain rfl := Option.some.inj (found.symm.trans there)
  exact isProduct.named

theorem Settled.named_builder (bearing : bears id = true)
    (found : model.get? (builderId hierarchy config.builderName model id) = some declaration) :
    declaration.qualifiedName = builderTypeName config.builderName dataClass.name := by
  obtain ⟨builder, there, isBuilder⟩ := settled.program.builder id dataClass known bearing
  obtain rfl := Option.some.inj (found.symm.trans there)
  exact isBuilder.named

/-- A type with one of the names of a class is one of the types of the class. -/
theorem Settled.role {type : TypeId} (found : model.get? type = some declaration)
    (apart : NamesApart hierarchy config.builderName)
    (own : declaration.qualifiedName ∈
      typeNames config.builderName dataClass.name dataClass.nested) :
    Role config.builderName bears id dataClass declaration := by
  -- A name belongs to one class.
  have single : ∀ {owner : DataClass}, owner ∈ hierarchy.classes →
      declaration.qualifiedName ∈ typeNames config.builderName owner.name owner.nested →
      owner = dataClass := fun member listed =>
    apart.disjoint member (List.mem_of_getElem? known) listed own
  cases settled.origin type declaration found with
  | product owner ownerClass there position =>
      have same := settled.named_product there (position ▸ found)
      obtain rfl := single (List.mem_of_getElem? there) (mem_typeNames_iff.2 (.inl same))
      exact .product same
  | builder owner ownerClass there bearing position =>
      have same := settled.named_builder there bearing (position ▸ found)
      obtain rfl := single (List.mem_of_getElem? there)
        (mem_typeNames_iff.2 (.inr ⟨_, .inl rfl, same⟩))
      obtain rfl := Hierarchy.eq_of_name settled.program.classes there known rfl
      exact .builder bearing same
  | host owner ownerClass there outer inner listed isHost =>
      have same : declaration.qualifiedName = ownerClass.name ++ "." ++ inner := by
        rw [isHost]
        rfl
      obtain rfl := single (List.mem_of_getElem? there)
        (mem_typeNames_iff.2 (.inr ⟨_, .inr ((mem_hostNames ownerClass inner).1 listed), same⟩))
      exact .host outer inner isHost

end

/-- The types that are in no other are those of classes. -/
theorem Settled.topLevel_perm {hierarchy : Hierarchy} {config : Config} {bears : ClassId → Bool}
    {model : Model} (settled : Settled hierarchy config bears model) :
    (model.topLevel.map Prod.fst).Perm
      ((List.range hierarchy.size).map (productId hierarchy model)) := by
  have first : (model.topLevel.map Prod.fst).Nodup := model.nodup_fst_topLevel
  have second : ((List.range hierarchy.size).map (productId hierarchy model)).Nodup := by
    refine List.Nodup.map_on ?_ List.nodup_range
    intro left one right two same
    exact settled.program.productId_injective (List.mem_range.1 one) (List.mem_range.1 two) same
  refine (List.perm_ext_iff_of_nodup first second).2 fun type => ?_
  rw [List.mem_map, List.mem_map]
  constructor
  · rintro ⟨⟨_, declaration⟩, member, rfl⟩
    obtain ⟨found, outside⟩ := model.mem_topLevel_iff.1 member
    cases settled.origin _ declaration found with
    | product id dataClass known here =>
        exact ⟨id, List.mem_range.2 (Hierarchy.get?_eq_some_lt known), here.symm⟩
    | builder id dataClass known bearing here =>
        obtain ⟨builder, there, -, inside, -⟩ :=
          settled.contains.builder id dataClass known bearing
        rw [← here] at there
        obtain rfl := Option.some.inj (found.symm.trans there)
        rw [outside] at inside
        cases inside
    | host id dataClass known outer name listed same =>
        rw [same] at outside
        cases outside
  · rintro ⟨id, small, rfl⟩
    obtain ⟨dataClass, known⟩ := Hierarchy.exists_get? (List.mem_range.1 small)
    obtain ⟨declaration, found, -, outside, -⟩ := settled.contains.product id dataClass known
    exact ⟨(_, declaration), model.mem_topLevel_iff.2 ⟨found, outside⟩, rfl⟩

/-- The files of a program, in the order of the classes. -/
theorem Settled.sourceFiles_perm {hierarchy : Hierarchy} {config : Config}
    {bears : ClassId → Bool} {model : Model} (settled : Settled hierarchy config bears model) :
    (sourceFiles model).Perm
      ((List.range hierarchy.size).map (fun id =>
        sourceFile model (productId hierarchy model id))) := by
  have files : sourceFiles model = (model.topLevel.map Prod.fst).map (sourceFile model) := by
    rw [List.map_map]
    rfl
  rw [files]
  refine (settled.topLevel_perm.map _).trans (.of_eq ?_)
  rw [List.map_map]
  rfl

/-- Each class has a file at its path. -/
theorem Settled.paths_perm {hierarchy : Hierarchy} {config : Config} {bears : ClassId → Bool}
    {model : Model} (settled : Settled hierarchy config bears model) :
    ((sourceFiles model).map TextFile.path).Perm
      (hierarchy.classes.map (fun dataClass => filePath dataClass.name)) := by
  refine (settled.sourceFiles_perm.map _).trans (.of_eq ?_)
  rw [List.map_map]
  apply List.ext_getElem?
  intro id
  rw [List.getElem?_map, List.getElem?_map]
  by_cases known : id < hierarchy.size
  · obtain ⟨dataClass, there⟩ := Hierarchy.exists_get? known
    obtain ⟨declaration, found, isProduct⟩ := settled.program.product id dataClass there
    have here : hierarchy.classes[id]? = some dataClass := there
    rw [List.getElem?_range known, here, Option.map_some, Option.map_some, Function.comp_apply,
      ← Java.sourcePath_eq, Java.sourceFile, Model.qualifiedName, found]
    simp only [isProduct.named]
  · have past : hierarchy.size ≤ id := Nat.not_lt.1 known
    rw [List.getElem?_eq_none past, List.getElem?_eq_none (List.length_range.trans_le past)]
    rfl

/-- Classes have files of their own, unless their names contain separators of paths. -/
theorem nodup_filePath {classes : List DataClass} (distinct : (classes.map DataClass.name).Nodup)
    (plain : ∀ dataClass ∈ classes, '/' ∉ dataClass.name.toList) :
    (classes.map (fun dataClass => filePath dataClass.name)).Nodup := by
  refine List.Nodup.map_on ?_ distinct.of_map
  intro one member other memberToo same
  rw [← Java.sourcePath_eq, ← Java.sourcePath_eq] at same
  exact List.inj_on_of_nodup_map distinct member memberToo
    (Java.sourcePath_inj (plain one member) (plain other memberToo) same)

/-! ### Two programs -/

/-- One of the names that kept classes give to types. -/
def IsKeptName (hierarchy : Hierarchy) (builderName : String) (kept : ClassId → Prop)
    (name : String) : Prop :=
  ∃ id dataClass, kept id ∧ hierarchy.get? id = some dataClass ∧
    name ∈ typeNames builderName dataClass.name dataClass.nested

/-- Types of two programs with one name, which is one of some names. -/
def SameName (named : String → Prop) (model other : Model) (left right : TypeId) : Prop :=
  ∃ name, named name ∧ model.names[left]? = some name ∧ other.names[right]? = some name

theorem forall₂_sameName {named : String → Prop} {model other : Model} {outer : String}
    {one two : List (String × TypeId)} (keys : one.map Prod.fst = two.map Prod.fst)
    (inner : ∀ entry ∈ one, named (outer ++ "." ++ entry.1))
    (left : ∀ entry ∈ one, model.names[entry.2]? = some (outer ++ "." ++ entry.1))
    (right : ∀ entry ∈ two, other.names[entry.2]? = some (outer ++ "." ++ entry.1)) :
    List.Forall₂ (fun left right => SameName named model other left.2 right.2) one two := by
  induction one generalizing two with
  | nil =>
      rw [List.map_nil, eq_comm, List.map_eq_nil_iff] at keys
      subst keys
      exact .nil
  | cons first rest inductionHypothesis =>
      cases two with
      | nil => cases keys
      | cons second others =>
          obtain ⟨same, later⟩ := List.cons.inj keys
          rw [List.forall_mem_cons] at inner left right
          refine .cons ⟨_, inner.1, left.1, ?_⟩
            (inductionHypothesis later inner.2 left.2 right.2)
          rw [right.1, same]

section

variable {first second : Hierarchy} {place : ClassId → ClassId} {kept : ClassId → Prop}
  (keeps : Keeps first second place kept) {config : Config} {bears others : ClassId → Bool}
  {model other : Model} (left : Settled first config bears model)
  (right : Settled second config others other)

include keeps left right

theorem bears_place {id : ClassId} (here : kept id) : others (place id) = bears id := by
  obtain ⟨dataClass, known⟩ := Hierarchy.exists_get? (keeps.known id here)
  rw [Bool.eq_iff_iff, left.bearing id dataClass known,
    right.bearing _ _ (keeps.moved id dataClass here known)]
  rfl

theorem typeRef_product_place {id : ClassId} (here : kept id) :
    other.typeRef (productId second other (place id)) =
      model.typeRef (productId first model id) := by
  obtain ⟨dataClass, found⟩ := Hierarchy.exists_get? (keeps.known id here)
  rw [left.program.typeRef_product found,
    right.program.typeRef_product (keeps.moved id dataClass here found)]
  rfl

theorem typeRef_builder_place {id : ClassId} (here : kept id) (bearing : bears id = true) :
    other.typeRef (builderId second config.builderName other (place id)) =
      model.typeRef (builderId first config.builderName model id) := by
  obtain ⟨dataClass, found⟩ := Hierarchy.exists_get? (keeps.known id here)
  have there : others (place id) = true := (bears_place keeps left right here).trans bearing
  rw [left.program.typeRef_builder found bearing,
    right.program.typeRef_builder (keeps.moved id dataClass here found) there]
  rfl

theorem alike_product {id : ClassId} {dataClass : DataClass} (here : kept id)
    (known : first.get? id = some dataClass) :
    AlikeAt model other (SameName (IsKeptName first config.builderName kept) model other)
      (productId first model id) (productId second other (place id)) := by
  have moved := keeps.moved id dataClass here known
  obtain ⟨one, found, isProduct⟩ := left.program.product id dataClass known
  obtain ⟨two, there, isProductToo⟩ := right.program.product _ _ moved
  obtain ⟨declaration, same, package, -, keys⟩ := left.contains.product id dataClass known
  obtain rfl := Option.some.inj (found.symm.trans same)
  obtain ⟨declaration, same, packageToo, -, keysToo⟩ := right.contains.product _ _ moved
  obtain rfl := Option.some.inj (there.symm.trans same)
  have named : two.qualifiedName = one.qualifiedName := by
    rw [isProduct.named, isProductToo.named]
    rfl
  refine ⟨one, two, found, there, ?_, named.symm, ?_, ?_, ?_, ?_, ?_⟩
  · rw [isProduct.header, isProductToo.header]
    rfl
  · rw [package, packageToo]
    rfl
  · rw [isProduct.superclass, isProductToo.superclass, keeps.superclass here]
    cases link : first.superclass id with
    | none => rfl
    | some above =>
        have keptAbove := keeps.closed id above here link
        exact congrArg some (typeRef_product_place keeps left right keptAbove).symm
  · rw [isProduct.fields, isProductToo.fields]
    rfl
  · rw [isProduct.methods, isProductToo.methods, bears_place keeps left right here]
    rfl
  · refine forall₂_sameName ?_ (fun entry member => ?_) (left.contains.nests _ one found) ?_
    · rw [keys, keysToo, bears_place keeps left right here]
      rfl
    · refine ⟨id, dataClass, here, known, mem_typeNames_iff.2 (.inr ⟨entry.1, ?_, ?_⟩)⟩
      · have listed : entry.1 ∈ one.nested.map Prod.fst := List.mem_map_of_mem member
        rw [keys] at listed
        rcases List.mem_append.1 listed with host | builder
        · exact .inr ((mem_hostNames dataClass entry.1).1 host)
        · split at builder
          · exact .inl (List.mem_singleton.1 builder)
          · cases builder
      · rw [isProduct.named]
    · rw [← named]
      exact right.contains.nests _ two there

section

variable (acyclic : first.Acyclic) (inRange : first.InRange)

include acyclic inRange

/-- The classes above that have builders move with the class. -/
theorem bearing_ancestors_place {id : ClassId} (here : kept id) :
    (second.ancestors (place id)).filter others =
      ((first.ancestors id).filter bears).map place := by
  rw [keeps.ancestors here, List.filter_map]
  refine congrArg (List.map place) (List.filter_congr fun ancestor member => ?_)
  exact bears_place keeps left right (keeps.kept_ancestors acyclic inRange here member)

theorem bearersAbove_place {id : ClassId} (here : kept id) :
    bearersAbove second others (place id) =
      (bearersAbove first bears id).map (DataClass.renumber place) := by
  unfold bearersAbove
  rw [bearing_ancestors_place keeps left right acyclic inRange here, List.filterMap_map,
    List.map_filterMap]
  refine List.filterMap_congr fun ancestor member => ?_
  have keptAbove := keeps.kept_ancestors acyclic inRange here (List.mem_filter.1 member).1
  obtain ⟨dataClass, found⟩ := Hierarchy.exists_get? (keeps.known ancestor keptAbove)
  rw [Function.comp_apply, found, keeps.moved ancestor dataClass keptAbove found]
  rfl

theorem alike_builder {id : ClassId} {dataClass : DataClass} (here : kept id)
    (known : first.get? id = some dataClass) (bearing : bears id = true) :
    AlikeAt model other (SameName (IsKeptName first config.builderName kept) model other)
      (builderId first config.builderName model id)
      (builderId second config.builderName other (place id)) := by
  have moved := keeps.moved id dataClass here known
  have bearingToo : others (place id) = true := (bears_place keeps left right here).trans bearing
  obtain ⟨one, found, isBuilder⟩ := left.program.builder id dataClass known bearing
  obtain ⟨two, there, isBuilderToo⟩ := right.program.builder _ _ moved bearingToo
  obtain ⟨declaration, same, package, -, nested⟩ :=
    left.contains.builder id dataClass known bearing
  obtain rfl := Option.some.inj (found.symm.trans same)
  obtain ⟨declaration, same, packageToo, -, nestedToo⟩ :=
    right.contains.builder _ _ moved bearingToo
  obtain rfl := Option.some.inj (there.symm.trans same)
  refine ⟨one, two, found, there, ?_, ?_, ?_, ?_, ?_, ?_, ?_⟩
  · rw [isBuilder.header, isBuilderToo.header]
    rfl
  · rw [isBuilder.named, isBuilderToo.named]
    rfl
  · rw [package, packageToo]
    rfl
  · rw [isBuilder.superclass, isBuilderToo.superclass, ← List.head?_filter, ← List.head?_filter,
      bearing_ancestors_place keeps left right acyclic inRange here, List.head?_map]
    cases nearest : ((first.ancestors id).filter bears).head? with
    | none => rfl
    | some ancestor =>
        obtain ⟨above, bears⟩ := List.mem_filter.1 (List.mem_of_head? nearest)
        have keptAbove := keeps.kept_ancestors acyclic inRange here above
        exact congrArg some (typeRef_builder_place keeps left right keptAbove bears).symm
  · rw [isBuilder.fields, isBuilderToo.fields]
    rfl
  · rw [isBuilder.methods, isBuilderToo.methods,
      bearersAbove_place keeps left right acyclic inRange here,
      Builder.builderMethods_renumber]
    rfl
  · rw [nested, nestedToo]
    exact .nil

variable (apart : NamesApart first config.builderName)
  (apartToo : NamesApart second config.builderName)

include apart apartToo

/-- Types of one name that a kept class gives are alike. -/
theorem corresponds : Corresponds model other
    (SameName (IsKeptName first config.builderName kept) model other) := by
  rintro type counterpart ⟨name, ⟨id, dataClass, keptId, known, own⟩, here, there⟩
  rw [Model.getElem?_names, Option.map_eq_some_iff] at here there
  obtain ⟨one, found, rfl⟩ := here
  obtain ⟨two, foundToo, named⟩ := there
  have moved := keeps.moved id dataClass keptId known
  -- A name belongs to one class in each program, and to one type.
  have asProduct : one.qualifiedName = dataClass.name →
      AlikeAt model other (SameName (IsKeptName first config.builderName kept) model other) type
        counterpart := by
    intro same
    have position := productId_eq left.program.indexed left.program.distinct known found same
    have positionToo := productId_eq right.program.indexed right.program.distinct moved foundToo
      (named.trans same)
    have alike := alike_product keeps left right keptId known
    rwa [position, positionToo] at alike
  have asBuilder : bears id = true →
      one.qualifiedName = builderTypeName config.builderName dataClass.name →
      AlikeAt model other (SameName (IsKeptName first config.builderName kept) model other) type
        counterpart := by
    intro bearing same
    have position := builderId_eq left.program.indexed left.program.distinct known found same
    have positionToo := builderId_eq right.program.indexed right.program.distinct moved foundToo
      (named.trans same)
    have alike := alike_builder keeps left right acyclic inRange keptId known bearing
    rwa [position, positionToo] at alike
  cases left.role known found apart own with
  | product same => exact asProduct same
  | builder bearing same => exact asBuilder bearing same
  | host outer inner isHost =>
      cases right.role moved foundToo apartToo (named ▸ own) with
      | product sameToo => exact asProduct (named.symm.trans sameToo)
      | builder bearing sameToo =>
          exact asBuilder ((bears_place keeps left right keptId).symm.trans bearing)
            (named.symm.trans sameToo)
      | host outerToo innerToo isHostToo =>
          rw [isHost, isHostToo] at named
          obtain rfl : innerToo = inner := (String.append_right_inj _).1 named
          refine ⟨one, two, found, foundToo, ?_⟩
          rw [isHost, isHostToo]
          exact ⟨rfl, rfl, rfl, rfl, rfl, rfl, .nil⟩

/-- Programs of one size have the same file for a class that is kept. -/
theorem sourceFile_kept (size : other.size = model.size) {id : ClassId} (here : kept id) :
    sourceFile other (productId second other (place id)) =
      sourceFile model (productId first model id) := by
  obtain ⟨dataClass, known⟩ := Hierarchy.exists_get? (keeps.known id here)
  obtain ⟨one, two, found, there, alike⟩ := alike_product keeps left right here known
  refine (Java.sourceFile_eq (corresponds keeps left right acyclic inRange apart apartToo)
    size.symm ⟨one.qualifiedName, ⟨id, dataClass, here, known, ?_⟩, ?_, ?_⟩).symm
  · exact mem_typeNames_iff.2 (.inl (left.named_product known found))
  · rw [Model.getElem?_names, found, Option.map_some]
  · rw [Model.getElem?_names, there, Option.map_some, alike.named]

end

end

/-! ### Two orders -/

section

variable {first second : Hierarchy} {place : ClassId → ClassId}
  (renumbers : Renumbers first second place)

include renumbers

theorem namesApart_of_renumbers {builderName : String} (apart : NamesApart first builderName) :
    NamesApart second builderName := by
  have names := renumbers.flatMap_perm
    (fun dataClass => typeNames builderName dataClass.name dataClass.nested) fun _ => rfl
  exact names.nodup_iff.2 apart

/-- As many classes get builders in both orders. -/
theorem length_free (builderName : String) :
    (second.classes.filter (fun dataClass => builderName ∉ dataClass.nested)).length =
      (first.classes.filter (fun dataClass => builderName ∉ dataClass.nested)).length := by
  have free := renumbers.filter_perm
    (fun dataClass => decide (builderName ∉ dataClass.nested)) fun _ => rfl
  rw [free.length_eq, List.length_map]

variable {config : Config} {bears others : ClassId → Bool} {model other : Model}
  (left : Settled first config bears model) (right : Settled second config others other)

include left right

theorem size_eq : other.size = model.size := by
  have names := (renumbers.flatMap_perm declaredNames fun _ => rfl).length_eq
  rw [left.size, right.size, names, length_free renumbers]

/-- Both programs have the same files. -/
theorem sourceFiles_perm (inRange : first.InRange) (acyclic : first.Acyclic)
    (apart : NamesApart first config.builderName) :
    (sourceFiles other).Perm (sourceFiles model) := by
  have same : ((List.range first.size).map place).map
      (fun id => sourceFile other (productId second other id)) =
        (List.range first.size).map (fun id => sourceFile model (productId first model id)) := by
    rw [List.map_map]
    refine List.map_congr_left fun id member => ?_
    exact sourceFile_kept (renumbers.keeps inRange) left right acyclic inRange apart
      (namesApart_of_renumbers renumbers apart) (size_eq renumbers left right)
      (List.mem_range.1 member)
  -- The files of the second in its order of classes, then in the order of the first.
  refine right.sourceFiles_perm.trans (.trans ?_ left.sourceFiles_perm.symm)
  exact (renumbers.range_perm.map _).trans (.of_eq same)

end

end BuilderSynthesis.Run
