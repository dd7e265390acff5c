import BuilderSynthesis.Builder.Registry
import BuilderSynthesis.Proofs.Declaration
import BuilderSynthesis.Proofs.Naming

/-!
Contract: what registering builders adds to the types of a program.

Builder types come last, in the order of the registry, and have no members yet. Of the
types there were only the lists of nested types grow. `registerAll_registers` says that
registering never fails where every class has a type. Every class either gets a builder or is
reported, with a nested type of the name of builders as the reason.

Does not own: which members a builder gets.
-/

namespace BuilderSynthesis.Builder

open BuilderSynthesis.Code (Declaration Model TypeId)
open BuilderSynthesis.Schema (ClassId DataClass Hierarchy)

def builderTypeName (builderName className : String) : String :=
  className ++ "." ++ builderName

structure BlankBuilder (builderName : String) (dataClass : DataClass) (product : TypeId)
    (declaration : Declaration) : Prop where
  header : declaration.header = builderHeader dataClass builderName
  named : declaration.qualifiedName = builderTypeName builderName dataClass.name
  outer : declaration.outer = some product
  superclass : declaration.superclass = none
  fields : declaration.fields = []
  methods : declaration.methods = []

def emptyBuilder (builderName : String) (dataClass : DataClass) (product : TypeId)
    (parent : Declaration) : Declaration :=
  { header := builderHeader dataClass builderName
    qualifiedName := parent.qualifiedName ++ "." ++ builderName
    package := parent.package
    outer := some product }

structure Registered (builderName : String) (entries : List (ClassId × DataClass))
    (before after : Model) (key : String) (descriptor : Descriptor) : Prop where
  properties : descriptor.properties = none
  source : ∃ dataClass, (descriptor.classId, dataClass) ∈ entries ∧ dataClass.name = key ∧
    ∃ declaration, after.get? descriptor.builder = some declaration ∧
      BlankBuilder builderName dataClass descriptor.product declaration
  product : ∃ declaration, after.get? descriptor.product = some declaration ∧
    declaration.qualifiedName = key
  /-- The product did not have a nested type of this name. -/
  free : ∀ parent, before.get? descriptor.product = some parent →
    builderName ∉ parent.nested.map Prod.fst

/-- What registering classes leaves, with the builders that are added. -/
structure Registers (builderName : String) (entries : List (ClassId × DataClass))
    (added : List (String × Descriptor)) (before after : Workshop) : Prop where
  descriptors : after.registry.descriptors = before.registry.descriptors ++ added
  keys : (added.map Prod.fst).Sublist (entries.map (fun entry => entry.2.name))
  names : after.model.names =
    before.model.names ++ (added.map Prod.fst).map (builderTypeName builderName)
  indexed : before.model.Indexed → after.model.Indexed
  builders : added.map (fun entry => entry.2.builder) =
    List.range' before.model.size added.length
  earlier : ∀ id declaration, before.model.get? id = some declaration →
    ∃ nested, after.model.get? id =
      some { declaration with nested := declaration.nested ++ nested }
  registered : ∀ entry ∈ added,
    Registered builderName entries before.model after.model entry.1 entry.2

def nestedBuilders (builderName : String) (added : List (String × Descriptor)) (type : TypeId) :
    List (String × TypeId) :=
  (added.filter (fun entry => entry.2.product == type)).map (fun entry =>
    (builderName, entry.2.builder))

/-- What a report on a class without a builder is made from. -/
def Skipped.origin (skipped : Skipped) : String × String × Option Schema.Location :=
  (skipped.name, skipped.builderName, skipped.location)

/-- Where registering puts builders, and which classes do not get one. -/
structure Nests (builderName : String) (entries : List (ClassId × DataClass))
    (added : List (String × Descriptor)) (refused : List DataClass) (before after : Workshop) :
    Prop where
  earlier : ∀ id declaration, before.model.get? id = some declaration →
    after.model.get? id = some { declaration with
      nested := declaration.nested ++ nestedBuilders builderName added id }
  builder : ∀ entry ∈ added, ∃ parent declaration,
    after.model.get? entry.2.product = some parent ∧
    after.model.get? entry.2.builder = some declaration ∧
    declaration.package = parent.package ∧
    declaration.nested = nestedBuilders builderName added entry.2.builder
  skipped : after.registry.skipped.map Skipped.origin =
    before.registry.skipped.map Skipped.origin ++
      refused.map (fun dataClass => (dataClass.name, builderName, dataClass.location))
  /-- No class is left out, and none is counted twice. -/
  each : (added.map Prod.fst ++ refused.map DataClass.name).Perm
    (entries.map (fun entry => entry.2.name))
  reason : ∀ dataClass ∈ refused, dataClass ∈ entries.map Prod.snd ∧
    ∃ id parent, after.model.get? id = some parent ∧ parent.qualifiedName = dataClass.name ∧
      builderName ∈ parent.nested.map Prod.fst

section

variable {builderName : String}

theorem registers_refl (entries : List (ClassId × DataClass)) {before after : Workshop}
    (model : after.model = before.model)
    (descriptors : after.registry.descriptors = before.registry.descriptors) :
    Registers builderName entries [] before after := by
  constructor
  · rw [descriptors, List.append_nil]
  · exact List.nil_sublist _
  · rw [model, List.map_nil, List.map_nil, List.append_nil]
  · rw [model]
    exact id
  · rfl
  · intro id declaration found
    exact ⟨[], by rw [model, found, List.append_nil]⟩
  · intro entry member
    cases member

theorem Registers.size {entries : List (ClassId × DataClass)}
    {added : List (String × Descriptor)} {before after : Workshop}
    (registers : Registers builderName entries added before after) :
    after.model.size = before.model.size + added.length := by
  have names := congrArg List.length registers.names
  rw [List.length_append, List.length_map, List.length_map] at names
  rwa [Model.length_names, Model.length_names] at names

/-- A type is there before builders are registered, apart from what is nested in it, or it is the
type of a builder and has no members. -/
theorem Registers.get?_cases {entries : List (ClassId × DataClass)}
    {added : List (String × Descriptor)} {before after : Workshop}
    (registers : Registers builderName entries added before after) {id : TypeId}
    {declaration : Declaration} (found : after.model.get? id = some declaration) :
    (∃ earlier nested, before.model.get? id = some earlier ∧
      declaration = { earlier with nested := earlier.nested ++ nested }) ∨
      ∃ dataClass product, BlankBuilder builderName dataClass product declaration := by
  rcases Nat.lt_or_ge id before.model.size with old | new
  · obtain ⟨earlier, present⟩ := Model.exists_get? old
    obtain ⟨nested, there⟩ := registers.earlier id earlier present
    rw [found, Option.some.injEq] at there
    exact .inl ⟨earlier, nested, present, there⟩
  · have small := Model.get?_eq_some_lt found
    rw [registers.size] at small
    have listed : id ∈ added.map (fun entry => entry.2.builder) := by
      rw [registers.builders, List.mem_range'_1]
      omega
    obtain ⟨entry, member, rfl⟩ := List.mem_map.1 listed
    obtain ⟨dataClass, -, -, empty, there, builder⟩ := (registers.registered entry member).source
    rw [found, Option.some.injEq] at there
    exact .inr ⟨dataClass, entry.2.product, there ▸ builder⟩

/-- A type that only got further nested types is the builder type that it was. -/
theorem BlankBuilder.nest {dataClass : DataClass} {product : TypeId} {declaration : Declaration}
    (blank : BlankBuilder builderName dataClass product declaration)
    (nested : List (String × TypeId)) :
    BlankBuilder builderName dataClass product { declaration with nested := nested } :=
  ⟨blank.header, blank.named, blank.outer, blank.superclass, blank.fields, blank.methods⟩

theorem Registered.later {entries more : List (ClassId × DataClass)} {before middle after : Model}
    {key : String} {descriptor : Descriptor}
    (registered : Registered builderName entries before middle key descriptor)
    (subset : entries ⊆ more)
    (grows : ∀ id declaration, middle.get? id = some declaration →
      ∃ nested, after.get? id = some { declaration with nested := declaration.nested ++ nested }) :
    Registered builderName more before after key descriptor := by
  obtain ⟨dataClass, member, named, declaration, found, blank⟩ := registered.source
  obtain ⟨product, there, name⟩ := registered.product
  obtain ⟨nested, builder⟩ := grows _ _ found
  obtain ⟨others, type⟩ := grows _ _ there
  constructor
  · exact registered.properties
  · exact ⟨dataClass, subset member, named, _, builder, blank.nest _⟩
  · exact ⟨_, type, name⟩
  · exact registered.free

theorem Registered.sooner {entries more : List (ClassId × DataClass)}
    {before middle after : Model} {key : String} {descriptor : Descriptor}
    (registered : Registered builderName entries middle after key descriptor)
    (subset : entries ⊆ more)
    (grows : ∀ id declaration, before.get? id = some declaration →
      ∃ nested, middle.get? id = some { declaration with nested := declaration.nested ++ nested }) :
    Registered builderName more before after key descriptor := by
  obtain ⟨dataClass, member, named, builder⟩ := registered.source
  constructor
  · exact registered.properties
  · exact ⟨dataClass, subset member, named, builder⟩
  · exact registered.product
  · intro parent found used
    obtain ⟨nested, there⟩ := grows _ _ found
    apply registered.free _ there
    rw [List.map_append]
    exact List.mem_append_left _ used

theorem Registers.append {first second : List (ClassId × DataClass)}
    {one two : List (String × Descriptor)} {before middle after : Workshop}
    (earlier : Registers builderName first one before middle)
    (later : Registers builderName second two middle after) :
    Registers builderName (first ++ second) (one ++ two) before after := by
  constructor
  · rw [later.descriptors, earlier.descriptors, List.append_assoc]
  · rw [List.map_append, List.map_append]
    exact earlier.keys.append later.keys
  · rw [later.names, earlier.names, List.map_append, List.map_append, List.append_assoc]
  · exact fun indexed => later.indexed (earlier.indexed indexed)
  · rw [List.map_append, later.builders, earlier.builders, earlier.size, List.length_append,
      List.range'_append_1]
  · intro id declaration found
    obtain ⟨nested, there⟩ := earlier.earlier id declaration found
    obtain ⟨others, last⟩ := later.earlier id _ there
    exact ⟨nested ++ others, by rw [last, List.append_assoc]⟩
  · intro entry member
    rcases List.mem_append.1 member with left | right
    · exact (earlier.registered entry left).later (List.subset_append_left first second)
        later.earlier
    · exact (later.registered entry right).sooner (List.subset_append_right first second)
        earlier.earlier

theorem nestedBuilders_nil (type : TypeId) : nestedBuilders builderName [] type = [] := rfl

theorem nestedBuilders_append (one two : List (String × Descriptor)) (type : TypeId) :
    nestedBuilders builderName (one ++ two) type =
      nestedBuilders builderName one type ++ nestedBuilders builderName two type := by
  unfold nestedBuilders
  rw [List.filter_append, List.map_append]

/-- Types that no builder is for get no nested types. -/
theorem nestedBuilders_eq_nil {added : List (String × Descriptor)} {type : TypeId}
    (other : ∀ entry ∈ added, entry.2.product ≠ type) :
    nestedBuilders builderName added type = [] := by
  have none' : added.filter (fun entry => entry.2.product == type) = [] := by
    rw [List.filter_eq_nil_iff]
    intro entry member same
    exact other entry member (beq_iff_eq.1 same)
  unfold nestedBuilders
  rw [none', List.map_nil]

theorem nests_nil (builderName : String) (workshop : Workshop) :
    Nests builderName [] [] [] workshop workshop := by
  constructor
  · intro id declaration found
    exact found.trans (by rw [nestedBuilders_nil, List.append_nil])
  · exact fun _ member => nomatch member
  · rw [List.map_nil, List.append_nil]
  · exact List.Perm.refl _
  · exact fun _ member => nomatch member

/-- One class that does not get a builder. -/
theorem nests_refused {workshop : Workshop} {id : ClassId} {dataClass : DataClass}
    {product : TypeId} {parent : Declaration} (found : workshop.model.get? product = some parent)
    (named : parent.qualifiedName = dataClass.name)
    (taken : builderName ∈ parent.nested.map Prod.fst) (reason : Code.Conflict) :
    Nests builderName [(id, dataClass)] [] [dataClass] workshop
      { workshop with
        registry := workshop.registry.skip
          ⟨id, dataClass.name, builderName, dataClass.location, reason⟩ } := by
  constructor
  · intro other declaration there
    exact there.trans (by rw [nestedBuilders_nil, List.append_nil])
  · exact fun _ member => nomatch member
  · exact List.map_append
  · exact List.Perm.refl _
  · intro other member
    obtain rfl := List.mem_singleton.1 member
    exact ⟨List.mem_singleton_self _, product, parent, found, named, taken⟩

theorem Nests.append {first second : List (ClassId × DataClass)}
    {one two : List (String × Descriptor)} {left right : List DataClass}
    {before middle after : Workshop} (earlier : Nests builderName first one left before middle)
    (later : Nests builderName second two right middle after)
    (registers : Registers builderName second two middle after) :
    Nests builderName (first ++ second) (one ++ two) (left ++ right) before after := by
  constructor
  · intro id declaration found
    rw [later.earlier id _ (earlier.earlier id declaration found), nestedBuilders_append,
      List.append_assoc]
  · intro entry member
    rcases List.mem_append.1 member with old | new
    · obtain ⟨parent, declaration, product, builder, package, nested⟩ := earlier.builder entry old
      refine ⟨_, _, later.earlier _ _ product, later.earlier _ _ builder, package, ?_⟩
      simp only [nested, nestedBuilders_append]
    · obtain ⟨parent, declaration, product, builder, package, nested⟩ := later.builder entry new
      have others : nestedBuilders builderName one entry.2.builder = [] := by
        apply nestedBuilders_eq_nil
        intro other listed same
        obtain ⟨parent, _, there, -⟩ := earlier.builder other listed
        have small := Model.get?_eq_some_lt there
        have large : entry.2.builder ∈ two.map (fun entry => entry.2.builder) :=
          List.mem_map.2 ⟨entry, new, rfl⟩
        rw [registers.builders, List.mem_range'_1, ← same] at large
        exact absurd small (Nat.not_lt.2 large.1)
      refine ⟨parent, declaration, product, builder, package, ?_⟩
      rw [nestedBuilders_append, others, List.nil_append, nested]
  · rw [later.skipped, earlier.skipped, List.map_append, List.append_assoc]
  · rw [List.map_append, List.map_append, List.map_append, List.append_assoc]
    refine (List.Perm.append_left _ (List.perm_append_comm_assoc _ _ _)).trans ?_
    rw [← List.append_assoc]
    exact earlier.each.append later.each
  · intro dataClass member
    rcases List.mem_append.1 member with old | new
    · obtain ⟨listed, id, parent, found, named, taken⟩ := earlier.reason dataClass old
      refine ⟨?_, id, _, later.earlier id parent found, named, ?_⟩
      · rw [List.map_append]
        exact List.mem_append_left _ listed
      · rw [List.map_append]
        exact List.mem_append_left _ taken
    · obtain ⟨listed, there⟩ := later.reason dataClass new
      refine ⟨?_, there⟩
      rw [List.map_append]
      exact List.mem_append_right _ listed

/-- One class whose type has no nested type of the name yet. -/
theorem registers_single {workshop : Workshop} {id : ClassId} {dataClass : DataClass}
    {product : TypeId} {parent : Declaration} (found : workshop.model.get? product = some parent)
    (named : parent.qualifiedName = dataClass.name)
    (free : builderName ∉ parent.nested.map Prod.fst)
    (unknown : dataClass.name ∉ workshop.registry.descriptors.map Prod.fst) :
    Registers builderName [(id, dataClass)]
      [(dataClass.name, ⟨id, product, workshop.model.size, none⟩)] workshop
      { model := workshop.model.nestIn product (emptyBuilder builderName dataClass product parent)
        registry := workshop.registry.insert dataClass.name
          ⟨id, product, workshop.model.size, none⟩ } := by
  constructor
  · exact Keyed.put_of_not_mem _ _ unknown
  · exact List.Sublist.refl _
  · have name : (emptyBuilder builderName dataClass product parent).qualifiedName =
        builderTypeName builderName dataClass.name := congrArg (· ++ "." ++ builderName) named
    rw [Model.names_nestIn, name]
    rfl
  · exact fun indexed => Model.indexed_nestIn indexed product _
  · rfl
  · intro other declaration present
    by_cases own : other = product
    · subst own
      exact ⟨[(builderName, workshop.model.size)], Model.get?_nestIn_outer present _⟩
    · refine ⟨[], ?_⟩
      rw [Model.get?_nestIn_of_lt product _ (Model.get?_eq_some_lt present) own, present,
        List.append_nil]
  · intro entry member
    obtain rfl := List.mem_singleton.1 member
    constructor
    · rfl
    · refine ⟨dataClass, List.mem_singleton_self _, rfl,
        emptyBuilder builderName dataClass product parent, Model.get?_nestIn_size found _, ?_⟩
      exact ⟨rfl, congrArg (· ++ "." ++ builderName) named, rfl, rfl, rfl, rfl⟩
    · exact ⟨parent.addNested builderName workshop.model.size, Model.get?_nestIn_outer found _,
        named⟩
    · intro other same
      rw [found, Option.some.injEq] at same
      exact same ▸ free

/-- The same class, as far as its nested types go. -/
theorem nests_single {workshop : Workshop} {id : ClassId} {dataClass : DataClass}
    {product : TypeId} {parent : Declaration}
    (found : workshop.model.get? product = some parent) :
    Nests builderName [(id, dataClass)]
      [(dataClass.name, ⟨id, product, workshop.model.size, none⟩)] [] workshop
      { model := workshop.model.nestIn product (emptyBuilder builderName dataClass product parent)
        registry := workshop.registry.insert dataClass.name
          ⟨id, product, workshop.model.size, none⟩ } := by
  have known := Model.get?_eq_some_lt found
  have different : workshop.model.size ≠ product := by omega
  have own : nestedBuilders builderName
      [(dataClass.name, ⟨id, product, workshop.model.size, none⟩)] product =
        [(builderName, workshop.model.size)] := by
    simp [nestedBuilders]
  have others : ∀ type, type ≠ product → nestedBuilders builderName
      [(dataClass.name, ⟨id, product, workshop.model.size, none⟩)] type = [] := by
    intro type apart
    apply nestedBuilders_eq_nil
    intro entry member same
    rw [List.mem_singleton.1 member] at same
    exact apart same.symm
  constructor
  · intro type declaration present
    by_cases same : type = product
    · subst same
      rw [own]
      exact Model.get?_nestIn_outer present _
    · rw [Model.get?_nestIn_of_lt product _ (Model.get?_eq_some_lt present) same, present,
        others type same, List.append_nil]
  · intro entry member
    obtain rfl := List.mem_singleton.1 member
    refine ⟨parent.addNested builderName workshop.model.size,
      emptyBuilder builderName dataClass product parent, Model.get?_nestIn_outer found _,
      Model.get?_nestIn_size found _, rfl, ?_⟩
    exact (others workshop.model.size different).symm
  · exact (List.append_nil _).symm
  · exact List.Perm.refl _
  · exact fun _ member => nomatch member

/-- Registering one class never fails if it has a type. -/
theorem registerClass_registers (builderName : String) {workshop : Workshop}
    (indexed : workshop.model.Indexed) (id : ClassId) {dataClass : DataClass}
    (declared : dataClass.name ∈ workshop.model.names)
    (unknown : dataClass.name ∉ workshop.registry.descriptors.map Prod.fst) :
    ∃ after added refused, registerClass builderName workshop id dataClass = (after, none) ∧
      Registers builderName [(id, dataClass)] added workshop after ∧
      Nests builderName [(id, dataClass)] added refused workshop after := by
  obtain ⟨product, found⟩ :=
    Option.isSome_iff_exists.1 ((Model.lookup_isSome_iff indexed dataClass.name).2 declared)
  obtain ⟨parent, there, named⟩ := Model.get?_of_lookup indexed found
  unfold registerClass
  simp only [found]
  rw [Model.declareNested_eq there]
  by_cases taken : (builderHeader dataClass builderName).name ∈ parent.nested.map Prod.fst
  · rw [if_pos taken]
    exact ⟨_, [], [dataClass], rfl, registers_refl _ rfl rfl, nests_refused there named taken _⟩
  · rw [if_neg taken]
    exact ⟨_, _, [], rfl, registers_single there named taken unknown, nests_single there⟩

/-- Registering never fails if every class has a type. -/
theorem registerAll_registers {entries : List (ClassId × DataClass)} {workshop : Workshop}
    (indexed : workshop.model.Indexed)
    (declared : ∀ entry ∈ entries, entry.2.name ∈ workshop.model.names)
    (distinct : (entries.map (fun entry => entry.2.name)).Nodup)
    (unknown : ∀ entry ∈ entries,
      entry.2.name ∉ workshop.registry.descriptors.map Prod.fst) :
    ∃ after added refused, registerAll builderName entries workshop = (after, none) ∧
      Registers builderName entries added workshop after ∧
      Nests builderName entries added refused workshop after := by
  induction entries generalizing workshop with
  | nil => exact ⟨workshop, [], [], rfl, registers_refl [] rfl rfl, nests_nil _ workshop⟩
  | cons entry rest inductionHypothesis =>
      obtain ⟨id, dataClass⟩ := entry
      rw [List.map_cons, List.nodup_cons] at distinct
      rw [List.forall_mem_cons] at declared unknown
      obtain ⟨middle, first, left, step, registers, nests⟩ :=
        registerClass_registers builderName indexed id declared.1 unknown.1
      have known : ∀ entry ∈ rest, entry.2.name ∈ middle.model.names := by
        intro entry member
        rw [registers.names]
        exact List.mem_append_left _ (declared.2 entry member)
      have fresh : ∀ entry ∈ rest,
          entry.2.name ∉ middle.registry.descriptors.map Prod.fst := by
        intro entry member again
        rw [registers.descriptors, List.map_append] at again
        rcases List.mem_append.1 again with before | new
        · exact unknown.2 entry member before
        · have same := registers.keys.subset new
          rw [List.map_singleton, List.mem_singleton] at same
          exact distinct.1 (List.mem_map.2 ⟨entry, member, same⟩)
      obtain ⟨after, others, right, later, all, below⟩ :=
        inductionHypothesis (registers.indexed indexed) known distinct.2 fresh
      refine ⟨after, first ++ others, left ++ right, ?_, registers.append all,
        nests.append below all⟩
      rw [registerAll, step]
      exact later

end

end BuilderSynthesis.Builder
