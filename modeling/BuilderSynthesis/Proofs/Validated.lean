import BuilderSynthesis.Proofs.Accepted

/-!
Contract: the checks of a manifest accept exactly the well-formed ones.

`WellFormed` says what a manifest should be and mentions no check. Two of the checks walk up
from class to class with a bound on their steps; `attempt` is the same checks with walks that
have no outcome when they run out of steps, and they never do. The walk that looks for cycles
ends on every manifest, because it does not go on from a name that it has met; the one that looks
for shared setters ends because the other was made before.

Owns: well-formed manifests, and walks that can run out of steps.
-/

namespace BuilderSynthesis

namespace Java

/-- A name that starts as an identifier does and goes on as one does. -/
def IsIdentifier (name : String) : Prop :=
  ∃ first rest, name.toList = first :: rest ∧ isIdentifierStart first = true ∧
    ∀ character ∈ rest, isIdentifierPart character = true

/-- An identifier that a declaration can have as its name. -/
def IsUsable (name : String) : Prop :=
  IsIdentifier name ∧ isReserved name = false

theorem nameFault?_eq_none_iff {name : String} : nameFault? name = none ↔ IsIdentifier name := by
  unfold nameFault? IsIdentifier
  cases name.toList with
  | nil => simp
  | cons first rest =>
      cases starts : isIdentifierStart first <;>
        cases goesOn : rest.all isIdentifierPart <;>
        simp_all

end Java

namespace Manifest

open Java (IsIdentifier IsUsable)

/-! ### Well-formed manifests -/

/-- A name of which all segments can be declared. -/
def IsUsablePath (name : String) : Prop :=
  ∀ segment ∈ Text.dottedSegments name, IsUsable segment

variable (manifest : Manifest)

/-- A name stands for a class of the manifest. -/
def Declares (name : String) : Prop :=
  ∃ entry ∈ manifest.classes, manifest.qualifiedName entry = manifest.qualify name

/-- A class names another as its superclass. -/
def IsChild (entry parent : ClassEntry) : Prop :=
  entry ∈ manifest.classes ∧ parent ∈ manifest.classes ∧
    ∃ extended, entry.superclass = some extended ∧
    manifest.qualifiedName parent = manifest.qualify extended.text

/-- An element type that fields can have. -/
def IsElement (element : String) : Prop :=
  (∃ primitive, Schema.Primitive.ofName? element = some primitive) ∨ manifest.Declares element ∨
    '.' ∈ element.toList ∧ ∀ segment ∈ Text.dottedSegments element, IsIdentifier segment

/-- A class declares an instance field, or one of its ancestors does. -/
def HasField (entry owner : ClassEntry) (field : FieldEntry) : Prop :=
  Relation.ReflTransGen manifest.IsChild entry owner ∧ field ∈ owner.fields ∧
    field.isStatic = false

/-- What a manifest should be. -/
structure WellFormed : Prop where
  package : ∀ package, manifest.settings.package = some package →
    package.isEmpty = true ∨ IsUsablePath package
  builderName : IsUsable manifest.settings.builderName
  classNames : ∀ entry ∈ manifest.classes, IsUsablePath entry.name.text
  distinct : (manifest.classes.map manifest.qualifiedName).Nodup
  superclasses : ∀ entry ∈ manifest.classes, ∀ extended, entry.superclass = some extended →
    manifest.Declares extended.text
  fieldNames : ∀ entry ∈ manifest.classes, ∀ field ∈ entry.fields, IsUsable field.name.text
  distinctFields : ∀ entry ∈ manifest.classes,
    (entry.fields.map (fun field => field.name.text)).Nodup
  fieldTypes : ∀ entry ∈ manifest.classes, ∀ field ∈ entry.fields, ∃ typeNotation,
    field.typeNotation? = some typeNotation ∧ manifest.IsElement typeNotation.element
  acyclic : ∀ entry ∈ manifest.classes, ¬ Relation.TransGen manifest.IsChild entry entry
  /-- No two of the instance fields that a class has share the name of their setter. -/
  stems : ∀ entry ∈ manifest.classes, ∀ owner field other field',
    manifest.HasField entry owner field → manifest.HasField entry other field' →
    Schema.propertyStem field.name.text = Schema.propertyStem field'.name.text →
    owner = other ∧ field = field'

variable {manifest}

/-! ### Single checks -/

theorem checkName_eq_ok_iff_isUsable {role : NameRole} {span : Toml.Span} {name : String} :
    checkName role span name = .ok () ↔ IsUsable name := by
  rw [checkName_eq_ok_iff, Java.nameFault?_eq_none_iff, IsUsable, and_comm]

theorem checkDottedName_eq_ok_iff_isUsablePath {role : NameRole} {span : Toml.Span}
    {name : String} : checkDottedName role span name = .ok () ↔ IsUsablePath name := by
  unfold checkDottedName IsUsablePath
  rw [Outcome.forM_eq_ok_iff]
  simp only [checkName_eq_ok_iff_isUsable]

theorem checkPackage_eq_ok_iff {package : Option String} :
    checkPackage package = .ok () ↔
      ∀ name, package = some name → name.isEmpty = true ∨ IsUsablePath name := by
  unfold checkPackage
  cases package with
  | none => simp
  | some name =>
      simp only [Option.some.injEq, forall_eq']
      cases name.isEmpty with
      | true => simp
      | false =>
          simp only [Bool.false_eq_true, if_false, Outcome.mapError_eq_ok_iff, false_or,
            checkDottedName_eq_ok_iff_isUsablePath]

theorem checkBuilderName_eq_ok_iff {name : String} :
    checkBuilderName name = .ok () ↔ IsUsable name := by
  rw [checkBuilderName, Outcome.mapError_eq_ok_iff, checkName_eq_ok_iff_isUsable]

theorem hasClass_iff {name : String} : manifest.hasClass name = true ↔ manifest.Declares name := by
  simp [hasClass, findClass?, Declares, List.find?_isSome]

theorem hasKnownType_iff {field : FieldEntry} :
    manifest.hasKnownType field = true ↔ ∃ typeNotation,
      field.typeNotation? = some typeNotation ∧ manifest.IsElement typeNotation.element := by
  unfold hasKnownType
  cases field.typeNotation? with
  | none => simp
  | some typeNotation =>
      simp only [Option.some.injEq, exists_eq_left', isKnownElement, isExternalType, isDotted,
        Bool.or_eq_true, Bool.and_eq_true, List.all_eq_true, Option.isNone_iff_eq_none,
        Option.isSome_iff_exists, hasClass_iff, Java.nameFault?_eq_none_iff, IsElement,
        List.contains_iff_mem, or_assoc]

/-! ### Walks that can run out of steps -/

section Walks

variable (manifest)

/-- The walk of `checkChain`, without an outcome if it runs out of steps. -/
def attemptChain (start : ClassEntry) : Nat → List String → ClassEntry → Option Checked
  | 0, _, _ => none
  | steps + 1, chain, current =>
      match current.superclass with
      | none => some (.ok ())
      | some extended =>
          match manifest.findClass? extended.text with
          | none => some (.ok ())
          | some parent =>
              let name := manifest.qualifiedName parent
              if name = manifest.qualifiedName start then
                some (.error (.inheritanceCycle start.name.text (chain ++ [name]) extended.span))
              else if chain.contains name then
                some (.ok ())
              else
                attemptChain start steps (chain ++ [name]) parent

/-- The walk of `lineage`, without an outcome if it runs out of steps. -/
def attemptLineage : Nat → ClassEntry → Option (List ClassEntry)
  | 0, _ => none
  | steps + 1, entry =>
      match manifest.parent? entry with
      | none => some [entry]
      | some parent => (attemptLineage steps parent).map (entry :: ·)

/-- The instance fields of classes as properties, those of the last class first. -/
def propertiesOf (owners : List ClassEntry) : List Property :=
  owners.reverse.flatMap (fun owner =>
    (owner.fields.filter (fun field => !field.isStatic)).map (fun field =>
      ⟨owner.name.text, field.name⟩))

/-- The checks of a manifest with walks that can run out of steps. -/
def attempt (steps : Nat) : ExceptT Problem Option Unit := do
  ExceptT.mk (some (checkPackage manifest.settings.package))
  ExceptT.mk (some (checkBuilderName manifest.settings.builderName))
  ExceptT.mk (some (manifest.checkClassNames [] manifest.classes))
  ExceptT.mk (some (manifest.classes.forM manifest.checkClass))
  manifest.classes.forM (fun entry =>
    ExceptT.mk (manifest.attemptChain entry steps [manifest.qualifiedName entry] entry))
  manifest.classes.forM (fun entry =>
    ExceptT.mk ((manifest.attemptLineage steps entry).map (fun owners =>
      checkStems [] (propertiesOf owners))))

end Walks

/-- A walk that does not go on from a name that it has met has steps left. -/
theorem attemptChain_eq {start : ClassEntry} {steps bound : Nat} {chain : List String}
    {current : ClassEntry} (once : chain.Nodup)
    (known : chain ⊆ manifest.classes.map manifest.qualifiedName)
    (enough : manifest.classes.length < chain.length + steps)
    (enough' : manifest.classes.length < chain.length + bound) :
    manifest.attemptChain start steps chain current =
      some (manifest.checkChain start bound chain current) := by
  -- The chain holds each name of a class at most once, so it is never longer than the classes.
  have room := (once.subperm known).length_le
  rw [List.length_map] at room
  induction steps generalizing bound chain current with
  | zero => omega
  | succ steps inductionHypothesis =>
      cases bound with
      | zero => omega
      | succ bound =>
          unfold attemptChain checkChain
          cases current.superclass with
          | none => rfl
          | some extended =>
              cases found : manifest.findClass? extended.text with
              | none => simp only [found]
              | some parent =>
                  simp only [found]
                  split
                  · rfl
                  · split
                    · rfl
                    · rename_i new
                      rw [List.contains_iff_mem] at new
                      obtain ⟨once', known'⟩ :=
                        chain_append once known (findClass?_eq_some found).1 new
                      have room' := (once'.subperm known').length_le
                      rw [List.length_map] at room'
                      have longer : (chain ++ [manifest.qualifiedName parent]).length =
                          chain.length + 1 := List.length_append
                      exact inductionHypothesis once' known' (by omega) (by omega) room'

section Distinct

variable (distinct : (manifest.classes.map manifest.qualifiedName).Nodup)

include distinct

theorem parent?_eq_some_iff {entry parent : ClassEntry} (member : entry ∈ manifest.classes) :
    manifest.parent? entry = some parent ↔ manifest.IsChild entry parent := by
  unfold parent? IsChild
  constructor
  · intro found
    obtain ⟨extended, written, known⟩ := Option.bind_eq_some_iff.1 found
    obtain ⟨inside, named⟩ := findClass?_eq_some known
    exact ⟨member, inside, extended, written, named⟩
  · rintro ⟨-, inside, extended, written, named⟩
    rw [written, Option.bind_some, findClass?, ← named]
    exact Lists.find?_key_of_nodup distinct inside

/-- A class that is an ancestor is one by name. -/
theorem transGen_extends {entry other : ClassEntry}
    (ancestor : Relation.TransGen manifest.IsChild entry other) :
    Relation.TransGen (Extends manifest) (manifest.qualifiedName entry)
      (manifest.qualifiedName other) := by
  refine Relation.TransGen.lift manifest.qualifiedName (fun child parent link => ?_) _ _ ancestor
  exact (extends_iff distinct link.1 _).2
    ⟨parent, (parent?_eq_some_iff distinct link.1).2 link, rfl⟩

/-- A chain of a class that is not its own ancestor does not come back to it. -/
theorem checkChain_of_acyclic {start : ClassEntry}
    (acyclic : ¬ Relation.TransGen manifest.IsChild start start) {steps : Nat}
    {chain : List String} {current : ClassEntry} (member : current ∈ manifest.classes)
    (reached : Relation.ReflTransGen manifest.IsChild start current) :
    manifest.checkChain start steps chain current = .ok () := by
  induction steps generalizing chain current with
  | zero => rfl
  | succ steps inductionHypothesis =>
      unfold checkChain
      cases written : current.superclass with
      | none => rfl
      | some extended =>
          cases found : manifest.findClass? extended.text with
          | none => simp only [found]
          | some parent =>
              obtain ⟨inside, named⟩ := findClass?_eq_some found
              have link : manifest.IsChild current parent :=
                ⟨member, inside, extended, written, named⟩
              have further := Relation.TransGen.tail' reached link
              simp only [found]
              split
              · rename_i back
                have started : start ∈ manifest.classes := by
                  rcases Relation.ReflTransGen.cases_head reached with same | ⟨_, first, -⟩
                  · exact same ▸ member
                  · exact first.1
                rw [List.inj_on_of_nodup_map distinct inside started back] at further
                exact absurd further acyclic
              · split
                · rfl
                · exact inductionHypothesis inside further.to_reflTransGen

/-- A walk up that ends lists a class and its ancestors. -/
theorem mem_of_attemptLineage {steps : Nat} {entry : ClassEntry} {owners : List ClassEntry}
    (member : entry ∈ manifest.classes)
    (ended : manifest.attemptLineage steps entry = some owners) (other : ClassEntry) :
    other ∈ owners ↔ Relation.ReflTransGen manifest.IsChild entry other := by
  induction steps generalizing entry owners with
  | zero => cases ended
  | succ steps inductionHypothesis =>
      have links : ∀ parent, manifest.parent? entry = some parent ↔ manifest.IsChild entry parent :=
        fun _ => parent?_eq_some_iff distinct member
      unfold attemptLineage at ended
      rw [Relation.ReflTransGen.cases_head_iff]
      cases above : manifest.parent? entry with
      | none =>
          simp only [above, Option.some.injEq] at ended links
          subst ended
          simp only [List.mem_singleton, eq_comm (a := entry), ← links, reduceCtorEq, false_and,
            exists_false, or_false]
      | some parent =>
          simp only [above, Option.map_eq_some_iff] at ended
          obtain ⟨rest, climbed, rfl⟩ := ended
          have link := (links parent).1 above
          rw [List.mem_cons, inductionHypothesis link.2.1 climbed, eq_comm]
          refine or_congr_right ⟨fun reached => ⟨parent, link, reached⟩, ?_⟩
          rintro ⟨next, step, reached⟩
          rw [(links next).2 step] at above
          exact Option.some.inj above ▸ reached

variable (acyclic : ∀ entry ∈ manifest.classes, ¬ Relation.TransGen manifest.IsChild entry entry)

include acyclic

theorem nodup_of_attemptLineage {steps : Nat} {entry : ClassEntry} {owners : List ClassEntry}
    (member : entry ∈ manifest.classes)
    (ended : manifest.attemptLineage steps entry = some owners) : owners.Nodup := by
  induction steps generalizing entry owners with
  | zero => cases ended
  | succ steps inductionHypothesis =>
      unfold attemptLineage at ended
      cases above : manifest.parent? entry with
      | none =>
          simp only [above, Option.some.injEq] at ended
          exact ended ▸ List.nodup_singleton entry
      | some parent =>
          simp only [above, Option.map_eq_some_iff] at ended
          obtain ⟨rest, climbed, rfl⟩ := ended
          have link := (parent?_eq_some_iff distinct member).1 above
          refine List.nodup_cons.2 ⟨fun again => acyclic entry member ?_,
            inductionHypothesis link.2.1 climbed⟩
          exact .head' link ((mem_of_attemptLineage distinct link.2.1 climbed entry).1 again)

/-- A walk up has steps left where no class is its own ancestor, since it has met each class at
most once. -/
theorem attemptLineage_ends {steps : Nat} {before : List ClassEntry} {entry : ClassEntry}
    (member : entry ∈ manifest.classes) (once : before.Nodup)
    (known : before ⊆ manifest.classes)
    (below : ∀ other ∈ before, Relation.TransGen manifest.IsChild other entry)
    (enough : manifest.classes.length ≤ before.length + steps) :
    ∃ owners, manifest.attemptLineage steps entry = some owners := by
  -- The classes that were met are all below this one, so it is none of them.
  have once' : (entry :: before).Nodup :=
    List.nodup_cons.2 ⟨fun again => acyclic entry member (below entry again), once⟩
  have known' : entry :: before ⊆ manifest.classes := List.cons_subset.2 ⟨member, known⟩
  have room := (once'.subperm known').length_le
  rw [List.length_cons] at room
  induction steps generalizing before entry with
  | zero => omega
  | succ steps inductionHypothesis =>
      unfold attemptLineage
      cases above : manifest.parent? entry with
      | none => exact ⟨[entry], rfl⟩
      | some parent =>
          have link := (parent?_eq_some_iff distinct member).1 above
          have below' : ∀ other ∈ entry :: before,
              Relation.TransGen manifest.IsChild other parent := by
            intro other inside
            rcases List.mem_cons.1 inside with rfl | earlier
            · exact .single link
            · exact .tail (below other earlier) link
          have further : (parent :: entry :: before).Nodup :=
            List.nodup_cons.2 ⟨fun again => acyclic parent link.2.1 (below' parent again), once'⟩
          have inside := List.cons_subset.2 ⟨link.2.1, known'⟩
          obtain ⟨rest, climbed⟩ := inductionHypothesis link.2.1 once' known' below'
            (by rw [List.length_cons]; omega) further inside (further.subperm inside).length_le
          exact ⟨entry :: rest, by simp only [climbed, Option.map_some]⟩

end Distinct

/-- A walk that has ended is the walk with any larger number of steps. -/
theorem lineage_of_attemptLineage {steps bound : Nat} {entry : ClassEntry}
    {owners : List ClassEntry} (ended : manifest.attemptLineage steps entry = some owners)
    (enough : steps ≤ bound + 1) : manifest.lineage bound entry = owners := by
  induction steps generalizing bound entry owners with
  | zero => cases ended
  | succ steps inductionHypothesis =>
      unfold attemptLineage at ended
      cases bound with
      | zero =>
          have none' : steps = 0 := by omega
          subst none'
          cases above : manifest.parent? entry with
          | none =>
              simp only [above, Option.some.injEq] at ended
              exact ended
          | some parent => simp [above, attemptLineage] at ended
      | succ bound =>
          unfold lineage
          cases above : manifest.parent? entry with
          | none =>
              simp only [above, Option.some.injEq] at ended
              exact ended
          | some parent =>
              simp only [above, Option.map_eq_some_iff] at ended
              obtain ⟨rest, climbed, rfl⟩ := ended
              have same : manifest.lineage bound parent = rest :=
                inductionHypothesis climbed (by omega)
              simp only [same]

theorem attemptLineage_mono {steps more : Nat} {entry : ClassEntry} {owners : List ClassEntry}
    (ended : manifest.attemptLineage steps entry = some owners) (enough : steps ≤ more) :
    manifest.attemptLineage more entry = some owners := by
  induction steps generalizing more entry owners with
  | zero => cases ended
  | succ steps inductionHypothesis =>
      cases more with
      | zero => omega
      | succ more =>
          unfold attemptLineage at ended ⊢
          cases above : manifest.parent? entry with
          | none =>
              simp only [above] at ended
              exact ended
          | some parent =>
              simp only [above, Option.map_eq_some_iff] at ended
              obtain ⟨rest, climbed, rfl⟩ := ended
              have same : manifest.attemptLineage more parent = some rest :=
                inductionHypothesis climbed (by omega)
              simp only [same, Option.map_some]

/-! ### Properties of several classes -/

/-- The instance fields of classes with the classes that declare them, those of the last class
first. -/
def instanceFieldsOf (owners : List ClassEntry) : List (ClassEntry × FieldEntry) :=
  owners.reverse.flatMap (fun owner =>
    (owner.fields.filter (fun field => !field.isStatic)).map (Prod.mk owner))

theorem mem_instanceFieldsOf {owners : List ClassEntry} {owner : ClassEntry} {field : FieldEntry} :
    (owner, field) ∈ instanceFieldsOf owners ↔
      owner ∈ owners ∧ field ∈ owner.fields ∧ field.isStatic = false := by
  simp [instanceFieldsOf]

theorem stems_propertiesOf (owners : List ClassEntry) :
    (propertiesOf owners).map Property.stem =
      (instanceFieldsOf owners).map (fun entry =>
        Schema.propertyStem entry.2.name.text) := by
  unfold propertiesOf instanceFieldsOf
  rw [List.map_flatMap, List.map_flatMap]
  simp only [List.map_map]
  rfl

theorem nodup_instanceFieldsOf {owners : List ClassEntry} (once : owners.Nodup)
    (distinct : ∀ owner ∈ owners, (owner.fields.map (fun field => field.name.text)).Nodup) :
    (instanceFieldsOf owners).Nodup := by
  refine List.nodup_flatMap.2 ⟨fun owner member => ?_, ?_⟩
  · have fields := List.Nodup.of_map _ (distinct owner (List.mem_reverse.1 member))
    exact (fields.filter _).map fun _ _ same => (Prod.mk.inj same).2
  · refine (List.nodup_reverse.2 once).imp fun different => ?_
    refine List.disjoint_left.2 ?_
    intro entry first second
    obtain ⟨field, -, rfl⟩ := List.mem_map.1 first
    obtain ⟨field', -, same⟩ := List.mem_map.1 second
    exact different (congrArg Prod.fst same).symm

section Acyclic

variable (distinct : (manifest.classes.map manifest.qualifiedName).Nodup)
  (acyclic : ∀ entry ∈ manifest.classes, ¬ Relation.TransGen manifest.IsChild entry entry)
  {entry : ClassEntry} (member : entry ∈ manifest.classes)

include distinct acyclic member

/-- Where no class is its own ancestor, the walk up from a class ends with the class and its
ancestors. -/
theorem exists_owners :
    ∃ owners, (∀ steps, manifest.classes.length ≤ steps →
        manifest.attemptLineage steps entry = some owners) ∧
      manifest.visibleProperties entry = propertiesOf owners ∧ owners.Nodup ∧
      ∀ other, other ∈ owners ↔ Relation.ReflTransGen manifest.IsChild entry other := by
  obtain ⟨owners, ended⟩ := attemptLineage_ends distinct acyclic member List.nodup_nil
    (List.nil_subset _) (fun _ inside => by cases inside)
    (show manifest.classes.length ≤ 0 + manifest.classes.length by omega)
  have same := lineage_of_attemptLineage ended (Nat.le_succ _)
  exact ⟨owners, fun _ enough => attemptLineage_mono ended enough,
    by rw [visibleProperties, same, propertiesOf],
    nodup_of_attemptLineage distinct acyclic member ended,
    mem_of_attemptLineage distinct member ended⟩

/-- The instance fields that are visible on a class have different stems exactly if no two of
them have the same. -/
theorem nodup_stems_iff (fields : ∀ owner ∈ manifest.classes,
      (owner.fields.map (fun field => field.name.text)).Nodup) :
    ((manifest.visibleProperties entry).map Property.stem).Nodup ↔
      ∀ owner field other field', manifest.HasField entry owner field →
        manifest.HasField entry other field' →
        Schema.propertyStem field.name.text = Schema.propertyStem field'.name.text →
        owner = other ∧ field = field' := by
  obtain ⟨owners, -, visible, once, ancestors⟩ := exists_owners distinct acyclic member
  have known : ∀ owner ∈ owners, owner ∈ manifest.classes := by
    intro owner inside
    rcases Relation.ReflTransGen.cases_tail ((ancestors owner).1 inside) with rfl | ⟨_, -, link⟩
    · exact member
    · exact link.2.1
  have entries := nodup_instanceFieldsOf once fun owner inside => fields owner (known owner inside)
  rw [visible, stems_propertiesOf, List.nodup_map_iff_inj_on entries]
  simp only [Prod.forall, mem_instanceFieldsOf, ancestors, HasField, Prod.mk.injEq]
  exact ⟨fun inj owner field other field' first second => inj owner field first other field' second,
    fun inj owner field first other field' second => inj owner field other field' first second⟩

end Acyclic

/-! ### All checks -/

/-- An attempt at two steps one after the other has an outcome if each has. -/
theorem run_bind_eq {first : ExceptT ε Option α} {next : α → ExceptT ε Option β}
    {outcome : Except ε α} {following : α → Except ε β} (ended : first.run = some outcome)
    (rest : ∀ value, outcome = .ok value → (next value).run = some (following value)) :
    (first >>= next).run = some (outcome >>= following) := by
  rw [ExceptT.run_bind, ended]
  cases outcome with
  | error problem => rfl
  | ok value => exact rest value rfl

theorem run_forM_eq {attempt : α → ExceptT ε Option Unit} {check : α → Except ε Unit}
    {items : List α} (each : ∀ item ∈ items, (attempt item).run = some (check item)) :
    (items.forM attempt).run = some (items.forM check) := by
  induction items with
  | nil => rfl
  | cons item rest inductionHypothesis =>
      rw [List.forall_mem_cons] at each
      exact run_bind_eq each.1 fun _ _ => inductionHypothesis each.2

theorem checkClass_eq_ok_iff {entry : ClassEntry} :
    manifest.checkClass entry = .ok () ↔
      manifest.checkSuperclass entry = .ok () ∧
        manifest.checkFields entry.name.text [] entry.fields = .ok () := by
  unfold checkClass
  rw [Outcome.bind_eq_ok_iff]
  exact ⟨fun ⟨_, superclass, fields⟩ => ⟨superclass, fields⟩,
    fun ⟨superclass, fields⟩ => ⟨(), superclass, fields⟩⟩

/-- A manifest is accepted if every check accepts it. -/
theorem validate_eq_ok_iff :
    manifest.validate = .ok () ↔
      checkPackage manifest.settings.package = .ok () ∧
        checkBuilderName manifest.settings.builderName = .ok () ∧
        manifest.checkClassNames [] manifest.classes = .ok () ∧
        (∀ entry ∈ manifest.classes, manifest.checkClass entry = .ok ()) ∧
        manifest.checkCycles = .ok () ∧ manifest.checkPropertyClashes = .ok () := by
  unfold validate
  simp only [Outcome.bind_eq_ok_iff]
  constructor
  · rintro ⟨_, package, _, builder, _, names, _, classes, _, cycles, clashes⟩
    exact ⟨package, builder, names, Outcome.forM_eq_ok_iff.1 classes, cycles, clashes⟩
  · rintro ⟨package, builder, names, classes, cycles, clashes⟩
    exact ⟨_, package, _, builder, _, names, _, Outcome.forM_eq_ok_iff.2 classes, _, cycles,
      clashes⟩

theorem checkClassNames_eq_ok_iff_isUsablePath :
    manifest.checkClassNames [] manifest.classes = .ok () ↔
      (∀ entry ∈ manifest.classes, IsUsablePath entry.name.text) ∧
        (manifest.classes.map manifest.qualifiedName).Nodup := by
  rw [checkClassNames_eq_ok_iff]
  simp only [checkDottedName_eq_ok_iff_isUsablePath, List.map_nil, List.not_mem_nil,
    not_false_eq_true, implies_true, and_true]

theorem checkCycles_eq_ok_iff (distinct : (manifest.classes.map manifest.qualifiedName).Nodup) :
    manifest.checkCycles = .ok () ↔
      ∀ entry ∈ manifest.classes, ¬ Relation.TransGen manifest.IsChild entry entry := by
  constructor
  · intro accepted entry _ loop
    exact not_reaches_of_checkCycles distinct accepted _ (transGen_extends distinct loop)
  · intro acyclic
    unfold checkCycles
    rw [Outcome.forM_eq_ok_iff]
    exact fun entry member => checkChain_of_acyclic distinct (acyclic entry member) member .refl

theorem checkPropertyClashes_eq_ok_iff :
    manifest.checkPropertyClashes = .ok () ↔ ∀ entry ∈ manifest.classes,
      ((manifest.visibleProperties entry).map Property.stem).Nodup := by
  unfold checkPropertyClashes
  rw [Outcome.forM_eq_ok_iff]
  simp only [checkStems_eq_ok_iff, List.map_nil, List.not_mem_nil, not_false_eq_true,
    implies_true, and_true]

theorem wellFormed_of_validate (accepted : manifest.validate = .ok ()) : manifest.WellFormed := by
  obtain ⟨package, builder, names, classes, cycles, clashes⟩ := validate_eq_ok_iff.1 accepted
  obtain ⟨paths, distinct⟩ := checkClassNames_eq_ok_iff_isUsablePath.1 names
  have superclass := fun entry member =>
    checkSuperclass_eq_ok_iff.1 (checkClass_eq_ok_iff.1 (classes entry member)).1
  have fields := fun entry member =>
    checkFields_eq_ok_iff.1 (checkClass_eq_ok_iff.1 (classes entry member)).2
  have acyclic := (checkCycles_eq_ok_iff distinct).1 cycles
  have distinctFields := fun entry member => (fields entry member).2.1
  exact {
    package := checkPackage_eq_ok_iff.1 package
    builderName := checkBuilderName_eq_ok_iff.1 builder
    classNames := paths
    distinct := distinct
    superclasses := fun entry member extended written =>
      hasClass_iff.1 (superclass entry member extended written)
    fieldNames := fun entry member field inside =>
      checkName_eq_ok_iff_isUsable.1 ((fields entry member).1 field inside).1
    distinctFields := distinctFields
    fieldTypes := fun entry member field inside =>
      hasKnownType_iff.1 ((fields entry member).1 field inside).2
    acyclic := acyclic
    stems := fun entry member => (nodup_stems_iff distinct acyclic member distinctFields).1
      (checkPropertyClashes_eq_ok_iff.1 clashes entry member) }

theorem validate_of_wellFormed (wellFormed : manifest.WellFormed) : manifest.validate = .ok () := by
  have distinct := wellFormed.distinct
  refine validate_eq_ok_iff.2 ⟨checkPackage_eq_ok_iff.2 wellFormed.package,
    checkBuilderName_eq_ok_iff.2 wellFormed.builderName,
    checkClassNames_eq_ok_iff_isUsablePath.2 ⟨wellFormed.classNames, distinct⟩, ?_,
    (checkCycles_eq_ok_iff distinct).2 wellFormed.acyclic,
    checkPropertyClashes_eq_ok_iff.2 fun entry member =>
      (nodup_stems_iff distinct wellFormed.acyclic member wellFormed.distinctFields).2
        (wellFormed.stems entry member)⟩
  intro entry member
  refine checkClass_eq_ok_iff.2
    ⟨checkSuperclass_eq_ok_iff.2 ?_, checkFields_eq_ok_iff.2 ⟨?_, ?_, ?_⟩⟩
  · exact fun extended written =>
      hasClass_iff.2 (wellFormed.superclasses entry member extended written)
  · exact fun field inside =>
      ⟨checkName_eq_ok_iff_isUsable.2 (wellFormed.fieldNames entry member field inside),
        hasKnownType_iff.2 (wellFormed.fieldTypes entry member field inside)⟩
  · exact wellFormed.distinctFields entry member
  · simp

/-- The checks end on every manifest, with as many steps for each walk as there are classes. -/
theorem attempt_ends {steps : Nat} (enough : manifest.classes.length ≤ steps) :
    (manifest.attempt steps).run = some manifest.validate := by
  unfold attempt validate
  refine run_bind_eq rfl fun _ _ => run_bind_eq rfl fun _ _ => run_bind_eq rfl fun _ names =>
    run_bind_eq rfl fun _ _ => ?_
  have distinct := (checkClassNames_eq_ok_iff_isUsablePath.1 names).2
  refine run_bind_eq (run_forM_eq fun entry member => ?_) fun _ cycles =>
    run_forM_eq fun entry member => ?_
  · refine attemptChain_eq (List.nodup_singleton _) ?_ ?_ ?_
    · exact List.cons_subset.2 ⟨List.mem_map_of_mem member, List.nil_subset _⟩
    · rw [List.length_singleton]
      omega
    · rw [List.length_singleton]
      omega
  · have acyclic := (checkCycles_eq_ok_iff distinct).1 cycles
    obtain ⟨owners, ended, visible, -⟩ := exists_owners distinct acyclic member
    rw [ExceptT.run_mk, ended steps enough, visible]
    rfl

/-- The checks end on every manifest, and they accept exactly the well-formed ones. -/
theorem validate_accepts_iff (manifest : Manifest) :
    (∀ more, (manifest.attempt (manifest.classes.length + more)).run = some manifest.validate) ∧
      (manifest.validate = .ok () ↔ manifest.WellFormed) :=
  ⟨fun more => attempt_ends (Nat.le_add_right _ more), wellFormed_of_validate,
    validate_of_wellFormed⟩

end Manifest

end BuilderSynthesis
