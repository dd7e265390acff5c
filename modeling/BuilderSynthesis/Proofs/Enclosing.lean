import BuilderSynthesis.Proofs.Faithfulness
import BuilderSynthesis.Proofs.Identifier
import BuilderSynthesis.Proofs.Roles

/-!
Contract: when a type has the simple name of a type that it is in.

Java does not allow that. A request for a nested type is compared with the other types that are
nested in the same type and not with the type itself or what that is in. So a class whose simple
name is that of builders, or that of a nested type that it has already, gets a nested type of its
own name. `names_apart` says that there is no other way.

Owns: `Model.NamesApart` and `Manifest.NestsApart`.
-/

namespace BuilderSynthesis

namespace Text

/-- What follows the last dot of a name, if there is no dot in it. -/
theorem afterLastDot_append {name other : String} (plain : '.' ∉ other.toList) :
    afterLastDot (name ++ "." ++ other) = other := by
  unfold afterLastDot
  rw [String.toList_append, String.toList_append, List.append_assoc,
    show ".".toList ++ other.toList = '.' :: other.toList from rfl, split_append_cons,
    split_of_not_mem plain, List.getLast?_concat, Option.getD_some, String.ofList_toList]

end Text

namespace Code.Model

variable (model : Model)

/-- A type is nested in another, at the next level. -/
def IsIn (inner outer : TypeId) : Prop :=
  ∃ declaration, model.get? inner = some declaration ∧ declaration.outer = some outer

/-- A type is in another, at any depth. -/
def IsInside : TypeId → TypeId → Prop :=
  Relation.TransGen model.IsIn

/-- No type has the simple name of a type that it is in. -/
def NamesApart : Prop :=
  ∀ inner outer declaration enclosing, model.get? inner = some declaration →
    model.get? outer = some enclosing → model.IsInside inner outer →
    declaration.name ≠ enclosing.name

variable {model}

/-- What a type is in is its outer type or what that is in. -/
theorem IsInside.cases {inner outer above : TypeId} {declaration : Declaration}
    (inside : model.IsInside inner outer) (found : model.get? inner = some declaration)
    (own : declaration.outer = some above) : above = outer ∨ model.IsInside above outer := by
  obtain ⟨middle, ⟨other, there, outermost⟩, rest⟩ := Relation.TransGen.head'_iff.1 inside
  rw [found, Option.some.injEq] at there
  rw [← there, own, Option.some.injEq] at outermost
  subst outermost
  exact (Relation.reflTransGen_iff_eq_or_transGen.1 rest).imp_left Eq.symm

theorem not_isInside {inner outer : TypeId} {declaration : Declaration}
    (found : model.get? inner = some declaration) (outermost : declaration.outer = none) :
    ¬ model.IsInside inner outer := by
  intro inside
  obtain ⟨middle, ⟨other, there, own⟩, -⟩ := Relation.TransGen.head'_iff.1 inside
  rw [found, Option.some.injEq] at there
  rw [← there, outermost] at own
  cases own

/-- A type that lists a nested type of its own name breaks the rule. -/
theorem NamesApart.not_mem_nested (apart : model.NamesApart) (coherent : model.Coherent)
    {id : TypeId} {declaration : Declaration} (found : model.get? id = some declaration) :
    declaration.name ∉ declaration.nested.map Prod.fst := by
  intro member
  obtain ⟨entry, listed, same⟩ := List.mem_map.1 member
  obtain ⟨inner, there, nested⟩ := coherent.nested found entry listed
  exact apart entry.2 id inner declaration there found (.single ⟨inner, there, nested.outer⟩)
    (nested.simple.trans same)

end Code.Model

namespace Run

open Builder (Workshop builderTypeName)
open Code (Declaration Model TypeId)
open Schema (DataClass Hierarchy)

/-- No class has the simple name of a nested type that it has already, or of builders. -/
def NestsApart (builderName : String) (classes : List DataClass) : Prop :=
  ∀ dataClass ∈ classes,
    dataClass.simpleName ∉ dataClass.nested ∧ dataClass.simpleName ≠ builderName

section

variable {hierarchy : Hierarchy} {config : Config} {workshop : Workshop}
  (completes : Completes hierarchy config workshop) (plain : '.' ∉ config.builderName.toList)

include completes plain

/-- Where the names of classes are apart from those of builders, so are the names of the types that
a builder is in. -/
theorem Completes.name_ne_builderName (apart : NestsApart config.builderName hierarchy.classes)
    {dataClass : DataClass} (known : dataClass ∈ hierarchy.classes) {product : TypeId}
    {parent : Declaration} (found : workshop.model.get? product = some parent)
    (named : parent.qualifiedName = dataClass.name) {outer : TypeId} {enclosing : Declaration}
    (there : workshop.model.get? outer = some enclosing)
    (above : product = outer ∨ workshop.model.IsInside product outer) :
    enclosing.name ≠ config.builderName := by
  -- A class that is called after the builder of a class would have the simple name of builders.
  have notBuilder : ∀ name, dataClass.name ≠ name ++ "." ++ config.builderName := by
    intro name same
    refine (apart dataClass known).2 ?_
    rw [DataClass.simpleName, same, Text.afterLastDot_append plain]
  cases completes.role found with
  | @product other isClass header _ outermost =>
      obtain rfl := above.resolve_right (Model.not_isInside found outermost)
      rw [found, Option.some.injEq] at there
      rw [← there, Declaration.name, header]
      exact (apart other isClass).2
  | @host other name _ grandparent isClass listed header qualified inside above' parentHeader
      outermost =>
      rcases above with rfl | further
      · rw [found, Option.some.injEq] at there
        rw [← there, Declaration.name, header]
        rintro rfl
        exact notBuilder other.name (named.symm.trans qualified)
      · obtain rfl := (further.cases found inside).resolve_right
          (Model.not_isInside above' outermost)
        rw [above', Option.some.injEq] at there
        rw [← there, Declaration.name, parentHeader]
        exact (apart other isClass).2
  | @builder other _ _ isClass header qualified inside above' called =>
      exact absurd (named.symm.trans qualified) (notBuilder other.name)

/-- No type is in one of its own name if the names of classes are apart from those of the types
that are nested in them. -/
theorem Completes.namesApart (apart : NestsApart config.builderName hierarchy.classes) :
    workshop.model.NamesApart := by
  intro inner outer declaration enclosing found there inside
  cases completes.role found with
  | product known header named outermost =>
      exact absurd inside (Model.not_isInside found outermost)
  | @host dataClass name _ _ known listed header named own above parentHeader outermost =>
      obtain rfl := (inside.cases found own).resolve_right (Model.not_isInside above outermost)
      rw [there, Option.some.injEq] at above
      subst above
      rw [Declaration.name, Declaration.name, header, parentHeader]
      rintro rfl
      exact (apart dataClass known).1 listed
  | builder known header named own above called =>
      rw [Declaration.name, header]
      exact (completes.name_ne_builderName plain apart known above called there
        (inside.cases found own)).symm

omit plain in
/-- The other way round, if the nested types that classes have already have simple names. -/
theorem Completes.nestsApart (simple : ∀ dataClass ∈ hierarchy.classes,
      ∀ name ∈ dataClass.nested, '.' ∉ name.toList)
    (apart : workshop.model.NamesApart) : NestsApart config.builderName hierarchy.classes := by
  have coherent := completes.reached.coherent
  intro dataClass known
  constructor
  · intro listed
    obtain ⟨id, declaration, found, header, -, -, -, nested⟩ := completes.exists_product known
    have named : declaration.name = dataClass.simpleName := by
      rw [Declaration.name, header]
      rfl
    exact apart.not_mem_nested coherent found (named ▸ nested listed)
  · intro same
    obtain ⟨id, declaration, found, named, bearing⟩ := completes.exists_bearer known
    -- Whatever the type is, the last part of its qualified name is its simple name.
    have own : declaration.name = config.builderName := by
      rw [Declaration.name]
      cases completes.role found with
      | @product other isClass header qualified outermost =>
          rw [header, ← same, DataClass.simpleName, ← named, qualified]
          rfl
      | @host other name _ _ isClass listed header qualified =>
          rw [header, ← same, DataClass.simpleName, ← named, qualified, nestedName,
            Text.afterLastDot_append (simple other isClass name listed)]
      | builder isClass header => rw [header]; rfl
    exact apart.not_mem_nested coherent found (own ▸ bearing)

end

end Run

namespace Manifest

/-- No class has the simple name of a nested type that it has already, or of builders. -/
def NestsApart (manifest : Manifest) : Prop :=
  ∀ entry ∈ manifest.classes,
    Text.afterLastDot (manifest.qualifiedName entry) ∉ entry.nested ∧
      Text.afterLastDot (manifest.qualifiedName entry) ≠ manifest.settings.builderName

theorem LowersTo.nestsApart_iff {manifest : Manifest} {hierarchy : Schema.Hierarchy}
    (lowers : manifest.LowersTo hierarchy) :
    Run.NestsApart manifest.settings.builderName hierarchy.classes ↔ manifest.NestsApart := by
  refine Lists.forall_mem_iff_of_forall₂ lowers.classes ?_
  intro entry member dataClass stands
  rw [Schema.DataClass.simpleName, stands.name, stands.nested]

end Manifest

namespace Run

/-- Of the types that a run on an accepted manifest leaves, none is in a type of its own simple
name, if no class has the simple name of builders or of a nested type that it has already. The
other way round this takes nested types with simple names. -/
theorem names_apart {manifest : Manifest} {context : Context}
    (accepted : manifest.validate = .ok ())
    (success : (({} : Pipeline).run manifest).result = .ok context) :
    (manifest.NestsApart → context.model.NamesApart) ∧
    ((∀ entry ∈ manifest.classes, ∀ name ∈ entry.nested, '.' ∉ name.toList) →
      (context.model.NamesApart ↔ manifest.NestsApart)) := by
  obtain ⟨hierarchy, registry, -, lowers, completes⟩ := completes_of_accepted accepted success
  have usable := (Manifest.wellFormed_of_validate accepted).builderName
  have plain : '.' ∉ manifest.settings.builderName.toList := usable.1.not_mem (by decide)
  have forward : manifest.NestsApart → context.model.NamesApart :=
    fun apart => completes.namesApart plain (lowers.nestsApart_iff.2 apart)
  refine ⟨forward, fun simple => ⟨fun apart => ?_, forward⟩⟩
  refine lowers.nestsApart_iff.1 (completes.nestsApart ?_ apart)
  intro dataClass known
  obtain ⟨entry, member, stands⟩ := Lists.exists_of_mem_forall₂ lowers.classes known
  rw [stands.nested]
  exact simple entry member

theorem forward_names_apart :
    Manifest.forwardManifest.validate = .ok () ∧
      ∃ context, (({} : Pipeline).run Manifest.forwardManifest).result = .ok context ∧
        context.model.NamesApart := by
  have accepted : Manifest.forwardManifest.validate = .ok () := by
    decide +kernel
  have succeeds : (({} : Pipeline).run Manifest.forwardManifest).failure = none := by
    decide +kernel
  have apart : Manifest.forwardManifest.NestsApart := by
    unfold Manifest.NestsApart
    decide +kernel
  have success := result_of_failure_eq_none succeeds
  exact ⟨accepted, _, success, (names_apart accepted success).1 apart⟩

/-- A class that is called as builders are. -/
def namesakeSource : String :=
  "[[class]]\nname = \"Builder\"\n"

theorem not_every_name_is_apart :
    ¬ ∀ file source manifest context, Manifest.read file source = .ok manifest →
      (({} : Pipeline).run manifest).result = .ok context → context.model.NamesApart := by
  intro always
  have accepted : Manifest.read "fluent.toml" namesakeSource = .ok (manifestIn namesakeSource) := by
    decide +kernel
  have succeeds : (({} : Pipeline).run (manifestIn namesakeSource)).failure = none := by
    decide +kernel
  have outer : ((({} : Pipeline).run (manifestIn namesakeSource)).context.model.get? 0).map
      Code.Declaration.name = some "Builder" := by
    decide +kernel
  have inner : ((({} : Pipeline).run (manifestIn namesakeSource)).context.model.get? 1).map
      (fun declaration => (declaration.name, declaration.outer)) = some ("Builder", some 0) := by
    decide +kernel
  obtain ⟨product, found, productName⟩ := Option.map_eq_some_iff.1 outer
  obtain ⟨builder, there, both⟩ := Option.map_eq_some_iff.1 inner
  obtain ⟨builderName, inside⟩ := Prod.mk.inj both
  have apart := always _ _ _ _ accepted (result_of_failure_eq_none succeeds)
  exact apart 1 0 builder product there found (.single ⟨builder, there, inside⟩)
    (builderName.trans productName.symm)

end Run

end BuilderSynthesis
