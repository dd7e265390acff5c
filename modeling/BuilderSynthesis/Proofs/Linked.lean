import BuilderSynthesis.Proofs.Declared
import BuilderSynthesis.Proofs.Lists

/-!
Contract: the types of a hierarchy after their superclasses have been linked.

Owns:
- `get?_foldl_linkSuperclass`, what linking changes where names are distinct;
- `declareHierarchy_eq_ok_iff`, exactly when a hierarchy can be declared;
- `declareHierarchy_product`, the type of each class then.
-/

namespace BuilderSynthesis.Run

open BuilderSynthesis.Code (Declaration Model TypeId)
open BuilderSynthesis.Schema (ClassId DataClass Hierarchy)

def linkTarget (hierarchy : Hierarchy) (model : Model) (dataClass : DataClass) : Option TypeId :=
  (dataClass.superclass.bind hierarchy.get?).bind (fun superclass => model.lookup superclass.name)

def linked (target : Option TypeId) (declaration : Declaration) : Declaration :=
  match target with
  | none => declaration
  | some superclass => { declaration with superclass := some superclass }

theorem linked_qualifiedName (target : Option TypeId) (declaration : Declaration) :
    (linked target declaration).qualifiedName = declaration.qualifiedName := by
  cases target <;> rfl

/-- Linking a class is a change of the type that its name finds. -/
theorem linkSuperclass_eq (hierarchy : Hierarchy) (model : Model) (dataClass : DataClass) :
    linkSuperclass hierarchy model dataClass =
      match model.lookup dataClass.name with
      | none => model
      | some id => model.update id (linked (linkTarget hierarchy model dataClass)) := by
  have same : ∀ id, model.update id (linked none) = model := Model.update_self model
  unfold linkSuperclass linkTarget
  cases dataClass.superclass.bind hierarchy.get? with
  | none => cases model.lookup dataClass.name <;> simp [same]
  | some superclass =>
      cases model.lookup dataClass.name with
      | none => rfl
      | some id =>
          cases found : model.lookup superclass.name with
          | none => simp [found, same]
          | some parent =>
              simp only [found, Option.bind_some]
              rfl

theorem names_linkSuperclass (hierarchy : Hierarchy) (model : Model) (dataClass : DataClass) :
    (linkSuperclass hierarchy model dataClass).names = model.names := by
  rw [linkSuperclass_eq]
  cases model.lookup dataClass.name with
  | none => rfl
  | some id => exact Model.names_update model id (linked_qualifiedName _)

theorem lookup_linkSuperclass (hierarchy : Hierarchy) (model : Model) (dataClass : DataClass)
    (name : String) :
    (linkSuperclass hierarchy model dataClass).lookup name = model.lookup name := by
  rw [linkSuperclass_eq]
  cases model.lookup dataClass.name <;> rfl

theorem indexed_linkSuperclass (hierarchy : Hierarchy) {model : Model} (indexed : model.Indexed)
    (dataClass : DataClass) : (linkSuperclass hierarchy model dataClass).Indexed := by
  rw [linkSuperclass_eq]
  cases model.lookup dataClass.name with
  | none => exact indexed
  | some id => exact Model.indexed_update indexed id (linked_qualifiedName _)

/-- Where names are distinct, linking classes changes exactly their types. -/
theorem get?_foldl_linkSuperclass {hierarchy : Hierarchy} {model : Model}
    (indexed : model.Indexed) (distinct : model.names.Nodup) {classes : List DataClass}
    (once : (classes.map DataClass.name).Nodup) (id : TypeId) :
    (classes.foldl (linkSuperclass hierarchy) model).get? id =
      (model.get? id).map (fun declaration =>
        linked
          ((classes.find? (fun dataClass => dataClass.name == declaration.qualifiedName)).bind
            (linkTarget hierarchy model)) declaration) := by
  induction classes generalizing model with
  | nil => simp [linked]
  | cons dataClass rest inductionHypothesis =>
      rw [List.map_cons, List.nodup_cons] at once
      have targets : linkTarget hierarchy (linkSuperclass hierarchy model dataClass) =
          linkTarget hierarchy model := by
        funext other
        simp only [linkTarget, lookup_linkSuperclass]
      have later := inductionHypothesis
        (indexed_linkSuperclass hierarchy indexed dataClass)
        (by rwa [names_linkSuperclass]) once.2
      rw [List.foldl_cons, later, targets, linkSuperclass_eq]
      cases found : model.lookup dataClass.name with
      | none =>
          cases present : model.get? id with
          | none => simp only [Option.map_none]
          | some declaration =>
              have other : ¬ dataClass.name = declaration.qualifiedName := by
                intro same
                rw [same, Model.lookup_of_get? indexed distinct present] at found
                cases found
              simp [other]
      | some position =>
          rw [Model.get?_update]
          cases present : model.get? id with
          | none => simp
          | some declaration =>
              have named := Model.lookup_of_get? indexed distinct present
              by_cases own : id = position
              · obtain ⟨declared, there, name⟩ := Model.get?_of_lookup indexed found
                rw [← own, present] at there
                obtain rfl := Option.some.inj there
                have single : rest.find? (fun other => other.name == dataClass.name) = none := by
                  rw [List.find?_eq_none]
                  intro other member same
                  exact once.1 (List.mem_map.2 ⟨other, member, by simpa using same⟩)
                rw [if_pos own, Option.map_some, Option.map_some, Option.map_some,
                  linked_qualifiedName, name, single, List.find?_cons_of_pos (by simp)]
                rfl
              · have other : ¬ dataClass.name = declaration.qualifiedName := by
                  intro same
                  rw [same, named] at found
                  exact own (Option.some.inj found)
                simp [own, other]

/-! ### A hierarchy -/

/-- No type has methods or two fields of one name. -/
def Blank (model : Model) : Prop :=
  ∀ id declaration, model.get? id = some declaration →
    declaration.methods = [] ∧ (declaration.fields.map Code.Field.name).Nodup

theorem names_declaredField (fields : List Schema.Field) :
    (fields.map declaredField).map Code.Field.name = fields.map Schema.Field.name := by
  rw [List.map_map]
  rfl

theorem Declares.blank {classes : List DataClass} {model : Model}
    (declares : Declares classes {} model)
    (distinct : ∀ dataClass ∈ classes, (dataClass.fields.map Schema.Field.name).Nodup) :
    Blank model := by
  intro id declaration found
  obtain ⟨dataClass, member, ⟨nested, rfl⟩ | ⟨outer, name, -, rfl⟩⟩ :=
    declares.fresh id declaration (Nat.zero_le id) found
  · refine ⟨rfl, ?_⟩
    rw [productDeclaration, names_declaredField]
    exact distinct dataClass member
  · exact ⟨rfl, List.nodup_nil⟩

theorem blank_linkSuperclass (hierarchy : Hierarchy) {model : Model} (blank : Blank model)
    (dataClass : DataClass) : Blank (linkSuperclass hierarchy model dataClass) := by
  rw [linkSuperclass_eq]
  cases model.lookup dataClass.name with
  | none => exact blank
  | some position =>
      intro id declaration found
      rcases Model.get?_update_cases found with ⟨-, before, present, rfl⟩ | ⟨-, present⟩
      · cases linkTarget hierarchy model dataClass <;> exact blank position before present
      · exact blank id declaration present

/-- What linking any classes keeps. -/
theorem foldl_linkSuperclass_keeps (hierarchy : Hierarchy) (classes : List DataClass)
    {model : Model} (indexed : model.Indexed) (blank : Blank model) :
    (classes.foldl (linkSuperclass hierarchy) model).names = model.names ∧
      (classes.foldl (linkSuperclass hierarchy) model).Indexed ∧
      Blank (classes.foldl (linkSuperclass hierarchy) model) := by
  induction classes generalizing model with
  | nil => exact ⟨rfl, indexed, blank⟩
  | cons dataClass rest inductionHypothesis =>
      rw [List.foldl_cons]
      have kept := inductionHypothesis (indexed_linkSuperclass hierarchy indexed dataClass)
        (blank_linkSuperclass hierarchy blank dataClass)
      rwa [names_linkSuperclass] at kept

/-- What the types of a declared hierarchy are called, and that they are as simple as can be. -/
structure Declared (hierarchy : Hierarchy) (model : Model) : Prop where
  names : model.names = hierarchy.classes.flatMap declaredNames
  indexed : model.Indexed
  blank : Blank model

def linkedDeclaration (hierarchy : Hierarchy) (model : Model) (dataClass : DataClass)
    (nested : List (String × TypeId)) : Declaration :=
  { productDeclaration dataClass nested with
    superclass := linkTarget hierarchy model dataClass }

theorem declareHierarchy_eq_ok_iff {hierarchy : Hierarchy} {model : Model}
    {reports : List Diagnostic} :
    declareHierarchy hierarchy = .ok (model, reports) ↔
      ∃ unlinked, declareClasses hierarchy.classes {} = .ok (unlinked, reports) ∧
        model = hierarchy.classes.foldl (linkSuperclass hierarchy) unlinked := by
  unfold declareHierarchy
  simp only [Outcome.bind_eq_ok_iff, Prod.exists]
  constructor
  · rintro ⟨unlinked, others, declared, same⟩
    simp only [pure, Except.pure, Except.ok.injEq, Prod.mk.injEq] at same
    exact ⟨unlinked, same.2 ▸ declared, same.1.symm⟩
  · rintro ⟨unlinked, declared, rfl⟩
    exact ⟨unlinked, reports, declared, rfl⟩

/-- A hierarchy can be declared exactly if its classes can. -/
theorem declareHierarchy_succeeds_iff (hierarchy : Hierarchy) :
    (∃ model reports, declareHierarchy hierarchy = .ok (model, reports)) ↔
      Declarable [] hierarchy.classes := by
  have classes := @declareClasses_succeeds_iff hierarchy.classes {} Model.indexed_empty
  refine Iff.trans ?_ classes
  simp only [declareHierarchy_eq_ok_iff]
  constructor
  · rintro ⟨-, reports, unlinked, declared, -⟩
    exact ⟨unlinked, reports, declared⟩
  · rintro ⟨unlinked, reports, declared⟩
    exact ⟨_, reports, unlinked, declared, rfl⟩

theorem declareHierarchy_declared {hierarchy : Hierarchy} {model : Model}
    {reports : List Diagnostic} (success : declareHierarchy hierarchy = .ok (model, reports)) :
    Declared hierarchy model := by
  have classes := (declareHierarchy_succeeds_iff hierarchy).1 ⟨_, _, success⟩
  obtain ⟨unlinked, declared, rfl⟩ := declareHierarchy_eq_ok_iff.1 success
  have declares := declareClasses_declares declared
  have kept := foldl_linkSuperclass_keeps hierarchy hierarchy.classes
    (declares.indexed Model.indexed_empty) (declares.blank classes.1)
  exact ⟨kept.1.trans declares.names, kept.2.1, kept.2.2⟩

theorem names_sublist {classes : List DataClass} :
    (classes.map DataClass.name).Sublist (classes.flatMap declaredNames) := by
  induction classes with
  | nil => exact List.Sublist.slnil
  | cons dataClass rest inductionHypothesis =>
      rw [List.map_cons, List.flatMap_cons]
      exact List.Sublist.append (List.singleton_sublist.2 List.mem_cons_self) inductionHypothesis

theorem lookup_foldl_linkSuperclass {hierarchy : Hierarchy} (classes : List DataClass)
    (model : Model) (name : String) :
    (classes.foldl (linkSuperclass hierarchy) model).lookup name = model.lookup name := by
  induction classes generalizing model with
  | nil => rfl
  | cons dataClass rest inductionHypothesis =>
      rw [List.foldl_cons, inductionHypothesis, lookup_linkSuperclass]

/-- Where names are distinct, every class has its type, with its fields and with the type of its
superclass. -/
theorem declareHierarchy_product {hierarchy : Hierarchy} {model : Model}
    {reports : List Diagnostic} (success : declareHierarchy hierarchy = .ok (model, reports))
    (distinct : model.names.Nodup) {dataClass : DataClass}
    (member : dataClass ∈ hierarchy.classes) :
    ∃ type nested, nested.map Prod.fst = hostNames dataClass ∧
      model.get? type = some (linkedDeclaration hierarchy model dataClass nested) := by
  have named := (declareHierarchy_declared success).names
  obtain ⟨unlinked, declared, rfl⟩ := declareHierarchy_eq_ok_iff.1 success
  have declares := declareClasses_declares declared
  have indexed := declares.indexed Model.indexed_empty
  rw [named] at distinct
  have once := distinct.sublist names_sublist
  have names : unlinked.names.Nodup := by
    rw [declares.names]
    exact distinct
  obtain ⟨type, nested, keys, found⟩ := declares.product dataClass member
  refine ⟨type, nested, keys, ?_⟩
  have single : hierarchy.classes.find? (fun other => other.name == dataClass.name) =
      some dataClass := Lists.find?_key_of_nodup once member
  have targets : linkTarget hierarchy
      (hierarchy.classes.foldl (linkSuperclass hierarchy) unlinked) dataClass =
        linkTarget hierarchy unlinked dataClass := by
    unfold linkTarget
    simp only [lookup_foldl_linkSuperclass]
  rw [get?_foldl_linkSuperclass indexed names once, found, Option.map_some,
    show (productDeclaration dataClass nested).qualifiedName = dataClass.name from rfl, single,
    Option.bind_some]
  unfold linkedDeclaration
  rw [targets]
  cases linkTarget hierarchy unlinked dataClass <;> rfl

end BuilderSynthesis.Run
