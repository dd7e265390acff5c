import BuilderSynthesis.Proofs.Descent
import BuilderSynthesis.Proofs.Lines
import BuilderSynthesis.Schema.Tree

/-!
Contract: the tree of a hierarchy has one line for each rooted class.

The walk down has no memory of the classes it met. That it ends all the same is said by `Writes`,
the walk without a bound on its levels.

Owns: `Writes`, `IsLineOf`, and `every_rooted_class_on_one_line`.
-/

namespace BuilderSynthesis.Schema

open Text (IsWord EndsSolid)

/-! ### Names that leave lines whole -/

/-- The names of classes, fields and types are words. -/
structure Hierarchy.Named (hierarchy : Hierarchy) : Prop where
  classes : ∀ dataClass ∈ hierarchy.classes, IsWord dataClass.name
  fields : ∀ dataClass ∈ hierarchy.classes, ∀ field ∈ dataClass.fields,
    IsWord field.name ∧ IsWord field.element.text

theorem Field.unbroken_description {field : Field} (name : IsWord field.name)
    (element : IsWord field.element.text) : '\n' ∉ field.description.toList := by
  have inName : '\n' ∉ field.name.toList := name.not_mem (by decide)
  have inElement : '\n' ∉ field.element.text.toList := element.not_mem (by decide)
  unfold description typeText
  cases field.cardinality <;> cases field.isStatic <;> simp [inName, inElement]

theorem DataClass.unbroken_description {dataClass : DataClass} (name : IsWord dataClass.name)
    (fields : ∀ field ∈ dataClass.fields, IsWord field.name ∧ IsWord field.element.text) :
    '\n' ∉ dataClass.description.toList := by
  have inName : '\n' ∉ dataClass.name.toList := name.not_mem (by decide)
  have inFields : '\n' ∉ (Text.joinWith ", " (dataClass.fields.map Field.description)).toList := by
    apply Text.not_mem_joinWith (by decide)
    intro text member
    obtain ⟨field, inside, rfl⟩ := List.mem_map.1 member
    exact (field.unbroken_description (fields field inside).1 (fields field inside).2)
  unfold description
  split <;> split <;> simp [inName, inFields]

theorem DataClass.endsSolid_description {dataClass : DataClass} (name : IsWord dataClass.name) :
    EndsSolid dataClass.description.toList := by
  unfold description
  cases empty : dataClass.fields.isEmpty with
  | true =>
      cases dataClass.isAbstract with
      | true => exact ⟨dataClass.name.toList ++ " (abstract".toList, ')', by simp, by decide⟩
      | false => simpa using name.endsSolid
  | false =>
      rw [if_neg Bool.false_ne_true, String.toList_append, String.toList_append,
        String.toList_append]
      have closed : EndsSolid " \x7d".toList := ⟨[' '], '\x7d', rfl, by decide⟩
      exact (closed.append _).append _

namespace Hierarchy

variable {hierarchy : Hierarchy}

/-! ### Lines of classes -/

def spaces (classes : Nat) : String :=
  String.join (List.replicate classes "  ")

theorem treeIndent_eq (indent : String) (depth : Nat) :
    treeIndent indent depth = indent ++ spaces depth := by
  unfold treeIndent spaces
  congr 1
  induction depth with
  | zero => rfl
  | succ depth inductionHypothesis =>
      have twoMore : List.replicate (2 * (depth + 1)) ' ' =
          "  ".toList ++ List.replicate (2 * depth) ' ' := rfl
      rw [twoMore, String.ofList_append, String.ofList_toList, inductionHypothesis,
        List.replicate_succ, String.join_cons]

/-- The line of a class: two spaces for each proper ancestor, the name of the class, and what else
is said of it. -/
def IsLineOf (hierarchy : Hierarchy) (indent : String) (id : ClassId) (line : String) : Prop :=
  ∃ dataClass notes, hierarchy.get? id = some dataClass ∧
    dataClass.description = dataClass.name ++ notes ∧
    line = indent ++ spaces (hierarchy.ancestors id).length ++ dataClass.description

/-- The lines that are written for classes and everything below them, with no bound on the levels:
there are only as many as the walk down finds before it ends. -/
inductive Writes (hierarchy : Hierarchy) (indent : String) : Nat → List ClassId → List String → Prop
  | done {depth : Nat} : Writes hierarchy indent depth [] []
  | next {depth : Nat} {id : ClassId} {dataClass : DataClass} {others : List ClassId}
      {below after : List String} (found : hierarchy.get? id = some dataClass)
      (subclasses : Writes hierarchy indent (depth + 1) (hierarchy.subclasses id) below)
      (rest : Writes hierarchy indent depth others after) :
      Writes hierarchy indent depth (id :: others)
        ((indent ++ spaces depth ++ dataClass.description) :: below ++ after)

/-- With as many levels as there are classes the bound on the levels is not met. -/
theorem writes_treeLines (indent : String) {levels depth : Nat} {ids : List ClassId}
    (leveled : ∀ id ∈ ids, hierarchy.Rooted id ∧ hierarchy.depth id = depth)
    (enough : hierarchy.size ≤ depth + levels) :
    hierarchy.Writes indent depth ids
      (ids.flatMap (hierarchy.treeLines indent levels depth)) := by
  induction levels generalizing depth ids with
  | zero =>
      -- No class is this deep.
      cases ids with
      | nil => exact .done
      | cons id others =>
          obtain ⟨rooted, level⟩ := leveled id List.mem_cons_self
          have shallow := rooted.depth_lt
          omega
  | succ levels inductionHypothesis =>
      induction ids with
      | nil => exact .done
      | cons id others later =>
          rw [List.forall_mem_cons] at leveled
          obtain ⟨⟨rooted, level⟩, leveledOthers⟩ := leveled
          obtain ⟨dataClass, found⟩ := exists_get? rooted.lt
          rw [List.flatMap_cons, treeLines, found, treeIndent_eq]
          apply Writes.next found _ (later leveledOthers)
          apply inductionHypothesis _ (by omega)
          intro child link
          obtain ⟨childRooted, deeper⟩ := rooted.of_mem_subclasses link
          exact ⟨childRooted, by rw [deeper, level]⟩

/-- The lines under a class are those of the classes that the walk down meets. -/
theorem isLineOf_treeLines (indent : String) {levels : Nat} {id : ClassId}
    (rooted : hierarchy.Rooted id) :
    List.Forall₂ (hierarchy.IsLineOf indent) (hierarchy.descent levels id)
      (hierarchy.treeLines indent levels (hierarchy.depth id) id) := by
  induction levels generalizing id with
  | zero => exact .nil
  | succ levels inductionHypothesis =>
      obtain ⟨dataClass, found⟩ := exists_get? rooted.lt
      rw [descent_succ rooted.lt, treeLines, found, treeIndent_eq]
      apply List.Forall₂.cons ⟨dataClass, _, found, String.append_assoc .., rfl⟩
      apply Lists.forall₂_flatMap
      intro child link
      obtain ⟨childRooted, deeper⟩ := rooted.of_mem_subclasses link
      rw [← deeper]
      exact inductionHypothesis childRooted

theorem IsLineOf.unbroken {indent line : String} {id : ClassId} (named : hierarchy.Named)
    (plain : '\n' ∉ indent.toList) (isLine : hierarchy.IsLineOf indent id line) :
    '\n' ∉ line.toList := by
  obtain ⟨dataClass, -, found, -, rfl⟩ := isLine
  have member := List.mem_of_getElem? found
  have description := DataClass.unbroken_description (named.classes dataClass member)
    (named.fields dataClass member)
  rw [← treeIndent_eq]
  simp [treeIndent, plain, description]

theorem IsLineOf.endsSolid {indent line : String} {id : ClassId} (named : hierarchy.Named)
    (isLine : hierarchy.IsLineOf indent id line) : EndsSolid line.toList := by
  obtain ⟨dataClass, -, found, -, rfl⟩ := isLine
  have name := named.classes dataClass (List.mem_of_getElem? found)
  rw [String.toList_append]
  exact (DataClass.endsSolid_description name).append _

/-! ### The tree -/

/-- The tree has one line for each rooted class and no other lines, whatever links there are: the
walk down ends, lines stand below those of superclasses, and every line is indented by two blanks
for each proper ancestor. -/
theorem every_rooted_class_on_one_line (named : hierarchy.Named) (indent : String) :
    ∃ order lines, hierarchy.IsPreorder order ∧ (∀ id ∈ order, hierarchy.ListsAncestors id) ∧
      List.Forall₂ (hierarchy.IsLineOf indent) order lines ∧
      hierarchy.Writes indent 0 hierarchy.roots lines ∧
      hierarchy.tree indent = Text.joinWith "\n" lines ∧
      ('\n' ∉ indent.toList → Text.lines (hierarchy.tree indent) = lines) := by
  have preorder := hierarchy.isPreorder_flatMap_descent
  have areLines : List.Forall₂ (hierarchy.IsLineOf indent)
      (hierarchy.roots.flatMap (hierarchy.descent hierarchy.size))
      (hierarchy.roots.flatMap (hierarchy.treeLines indent hierarchy.size 0)) := by
    apply Lists.forall₂_flatMap
    intro root member
    obtain ⟨rooted, level⟩ := hierarchy.leveled_roots root member
    rw [← level]
    exact isLineOf_treeLines indent rooted
  have solid : ∀ line ∈ hierarchy.roots.flatMap (hierarchy.treeLines indent hierarchy.size 0),
      EndsSolid line.toList := by
    intro line member
    obtain ⟨id, -, isLine⟩ := Lists.exists_of_mem_forall₂ areLines member
    exact isLine.endsSolid named
  have text := Text.trimEnd_ended solid
  refine ⟨_, _, preorder, fun id member => ((preorder.mem_iff id).1 member).listsAncestors,
    areLines, writes_treeLines indent hierarchy.leveled_roots (by omega), text, fun plain => ?_⟩
  rw [tree, text]
  apply Text.lines_joinWith _ solid
  intro line member
  obtain ⟨id, -, isLine⟩ := Lists.exists_of_mem_forall₂ areLines member
  exact isLine.unbroken named plain

/-- Two roots, a class on a cycle with itself, two that extend each other, and one whose superclass
does not exist, among subclasses that are declared before and after their superclasses. -/
def tangled : Hierarchy :=
  ⟨[{ name := "a.Leaf", superclass := some 3 },
    { name := "a.Loop", superclass := some 1 },
    { name := "a.Other", fields := [⟨"tags", .named "a.Tag", .list, false, none⟩] },
    { name := "a.Base", superclass := some 6, isAbstract := true },
    { name := "a.Left", superclass := some 5 },
    { name := "a.Right", superclass := some 4 },
    { name := "a.Root" },
    { name := "a.Lost", superclass := some 12 },
    { name := "a.Twin", superclass := some 6,
      fields := [⟨"id", .primitive .int, .single, true, none⟩] }]⟩

example : Text.lines (tangled.tree "  ") =
    ["  a.Other \x7b tags: list<a.Tag> \x7d", "  a.Root", "    a.Base (abstract)",
      "      a.Leaf", "    a.Twin \x7b static id: int \x7d"] := by
  decide +kernel

theorem tangled_rooted_class_on_one_line :
    tangled.Named ∧ ∃ order lines, tangled.IsPreorder order ∧
      (∀ id ∈ order, tangled.ListsAncestors id) ∧
      List.Forall₂ (tangled.IsLineOf "  ") order lines ∧
      tangled.Writes "  " 0 tangled.roots lines ∧
      tangled.tree "  " = Text.joinWith "\n" lines ∧
      ('\n' ∉ "  ".toList → Text.lines (tangled.tree "  ") = lines) := by
  have named : tangled.Named := ⟨by decide +kernel, by decide +kernel⟩
  exact ⟨named, every_rooted_class_on_one_line named "  "⟩

end Hierarchy

end BuilderSynthesis.Schema
