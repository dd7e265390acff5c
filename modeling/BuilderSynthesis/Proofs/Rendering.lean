import BuilderSynthesis.Java.SourceFile
import BuilderSynthesis.Proofs.Lists

/-!
Contract: what the source file of a type depends on.

A file tells names and members of types and nothing about their positions. So types of two
models have the same file where the types correspond to each other, the types nested in them
included: `sourceFile_eq`.
-/

namespace BuilderSynthesis.Java

open BuilderSynthesis.Code (Declaration Model TypeId)
open BuilderSynthesis.Layout (Fragment)

/-- Declarations that are written in the same way if what is nested in them is. -/
structure Alike (first second : Model) (related : TypeId → TypeId → Prop)
    (one two : Declaration) : Prop where
  header : one.header = two.header
  named : one.qualifiedName = two.qualifiedName
  package : one.package = two.package
  superclass : one.superclass.map first.typeRef = two.superclass.map second.typeRef
  fields : one.fields = two.fields
  methods : one.methods = two.methods
  nested : List.Forall₂ (fun left right => related left.2 right.2) one.nested two.nested

/-- There are types at two positions, and their declarations are alike. -/
def AlikeAt (first second : Model) (related : TypeId → TypeId → Prop) (left right : TypeId) :
    Prop :=
  ∃ one two, first.get? left = some one ∧ second.get? right = some two ∧
    Alike first second related one two

/-- Types that are related have declarations that are alike. -/
def Corresponds (first second : Model) (related : TypeId → TypeId → Prop) : Prop :=
  ∀ left right, related left right → AlikeAt first second related left right

/-- What the imports of a file depend on. -/
def members (declaration : Declaration) : List Code.Field × List Code.Method :=
  (declaration.fields, declaration.methods)

theorem imports_congr {one two : List Declaration} (same : one.map members = two.map members) :
    imports one = imports two := by
  let expressions := fun (parts : List Code.Field × List Code.Method) =>
    parts.2.flatMap (fun method => method.body.flatMap Code.Statement.within)
  let types := fun (parts : List Code.Field × List Code.Method) =>
    parts.1.map Code.Field.type ++ parts.2.flatMap (fun method =>
      method.parameters.map Code.Parameter.type ++ method.returns.toList ++
        method.typeParameters.flatMap Code.TypeParameter.bounds)
  have bodies : ∀ declarations : List Declaration,
      declarations.flatMap bodyExpressions = (declarations.map members).flatMap expressions := by
    intro declarations
    rw [List.flatMap_map]
    rfl
  have mentions : ∀ declarations : List Declaration,
      declarations.flatMap mentionedTypes = (declarations.map members).flatMap types := by
    intro declarations
    rw [List.flatMap_map]
    rfl
  unfold imports
  rw [bodies one, bodies two, mentions one, mentions two, same]

section

variable {first second : Model} {related : TypeId → TypeId → Prop}
  (corresponds : Corresponds first second related)

theorem classHeader_congr {package : Option String} {one two : Declaration}
    (alike : Alike first second related one two) :
    classHeader first package one = classHeader second package two := by
  have superclass := alike.superclass
  unfold classHeader
  rw [alike.header]
  cases above : one.superclass with
  | none =>
      rw [above, Option.map_none] at superclass
      rw [Option.map_eq_none_iff.1 superclass.symm]
  | some left =>
      rw [above, Option.map_some] at superclass
      obtain ⟨right, too, same⟩ := Option.map_eq_some_iff.1 superclass.symm
      simp only [too, same]

include corresponds

theorem classFragments_eq (package : Option String) (levels : Nat) {left right : TypeId}
    (relates : related left right) :
    classFragments first package levels left = classFragments second package levels right := by
  induction levels generalizing left right with
  | zero => rfl
  | succ levels inductionHypothesis =>
      obtain ⟨one, two, here, there, alike⟩ := corresponds left right relates
      have nested : one.nested.map (fun entry => classFragments first package levels entry.2) =
          two.nested.map (fun entry => classFragments second package levels entry.2) :=
        (Lists.map_eq_of_forall₂ alike.nested
          (fun _ _ relates => (inductionHypothesis relates).symm)).symm
      simp only [classFragments, here, there, alike.fields, alike.methods, alike.header, nested,
        classHeader_congr alike]

theorem members_nestedTypes (levels : Nat) {left right : TypeId} (relates : related left right) :
    (nestedTypes first levels left).map members =
      (nestedTypes second levels right).map members := by
  induction levels generalizing left right with
  | zero => rfl
  | succ levels inductionHypothesis =>
      obtain ⟨one, two, here, there, alike⟩ := corresponds left right relates
      have own : members one = members two := Prod.ext alike.fields alike.methods
      have nested : one.nested.map (fun entry => (nestedTypes first levels entry.2).map members) =
          two.nested.map (fun entry => (nestedTypes second levels entry.2).map members) :=
        (Lists.map_eq_of_forall₂ alike.nested
          (fun _ _ relates => (inductionHypothesis relates).symm)).symm
      simp only [nestedTypes, here, there, List.map_cons, List.map_flatMap, own, List.cons.injEq,
        true_and]
      exact congrArg List.flatten nested

/-- Related types of two models of one size have the same file. -/
theorem sourceFile_eq (size : first.size = second.size) {left right : TypeId}
    (relates : related left right) : sourceFile first left = sourceFile second right := by
  obtain ⟨one, two, here, there, alike⟩ := corresponds left right relates
  have name : first.qualifiedName left = second.qualifiedName right := by
    unfold Model.qualifiedName
    simp only [here, there, alike.named]
  have package : (first.get? left).bind Declaration.package =
      (second.get? right).bind Declaration.package := by
    rw [here, there, Option.bind_some, Option.bind_some, alike.package]
  have imported := imports_congr (members_nestedTypes corresponds first.size relates)
  unfold sourceFile fileText
  simp only [name, package, ← size, imported,
    classFragments_eq corresponds _ first.size relates]

end

/-- The path of the file of a type that is in no other: its name, with dots as separators. -/
def filePath (name : String) : String :=
  name.map (fun character => if character = '.' then '/' else character) ++ ".java"

theorem sourcePath_eq (name : String) : sourcePath name fileExtension = filePath name :=
  String.append_assoc ..

/-- Names without separators are told apart by the paths of their files. -/
theorem sourcePath_inj {one two extension : String} (plain : '/' ∉ one.toList)
    (too : '/' ∉ two.toList) (same : sourcePath one extension = sourcePath two extension) :
    one = two := by
  let toDot := fun character : Char => if character = '/' then '.' else character
  have back : ∀ name : String, '/' ∉ name.toList →
      (name.map (fun character => if character = '.' then '/' else character)).toList.map toDot =
        name.toList := by
    intro name plain
    rw [String.toList_map, List.map_map]
    refine (List.map_congr_left ?_).trans (List.map_id _)
    intro character member
    have other : character ≠ '/' := fun same => plain (same ▸ member)
    by_cases dot : character = '.'
    · rw [Function.comp_apply, if_pos dot]
      exact dot.symm
    · rw [Function.comp_apply, if_neg dot]
      exact if_neg other
  unfold sourcePath at same
  rw [String.append_left_inj, String.append_left_inj] at same
  apply String.toList_injective
  rw [← back one plain, same, back two too]

end BuilderSynthesis.Java
