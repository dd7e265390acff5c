import BuilderSynthesis.Proofs.Identifier
import BuilderSynthesis.Proofs.Legality
import BuilderSynthesis.Proofs.Mentions

/-!
Contract: which types of a file are written in one way.

The text of a type drops the package of the file, calls texts and boxed values by the bare names of
classes, and puts the type parameter of `init` among them. All of these are names of the same kind,
and nothing keeps them apart: a class `P` is written like the type parameter, a class `String` like
the type of texts, a list of a class `Integer` like a list of numbers. `Collides` lists these cases.

Types that a file mentions and that do not collide are told apart by their texts. This rests on the
characters of class names, which are those of identifiers and dots: a bracket says that a type is an
array or a list.

Owns: `Collides`, `IsOrdinary`, `typeText_eq_iff` and `texts_differ_unless_collides`.
-/

namespace BuilderSynthesis

/-! ### Parts of texts -/

namespace Text

theorem dropLeading?_eq_some_iff {pattern text rest : List Char} :
    dropLeading? pattern text = some rest ↔ text = pattern ++ rest := by
  induction pattern generalizing text with
  | nil => simp [dropLeading?]
  | cons expected pattern inductionHypothesis =>
      cases text with
      | nil => simp [dropLeading?]
      | cons character text =>
          unfold dropLeading?
          rw [List.cons_append, List.cons.injEq, eq_comm (a := character)]
          split
          · rename_i same
            rw [inductionHypothesis, and_iff_right same]
          · rename_i different
            simp only [different, false_and, reduceCtorEq]

end Text

namespace Java

open Builder (productTypeName)
open Code (TypeRef)
open Schema (Primitive)

/-! ### Class names -/

/-- A class of the package of a file, and its name without the package. -/
def InPackage (package : Option String) (name inner : String) : Prop :=
  ∃ own first rest, package = some own ∧ name = own ++ "." ++ inner ∧
    inner.toList = first :: rest ∧ Text.isUpperCase first = true

/-- A class has a name, or has it in the package of a file. -/
def IsCalled (package : Option String) (name text : String) : Prop :=
  name = text ∨ InPackage package name text

theorem withinPackage?_eq_some_iff {package name inner : List Char} :
    withinPackage? package name = some inner ↔ name = package ++ '.' :: inner ∧
      ∃ first rest, inner = first :: rest ∧ Text.isUpperCase first = true := by
  have dropped : ∀ after : List Char,
      (Text.dropLeading? package name).bind (Text.dropLeading? ['.']) = some after ↔
        name = package ++ '.' :: after := by
    intro after
    rw [Option.bind_eq_some_iff]
    simp only [Text.dropLeading?_eq_some_iff, List.singleton_append, exists_eq_right]
  unfold withinPackage?
  split
  · rename_i first rest found
    rw [dropped] at found
    subst found
    split
    · rename_i upper
      simp only [Option.some.injEq, List.append_cancel_left_eq, List.cons.injEq, true_and]
      constructor
      · rintro rfl
        exact ⟨rfl, first, rest, rfl, upper⟩
      · exact fun both => both.1
    · rename_i lower
      simp only [reduceCtorEq, List.append_cancel_left_eq, List.cons.injEq, true_and, false_iff]
      rintro ⟨rfl, _, _, same, upper⟩
      rw [List.cons.injEq] at same
      exact lower (same.1 ▸ upper)
  · rename_i none'
    simp only [reduceCtorEq, false_iff]
    rintro ⟨same, first, rest, rfl, -⟩
    exact none' first rest ((dropped _).2 same)

theorem inPackage_iff {own name inner : String} :
    InPackage (some own) name inner ↔
      withinPackage? own.toList name.toList = some inner.toList := by
  have text : name = own ++ "." ++ inner ↔ name.toList = own.toList ++ '.' :: inner.toList := by
    rw [← String.toList_inj, String.toList_append, String.toList_append, List.append_assoc]
    rfl
  unfold InPackage
  simp only [Option.some.injEq, withinPackage?_eq_some_iff, text, exists_and_left, exists_eq_left']

section

variable {package : Option String} {name inner : String}

theorem classText_of_inPackage (inside : InPackage package name inner) :
    classText package name = inner := by
  cases package with
  | none =>
      obtain ⟨_, _, _, impossible, -⟩ := inside
      cases impossible
  | some own =>
      simp only [classText, inPackage_iff.1 inside, String.ofList_toList]

theorem classText_of_outside (outside : ∀ inner, ¬ InPackage package name inner) :
    classText package name = name := by
  cases package with
  | none => rfl
  | some own =>
      cases found : withinPackage? own.toList name.toList with
      | none => simp only [classText, found]
      | some characters =>
          rw [← String.toList_ofList (l := characters)] at found
          exact absurd (inPackage_iff.2 found) (outside _)

theorem classText_cases (package : Option String) (name : String) :
    InPackage package name (classText package name) ∨
      (∀ inner, ¬ InPackage package name inner) ∧ classText package name = name := by
  by_cases inside : ∃ inner, InPackage package name inner
  · obtain ⟨inner, here⟩ := inside
    exact .inl ((classText_of_inPackage here).symm ▸ here)
  · have outside := not_exists.1 inside
    exact .inr ⟨outside, classText_of_outside outside⟩

theorem isCalled_classText (package : Option String) (name : String) :
    IsCalled package name (classText package name) := by
  rcases classText_cases package name with inside | ⟨-, same⟩
  · exact .inr inside
  · exact .inl same.symm

/-- A name without a dot is no name in a package. -/
theorem classText_of_isCalled {text : String} (plain : '.' ∉ text.toList)
    (called : IsCalled package name text) : classText package name = text := by
  rcases called with rfl | inside
  · refine classText_of_outside ?_
    rintro inner ⟨own, _, _, -, rfl, -⟩
    apply plain
    simp [String.toList_append]
  · exact classText_of_inPackage inside

end

/-- The name of a class: identifiers between dots, and no reserved word. -/
structure IsClassName (name : String) : Prop where
  segments : ∀ segment ∈ Text.dottedSegments name, IsIdentifier segment
  unreserved : isReserved name = false

/-- A text has the characters of identifiers and dots only. -/
def IsPlain (text : String) : Prop :=
  ∀ character ∈ text.toList, isIdentifierPart character = true ∨ character = '.'

theorem isReserved_of_dot {name : String} (dotted : '.' ∈ name.toList) :
    isReserved name = false := by
  have undotted : ∀ word ∈ "_" :: keywords, '.' ∉ word.toList := by
    decide
  unfold isReserved isKeyword
  rw [Bool.or_eq_false_iff, ← Bool.not_eq_true, List.contains_iff_mem, beq_eq_false_iff_ne]
  constructor
  · exact fun member => undotted name (List.mem_cons_of_mem _ member) dotted
  · exact fun same => undotted name (same ▸ List.mem_cons_self) dotted

theorem isClassName_of_dot {name : String} (dotted : '.' ∈ name.toList)
    (segments : ∀ segment ∈ Text.dottedSegments name, IsIdentifier segment) : IsClassName name :=
  ⟨segments, isReserved_of_dot dotted⟩

theorem isClassName_of_isUsablePath {name : String} (path : Manifest.IsUsablePath name) :
    IsClassName name := by
  refine ⟨fun segment member => (path segment member).1, ?_⟩
  by_cases dotted : '.' ∈ name.toList
  · exact isReserved_of_dot dotted
  · refine (path name ?_).2
    rw [Text.dottedSegments_of_not_mem dotted]
    exact List.mem_singleton_self name

theorem IsClassName.isPlain {name : String} (className : IsClassName name) : IsPlain name := by
  intro character member
  rcases @Text.mem_split '.' _ _ member with dot | ⟨segment, inside, here⟩
  · exact .inr dot
  · have identifier := className.segments _ (List.mem_map_of_mem inside)
    refine .inl (identifier.parts character ?_)
    rwa [String.toList_ofList]

theorem isPlain_classText {package : Option String} {name : String}
    (className : IsClassName name) : IsPlain (classText package name) := by
  rcases classText_cases package name with ⟨own, first, rest, -, same, -⟩ | ⟨-, same⟩
  · intro character member
    apply className.isPlain character
    rw [same, String.toList_append]
    exact List.mem_append_right _ member
  · rw [same]
    exact className.isPlain

/-! ### Types that are written in one way -/

/-- Different types that a file of a package writes in one way. -/
inductive Collides (package : Option String) : TypeRef → TypeRef → Prop where
  /-- The type of texts, and a class of its name. -/
  | text {name : String} (called : IsCalled package name (primitiveText .string)) :
      Collides package (.primitive .string) (.named name)
  /-- The type parameter of `init`, and a class of its name. -/
  | parameter {name : String} (called : IsCalled package name productTypeName) :
      Collides package (.var productTypeName) (.named name)
  /-- A class of the package, and one that is called like it without the package. -/
  | package {name inner : String} (inside : InPackage package name inner)
      (outside : ∀ other, ¬ InPackage package inner other) :
      Collides package (.named name) (.named inner)
  /-- A list of primitive values, and one of a class of the name of the class that boxes them. -/
  | boxed {kind : Primitive} {name : String} (called : IsCalled package name (boxedText kind)) :
      Collides package (.list (.primitive kind)) (.list (.named name))
  | array {one other : TypeRef} (elements : Collides package one other) :
      Collides package (.array one) (.array other)
  | list {one other : String} (elements : Collides package (.named one) (.named other)) :
      Collides package (.list (.named one)) (.list (.named other))

/-- The type of a single value of a field. -/
inductive IsElementType : TypeRef → Prop where
  | primitive (kind : Primitive) : IsElementType (.primitive kind)
  | named {name : String} (className : IsClassName name) : IsElementType (.named name)

/-- A type that files mention. -/
inductive IsOrdinary : TypeRef → Prop where
  | element {type : TypeRef} (element : IsElementType type) : IsOrdinary type
  | array {type : TypeRef} (element : IsElementType type) : IsOrdinary (.array type)
  | list {type : TypeRef} (element : IsElementType type) : IsOrdinary (.list type)
  /-- The type parameter of `init`. -/
  | parameter : IsOrdinary (.var productTypeName)

theorem primitiveText_injective : Function.Injective primitiveText := by
  intro one other same
  revert same
  cases one <;> cases other <;> decide

theorem boxedText_injective : Function.Injective boxedText := by
  intro one other same
  revert same
  cases one <;> cases other <;> decide

section

variable {package : Option String}

/-- Types that collide are written in one way. -/
theorem Collides.typeText_eq {one other : TypeRef} (collides : Collides package one other) :
    typeText package one = typeText package other := by
  induction collides with
  | text called => exact (classText_of_isCalled (by decide) called).symm
  | parameter called => exact (classText_of_isCalled (by decide) called).symm
  | package inside outside =>
      exact (classText_of_inPackage inside).trans (classText_of_outside outside).symm
  | boxed called =>
      rename_i kind name
      have undotted : '.' ∉ (boxedText kind).toList := by
        cases kind <;> decide
      simp only [typeText, classText_of_isCalled undotted called]
  | array elements inductionHypothesis => simp only [typeText, inductionHypothesis]
  | list elements inductionHypothesis =>
      simp only [typeText] at inductionHypothesis ⊢
      rw [inductionHypothesis]

/-- Two classes that are written in one way collide. -/
theorem collides_of_classText_eq {one other : String} (different : one ≠ other)
    (same : classText package one = classText package other) :
    Collides package (.named one) (.named other) ∨
      Collides package (.named other) (.named one) := by
  rcases classText_cases package one with inside | ⟨outside, plain⟩ <;>
    rcases classText_cases package other with inside' | ⟨outside', plain'⟩
  · rw [same] at inside
    obtain ⟨own, _, _, known, left, -⟩ := inside
    obtain ⟨own', _, _, known', right, -⟩ := inside'
    rw [known, Option.some.injEq] at known'
    exact absurd (left.trans (known' ▸ right.symm)) different
  · rw [same, plain'] at inside
    exact .inl (.package inside outside')
  · rw [← same, plain] at inside'
    exact .inr (.package inside' outside)
  · exact absurd (plain.symm.trans (same.trans plain')) different

/-- The only primitive type that is written like a class is that of texts. -/
theorem collides_of_primitiveText_eq {kind : Primitive} {name : String}
    (className : IsClassName name) (same : primitiveText kind = classText package name) :
    Collides package (.primitive kind) (.named name) := by
  have called := isCalled_classText package name
  rw [← same] at called
  have text : kind = .string := by
    rcases called with rfl | ⟨_, first, rest, -, -, characters, upper⟩
    · have unreserved := className.unreserved
      revert unreserved
      cases kind <;> decide
    · have head : (primitiveText kind).toList.head? = some first := by
        rw [characters, List.head?_cons]
      cases kind <;> cases head <;> first | rfl | cases upper
  subst text
  exact .text called

/-- Different types of single values that are written in one way collide. -/
theorem collides_of_element {left right : TypeRef} (one : IsElementType left)
    (two : IsElementType right) (different : left ≠ right)
    (same : typeText package left = typeText package right) :
    Collides package left right ∨ Collides package right left := by
  cases one with
  | primitive kind =>
      cases two with
      | primitive other => exact absurd (congrArg _ (primitiveText_injective same)) different
      | named className => exact .inl (collides_of_primitiveText_eq className same)
  | named className =>
      cases two with
      | primitive kind => exact .inr (collides_of_primitiveText_eq className same.symm)
      | named className =>
          exact collides_of_classText_eq (fun names => different (congrArg _ names)) same

/-- Elements of lists are written as they are, or as the classes that box them. -/
theorem collides_of_list {left right : TypeRef} (one : IsElementType left)
    (two : IsElementType right) (different : left ≠ right)
    (same : typeText package (.list left) = typeText package (.list right)) :
    Collides package (.list left) (.list right) ∨ Collides package (.list right) (.list left) := by
  have boxed : ∀ {kind : Primitive} {name : String}, boxedText kind = classText package name →
      Collides package (.list (.primitive kind)) (.list (.named name)) := by
    intro kind name same
    exact .boxed (same ▸ isCalled_classText package name)
  cases one with
  | primitive kind =>
      cases two with
      | primitive other =>
          simp only [typeText, String.append_left_inj, String.append_right_inj] at same
          exact absurd (congrArg _ (boxedText_injective same)) different
      | named className =>
          simp only [typeText, String.append_left_inj, String.append_right_inj] at same
          exact .inl (boxed same)
  | named className =>
      cases two with
      | primitive kind =>
          simp only [typeText, String.append_left_inj, String.append_right_inj] at same
          exact .inr (boxed same.symm)
      | named className =>
          simp only [typeText, String.append_left_inj, String.append_right_inj] at same
          exact (collides_of_classText_eq (fun names => different (congrArg _ names)) same).imp
            .list .list

/-! ### Brackets -/

/-- Whether a text has the bracket of an array in it, and that of a list. -/
def brackets (text : String) : Bool × Bool :=
  (text.toList.contains ']', text.toList.contains '>')

theorem brackets_of_isPlain {text : String} (plain : IsPlain text) :
    brackets text = (false, false) := by
  have absent : ∀ character : Char, isIdentifierPart character = false → character ≠ '.' →
      text.toList.contains character = false := by
    intro character foreign other
    rw [← Bool.not_eq_true, List.contains_iff_mem]
    intro member
    rcases plain character member with part | dot
    · rw [foreign] at part
      cases part
    · exact other dot
  exact Prod.ext (absent ']' (by decide) (by decide)) (absent '>' (by decide) (by decide))

theorem brackets_append (text other : String) :
    brackets (text ++ other) =
      ((brackets text).1 || (brackets other).1, (brackets text).2 || (brackets other).2) := by
  unfold brackets
  rw [String.toList_append, List.contains_append, List.contains_append]

theorem isPlain_of_all {text : String}
    (all : text.toList.all
      (fun character => isIdentifierPart character || character == '.') = true) :
    IsPlain text := by
  intro character member
  have part := List.all_eq_true.1 all character member
  rwa [Bool.or_eq_true, beq_iff_eq] at part

theorem isPlain_primitiveText (kind : Primitive) : IsPlain (primitiveText kind) := by
  apply isPlain_of_all
  cases kind <;> decide

theorem isPlain_boxedText (kind : Primitive) : IsPlain (boxedText kind) := by
  apply isPlain_of_all
  cases kind <;> decide

theorem brackets_element {type : TypeRef} (element : IsElementType type) :
    brackets (typeText package type) = (false, false) := by
  cases element with
  | primitive kind => exact brackets_of_isPlain (isPlain_primitiveText kind)
  | named className => exact brackets_of_isPlain (isPlain_classText className)

def bracketsOf : TypeRef → Bool × Bool
  | .array _ => (true, false)
  | .list _ => (false, true)
  | _ => (false, false)

theorem brackets_typeText {type : TypeRef} (ordinary : IsOrdinary type) :
    brackets (typeText package type) = bracketsOf type := by
  have around : ∀ text, IsPlain text → brackets ("List<" ++ text ++ ">") = (false, true) := by
    intro text plain
    rw [brackets_append, brackets_append, brackets_of_isPlain plain]
    decide
  cases ordinary with
  | element element =>
      rw [brackets_element element]
      cases element <;> rfl
  | array element =>
      have behind : brackets "[]" = (true, false) := by
        decide
      rw [typeText, brackets_append, brackets_element element, behind]
      rfl
  | list element =>
      cases element with
      | primitive kind => exact around _ (isPlain_boxedText kind)
      | named className => exact around _ (isPlain_classText className)
  | parameter => exact show brackets productTypeName = (false, false) by decide

/-- A type of a single value that is written like the type parameter of `init` is a class of that
name. -/
theorem collides_of_parameter {type : TypeRef} (element : IsElementType type)
    (same : productTypeName = typeText package type) :
    Collides package (.var productTypeName) type := by
  cases element with
  | primitive kind =>
      have other : productTypeName ≠ primitiveText kind := by
        cases kind <;> decide
      exact absurd same other
  | @named name className =>
      have called := isCalled_classText package name
      exact .parameter (same ▸ called)

/-- Different types that files mention are written in one way exactly if they collide. -/
theorem typeText_eq_iff {left right : TypeRef} (one : IsOrdinary left) (two : IsOrdinary right)
    (different : left ≠ right) :
    typeText package left = typeText package right ↔
      Collides package left right ∨ Collides package right left := by
  constructor
  · intro same
    have kinds : bracketsOf left = bracketsOf right := by
      rw [← brackets_typeText one, same, brackets_typeText two]
    cases one with
    | element one =>
        cases two with
        | element two => exact collides_of_element one two different same
        | array two => cases one <;> cases kinds
        | list two => cases one <;> cases kinds
        | parameter => exact .inr (collides_of_parameter one same.symm)
    | array one =>
        cases two with
        | element two => cases two <;> cases kinds
        | array two =>
            have elements := (String.append_left_inj "[]").1 same
            exact (collides_of_element one two (fun types => different (congrArg _ types))
              elements).imp .array .array
        | list two => cases kinds
        | parameter => cases kinds
    | list one =>
        cases two with
        | element two => cases two <;> cases kinds
        | array two => cases kinds
        | list two =>
            exact collides_of_list one two (fun types => different (congrArg _ types)) same
        | parameter => cases kinds
    | parameter =>
        cases two with
        | element two => exact .inl (collides_of_parameter two same)
        | array two => cases kinds
        | list two => cases kinds
        | parameter => exact absurd rfl different
  · rintro (collides | collides)
    · exact collides.typeText_eq
    · exact collides.typeText_eq.symm

end

end Java

/-! ### Types of a manifest -/

namespace Manifest

open Code (TypeRef)
open Java (IsElementType isClassName_of_dot isClassName_of_isUsablePath)

variable {manifest : Manifest}

theorem WellFormed.isElementType (wellFormed : manifest.WellFormed) {name : String}
    (known : manifest.IsElement name) {element : Schema.Element}
    (means : manifest.Means name element) : IsElementType (TypeRef.ofElement element) := by
  cases means with
  | primitive kind => exact .primitive kind
  | declared entry plain member named =>
      have path := isUsablePath_qualifyIn wellFormed.package (wellFormed.classNames entry member)
      exact .named (isClassName_of_isUsablePath path)
  | foreign plain unknown =>
      rcases known with ⟨kind, primitive⟩ | declares | ⟨dotted, identifiers⟩
      · rw [ofName?_eq_none_iff.2 plain] at primitive
        cases primitive
      · exact absurd declares unknown
      · exact .named (isClassName_of_dot dotted identifiers)

end Manifest

/-! ### Runs -/

namespace Run

open Code (TypeRef)
open Java (Collides IsElementType IsOrdinary typeText typesInFile)
open Manifest (LowersTo isUsablePath_append_iff isUsablePath_qualifyIn)
open Schema (DataClass Hierarchy)

/-- The type of a field is ordinary, and that of its elements as well. -/
theorem isOrdinary_of_mem_parts {element : Schema.Element} {cardinality : Schema.Cardinality}
    (single : IsElementType (TypeRef.ofElement element)) {type : TypeRef}
    (part : type ∈ (TypeRef.ofField element cardinality).parts) : IsOrdinary type := by
  have alone : (TypeRef.ofElement element).parts = [TypeRef.ofElement element] := by
    cases element <;> rfl
  cases cardinality with
  | single =>
      rw [TypeRef.ofField, alone, List.mem_singleton] at part
      exact part ▸ .element single
  | array =>
      rw [TypeRef.ofField, TypeRef.parts, alone, List.mem_pair] at part
      rcases part with rfl | rfl
      · exact .array single
      · exact .element single
  | list =>
      rw [TypeRef.ofField, TypeRef.parts, alone, List.mem_pair] at part
      rcases part with rfl | rfl
      · exact .list single
      · exact .element single

/-- What a file mentions after a run on a well-formed manifest is an ordinary type. -/
theorem isOrdinary_of_mentionable {manifest : Manifest} {hierarchy : Hierarchy}
    (wellFormed : manifest.WellFormed) (lowers : LowersTo manifest hierarchy) {whole type : TypeRef}
    (mentionable : Mentionable hierarchy manifest.settings.builderName whole)
    (part : type ∈ whole.parts) : IsOrdinary type := by
  have names := lowers.isUsablePath wellFormed
  have named : ∀ {name : String}, Manifest.IsUsablePath name →
      type ∈ (TypeRef.named name).parts → IsOrdinary type := by
    intro name path part
    rw [List.mem_singleton.1 part]
    exact .element (.named (Java.isClassName_of_isUsablePath path))
  cases mentionable with
  | @ofField dataClass field known declared =>
      obtain ⟨entry, member, stands⟩ := Lists.exists_of_mem_forall₂ lowers.classes known
      obtain ⟨source, inside, describes⟩ :=
        Lists.exists_of_mem_forall₂ stands.describes.fields declared
      obtain ⟨typeNotation, written, -, means⟩ := describes.type
      obtain ⟨other, again, element⟩ := wellFormed.fieldTypes entry member source inside
      rw [written, Option.some.injEq] at again
      subst again
      exact isOrdinary_of_mem_parts (wellFormed.isElementType element means) part
  | product known => exact named (names _ known) part
  | builder known =>
      have path := isUsablePath_append_iff.2 ⟨names _ known, wellFormed.builderName.isUsablePath⟩
      exact named path part
  | parameter =>
      rw [List.mem_singleton.1 part]
      exact .parameter

/-- Different types that a file mentions, after a run on an accepted manifest, are written in one
way exactly if one collides with the other. -/
theorem texts_differ_unless_collides {manifest : Manifest} {context : Context}
    (accepted : manifest.validate = .ok ())
    (success : (({} : Pipeline).run manifest).result = .ok context) :
    ∀ entry ∈ context.model.topLevel,
      ∀ left ∈ typesInFile context.model entry.1, ∀ right ∈ typesInFile context.model entry.1,
        left ≠ right →
          (typeText entry.2.package left = typeText entry.2.package right ↔
            Collides entry.2.package left right ∨ Collides entry.2.package right left) := by
  have wellFormed := Manifest.wellFormed_of_validate accepted
  obtain ⟨hierarchy, lowered, reached⟩ := reached_of_run success
  obtain ⟨other, again, lowers⟩ := Manifest.lower_succeeds (Manifest.accepted_of_validate accepted)
  rw [lowered, Except.ok.injEq] at again
  subst again
  obtain ⟨registry, -, completes⟩ := reached.completes
  intro entry file left one right two different
  have ordinary : ∀ type ∈ typesInFile context.model entry.1, IsOrdinary type := by
    intro type mentioned
    obtain ⟨whole, mentionable, part⟩ := mentionable_of_mem_typesInFile completes mentioned
    exact isOrdinary_of_mentionable wellFormed lowers mentionable part
  exact Java.typeText_eq_iff (ordinary left one) (ordinary right two) different

/-- A list of numbers, and one of a class of the package whose name is that of the class that boxes
numbers. -/
def numbersManifest : Manifest :=
  { settings := { package := some "acme" }
    classes := [
      { name := ⟨"A", ⟨0, 3⟩⟩
        fields := [
          { name := ⟨"plain", ⟨4, 11⟩⟩, type := ⟨"list<int>", ⟨12, 23⟩⟩ },
          { name := ⟨"own", ⟨24, 29⟩⟩, type := ⟨"list<Integer>", ⟨30, 45⟩⟩ }] },
      { name := ⟨"Integer", ⟨46, 55⟩⟩ }] }

theorem lists_of_numbers_collide :
    numbersManifest.validate = .ok () ∧
      ∃ context, (({} : Pipeline).run numbersManifest).result = .ok context ∧
        ∃ entry ∈ context.model.topLevel, ∃ left ∈ typesInFile context.model entry.1,
          ∃ right ∈ typesInFile context.model entry.1, left ≠ right ∧
            typeText entry.2.package left = typeText entry.2.package right := by
  have accepted : numbersManifest.validate = .ok () := by
    decide +kernel
  have succeeds : (({} : Pipeline).run numbersManifest).failure = none := by
    decide +kernel
  have mentions : let model := (({} : Pipeline).run numbersManifest).context.model
      ∃ entry ∈ model.topLevel, entry.2.package = some "acme" ∧
        TypeRef.list (.primitive .int) ∈ typesInFile model entry.1 ∧
        TypeRef.list (.named "acme.Integer") ∈ typesInFile model entry.1 := by
    decide +kernel
  obtain ⟨entry, file, package, one, two⟩ := mentions
  have success := result_of_failure_eq_none succeeds
  have different : TypeRef.list (.primitive .int) ≠ .list (.named "acme.Integer") := by
    decide
  have inside : Java.InPackage (some "acme") "acme.Integer" (Java.boxedText .int) :=
    ⟨"acme", 'I', "nteger".toList, rfl, by decide, by decide, by decide⟩
  refine ⟨accepted, _, success, entry, file, _, one, _, two, different, ?_⟩
  rw [texts_differ_unless_collides accepted success entry file _ one _ two different, package]
  exact .inl (.boxed (.inr inside))

/-- A class that has the name of the type parameter of `init`. -/
def parameterSource : String :=
  "[[class]]\nname = \"P\"\n"

theorem not_every_text_is_of_one_type :
    ¬ ∀ file source manifest context, Manifest.read file source = .ok manifest →
      (({} : Pipeline).run manifest).result = .ok context →
        ∀ entry ∈ context.model.topLevel, ∀ left ∈ typesInFile context.model entry.1,
          ∀ right ∈ typesInFile context.model entry.1, left ≠ right →
            typeText entry.2.package left ≠ typeText entry.2.package right := by
  intro always
  have accepted :
      Manifest.read "fluent.toml" parameterSource = .ok (manifestIn parameterSource) := by
    decide +kernel
  have succeeds : (({} : Pipeline).run (manifestIn parameterSource)).failure = none := by
    decide +kernel
  have mentions : let model := (({} : Pipeline).run (manifestIn parameterSource)).context.model
      ∃ entry ∈ model.topLevel, TypeRef.var "P" ∈ typesInFile model entry.1 ∧
        TypeRef.named "P" ∈ typesInFile model entry.1 ∧
        typeText entry.2.package (.var "P") = typeText entry.2.package (.named "P") := by
    decide +kernel
  obtain ⟨entry, file, one, two, same⟩ := mentions
  exact always _ _ _ _ accepted (result_of_failure_eq_none succeeds) entry file _ one _ two
    (by decide) same

end Run

end BuilderSynthesis
