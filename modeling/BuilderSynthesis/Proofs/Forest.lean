import BuilderSynthesis.Proofs.Appending
import BuilderSynthesis.Proofs.Coherence
import BuilderSynthesis.Proofs.Marking
import BuilderSynthesis.Proofs.Rendering
import Mathlib.Data.List.Count
import Mathlib.Data.List.Flatten
import Mathlib.Data.List.Perm.Basic

/-!
Contract: the files of a model, taken together, show every type once.

A file is chosen for a type that has no outer type, and what else it shows is found along the
lists of nested types. Both are views of one forest, as a nested type is listed once, by its outer
type. Types come after those that they are nested in, so the forest is finite.

What a file shows is written out line by line, each member and each type where it stands, and the
renderer is proved to produce just these lines.

Owns: `Outline`, what a file shows; `Outline.written`, its lines; `Outline.Fits`, that it is what a
model declares; and `every_type_written_once`.
-/

namespace BuilderSynthesis.Java

open BuilderSynthesis.Code (Declaration Model TypeId)
open BuilderSynthesis.Files (TextFile)
open BuilderSynthesis.Layout (Fragment docLines inBlock writtenAll)
open scoped List

/-! ### Lines of members -/

def writtenDoc : Option String → List String
  | some text => docLines text
  | none => []

def writtenField (package : Option String) (field : Code.Field) : List String :=
  writtenDoc field.doc ++ [(fieldPieces package field).text]

/-- The lines of a method: its documentation, its annotations, the line that opens it, each
statement of its body and the line that closes it. -/
def writtenMethod (package : Option String) (method : Code.Method) : List String :=
  writtenDoc method.doc ++ method.annotations.map (fun annotation => "@" ++ annotation) ++
    (methodPieces package method).text ::
      method.body.map (fun statement => inBlock (statementPieces package statement).text) ++
    ["\x7d"]

/-- The lines of all fields of a type, if there are any, and those of each method. -/
def writtenMembers (package : Option String) (declaration : Declaration) : List (List String) :=
  (if declaration.fields = [] then [] else [declaration.fields.flatMap (writtenField package)]) ++
    declaration.methods.map (writtenMethod package)

/-! ### Outlines -/

/-- A type with the types that are written inside it. -/
inductive Outline where
  | type (id : TypeId) (declaration : Declaration) (nested : List Outline)

namespace Outline

def entry : Outline → TypeId × Declaration
  | type id declaration _ => (id, declaration)

mutual

/-- All types, each before those inside it. -/
def types : Outline → List (TypeId × Declaration)
  | type id declaration nested => (id, declaration) :: typesOfAll nested

def typesOfAll : List Outline → List (TypeId × Declaration)
  | [] => []
  | first :: rest => first.types ++ typesOfAll rest

end

mutual

/-- The lines of a type: its documentation, the line that opens it, its fields, its methods and the
types nested in it, with an empty line between neighbours, and the line that closes it. -/
def written (model : Model) (package : Option String) : Outline → List String
  | type _ declaration nested =>
      writtenDoc declaration.header.doc ++
        (classPieces model package declaration).text ::
          (List.intercalate [""]
            (writtenMembers package declaration ++ writtenEach model package nested)).map inBlock ++
        ["\x7d"]

def writtenEach (model : Model) (package : Option String) : List Outline → List (List String)
  | [] => []
  | first :: rest => first.written model package :: writtenEach model package rest

end

/-- The lines before a class: its package and the imports for all types that the file shows. -/
def writtenPreamble (outline : Outline) : List String :=
  outline.entry.2.package.elim [] (fun name => ["package " ++ name ++ ";", ""]) ++
    (if imports (outline.types.map Prod.snd) = [] then
      []
    else
      (imports (outline.types.map Prod.snd)).map (fun name => "import " ++ name ++ ";") ++ [""])

def file (model : Model) (outline : Outline) : TextFile :=
  ⟨filePath outline.entry.2.qualifiedName,
    String.join ((outline.writtenPreamble ++
      outline.written model outline.entry.2.package).map (fun line => line ++ "\n"))⟩

/-- Inside each type are just the types that it lists, in the order in which it lists them. -/
inductive Fits (model : Model) : Outline → Prop where
  | type {id : TypeId} {declaration : Declaration} {nested : List Outline}
      (found : model.get? id = some declaration)
      (listed : nested.map (fun outline => outline.entry.1) = declaration.nested.map Prod.snd)
      (inside : ∀ outline ∈ nested, Fits model outline) : Fits model (type id declaration nested)

theorem types_type (id : TypeId) (declaration : Declaration) (nested : List Outline) :
    (type id declaration nested).types = (id, declaration) :: nested.flatMap types := by
  rw [types]
  congr 1
  induction nested with
  | nil => rfl
  | cons first rest inductionHypothesis =>
      rw [typesOfAll, inductionHypothesis, List.flatMap_cons]

end Outline

theorem separated_eq_intercalate (groups : List (List Fragment)) :
    separated groups = List.intercalate [.blank] groups := by
  induction groups with
  | nil => rfl
  | cons first rest inductionHypothesis =>
      cases rest with
      | nil => simp [separated, List.intercalate]
      | cons second others =>
          rw [separated, inductionHypothesis, List.intercalate_cons_cons, List.append_assoc,
            List.singleton_append]

/-! ### What is laid out for an outline -/

theorem writtenAll_docFragments (doc : Option String) :
    writtenAll (docFragments doc) = writtenDoc doc := by
  cases doc with
  | none => rfl
  | some text => exact List.append_nil _

theorem writtenAll_fieldFragments (package : Option String) (field : Code.Field) :
    writtenAll (fieldFragments package field) = writtenField package field := by
  unfold fieldFragments writtenField
  rw [Layout.writtenAll_append, writtenAll_docFragments, text_fieldPieces]
  rfl

theorem writtenAll_methodFragments (package : Option String) (method : Code.Method) :
    writtenAll (methodFragments package method) = writtenMethod package method := by
  have body : (method.body.map (statementText package)).map inBlock =
      method.body.map (fun statement => inBlock (statementPieces package statement).text) := by
    rw [List.map_map]
    exact List.map_congr_left fun statement _ =>
      congrArg inBlock (text_statementPieces package statement).symm
  unfold methodFragments writtenMethod
  simp [writtenAll_docFragments, writtenAll, Fragment.written, body, text_methodPieces]

theorem writtenAll_intercalate_blank (groups : List (List Fragment)) :
    writtenAll (List.intercalate [.blank] groups) =
      List.intercalate [""] (groups.map writtenAll) :=
  Lists.intercalate_of_append rfl Layout.writtenAll_append [.blank] groups

namespace Outline

def memberGroups (package : Option String) (declaration : Declaration) : List (List Fragment) :=
  (if declaration.fields.isEmpty then
    []
  else
    [declaration.fields.flatMap (fieldFragments package)]) ++
    declaration.methods.map (methodFragments package)

mutual

/-- A block that holds fields, then methods, then the blocks of nested types, with a blank line
between groups. -/
def fragments (model : Model) (package : Option String) : Outline → List Fragment
  | type _ declaration nested =>
      docFragments declaration.header.doc ++
        [.block (classHeader model package declaration)
          (List.intercalate [.blank]
            (memberGroups package declaration ++ fragmentsOfEach model package nested))
          (some "\x7d")]

def fragmentsOfEach (model : Model) (package : Option String) : List Outline →
    List (List Fragment)
  | [] => []
  | first :: rest => first.fragments model package :: fragmentsOfEach model package rest

end

/-- What comes before a class. -/
def preamble (outline : Outline) : List Fragment :=
  outline.entry.2.package.elim [] (fun name => [.line ("package " ++ name ++ ";"), .blank]) ++
    (if (imports (outline.types.map Prod.snd)).isEmpty then
      []
    else
      (imports (outline.types.map Prod.snd)).map
        (fun name => Fragment.line ("import " ++ name ++ ";")) ++ [.blank])

theorem fragmentsOfEach_eq (model : Model) (package : Option String) (nested : List Outline) :
    fragmentsOfEach model package nested = nested.map (fragments model package) := by
  induction nested with
  | nil => rfl
  | cons first rest inductionHypothesis =>
      rw [fragmentsOfEach, inductionHypothesis, List.map_cons]

theorem map_writtenAll_memberGroups (package : Option String) (declaration : Declaration) :
    (memberGroups package declaration).map writtenAll = writtenMembers package declaration := by
  have fields : writtenAll (declaration.fields.flatMap (fieldFragments package)) =
      declaration.fields.flatMap (writtenField package) :=
    (Lists.flatMap_of_append rfl Layout.writtenAll_append _).trans
      (List.flatMap_congr fun field _ => writtenAll_fieldFragments package field)
  have methods : (declaration.methods.map (methodFragments package)).map writtenAll =
      declaration.methods.map (writtenMethod package) := by
    rw [List.map_map]
    exact List.map_congr_left fun method _ => writtenAll_methodFragments package method
  unfold memberGroups writtenMembers
  rw [List.map_append, methods]
  by_cases none' : declaration.fields = []
  · rw [if_pos none', if_pos (List.isEmpty_iff.2 none')]
    rfl
  · rw [if_neg none', if_neg (mt List.isEmpty_iff.1 none'), List.map_singleton, fields]

mutual

/-- What is laid out for an outline are its lines. -/
theorem writtenAll_fragments (model : Model) (package : Option String) (outline : Outline) :
    writtenAll (outline.fragments model package) = outline.written model package := by
  cases outline with
  | type id declaration nested =>
      have inner := map_writtenAll_fragmentsOfEach model package nested
      rw [fragments, written, Layout.writtenAll_append, writtenAll_docFragments, writtenAll,
        Fragment.written, writtenAll_intercalate_blank, List.map_append,
        map_writtenAll_memberGroups, inner, text_classPieces]
      simp [writtenAll]

theorem map_writtenAll_fragmentsOfEach (model : Model) (package : Option String)
    (nested : List Outline) :
    (fragmentsOfEach model package nested).map writtenAll = writtenEach model package nested := by
  cases nested with
  | nil => rfl
  | cons first rest =>
      rw [fragmentsOfEach, writtenEach, List.map_cons, writtenAll_fragments model package first,
        map_writtenAll_fragmentsOfEach model package rest]

end

theorem writtenAll_preamble (outline : Outline) :
    writtenAll outline.preamble = outline.writtenPreamble := by
  have line : ∀ text, writtenAll [.line text, .blank] = [text, ""] := fun _ => rfl
  unfold preamble writtenPreamble
  rw [Layout.writtenAll_append]
  congr 1
  · cases outline.entry.2.package with
    | none => rfl
    | some name => exact line _
  · by_cases none' : imports (outline.types.map Prod.snd) = []
    · rw [if_pos none', if_pos (List.isEmpty_iff.2 none')]
      rfl
    · rw [if_neg none', if_neg (mt List.isEmpty_iff.1 none'), Layout.writtenAll_append,
        Layout.writtenAll_map_line]
      rfl

end Outline

/-! ### What an outline shows -/

/-- What an outline shows is declared. -/
theorem Outline.Fits.get?_of_mem {model : Model} {outline : Outline} (fits : outline.Fits model)
    {entry : TypeId × Declaration} (member : entry ∈ outline.types) :
    model.get? entry.1 = some entry.2 := by
  induction fits with
  | type found listed inside inductionHypothesis =>
      rw [Outline.types_type, List.mem_cons] at member
      rcases member with rfl | within
      · exact found
      · obtain ⟨outline, isInside, shown⟩ := List.mem_flatMap.1 within
        exact inductionHypothesis outline isInside shown

theorem get?_of_mem_forest {model : Model} {forest : List Outline}
    (fits : ∀ outline ∈ forest, outline.Fits model) {entry : TypeId × Declaration}
    (member : entry ∈ forest.flatMap Outline.types) : model.get? entry.1 = some entry.2 := by
  obtain ⟨outline, there, inside⟩ := List.mem_flatMap.1 member
  exact (fits outline there).get?_of_mem inside

/-- The types that a type lists. -/
def listedBy (entry : TypeId × Declaration) : List TypeId :=
  entry.2.nested.map Prod.snd

/-- If each of several outlines shows its outermost type and what its types list, then together
they show their outermost types and what all types list. -/
theorem flatMap_types_perm {forest : List Outline}
    (each : ∀ outline ∈ forest, (outline.types.map Prod.fst).Perm
      (outline.entry.1 :: outline.types.flatMap listedBy)) :
    ((forest.flatMap Outline.types).map Prod.fst).Perm
      (forest.map (fun outline => outline.entry.1) ++
        (forest.flatMap Outline.types).flatMap listedBy) :=
  calc (forest.flatMap Outline.types).map Prod.fst
    _ = forest.flatMap (fun outline => outline.types.map Prod.fst) := List.map_flatMap ..
    _ ~ forest.flatMap (fun outline => [outline.entry.1] ++ outline.types.flatMap listedBy) :=
      List.Perm.flatMap_left forest each
    _ ~ forest.flatMap (fun outline => [outline.entry.1]) ++
          forest.flatMap (fun outline => outline.types.flatMap listedBy) :=
      (List.flatMap_append_perm forest _ _).symm
    _ = _ := by rw [← List.map_eq_flatMap, List.flatMap_assoc]

/-- Apart from the outermost type, an outline shows what its types list. -/
theorem Outline.Fits.types_perm {model : Model} {outline : Outline} (fits : outline.Fits model) :
    (outline.types.map Prod.fst).Perm (outline.entry.1 :: outline.types.flatMap listedBy) := by
  induction fits with
  | type found listed inside inductionHypothesis =>
      have within := flatMap_types_perm inductionHypothesis
      rw [listed] at within
      rw [Outline.types_type, List.map_cons, List.flatMap_cons]
      exact within.cons _

/-! ### Outlines of declared types -/

section

variable {model : Model} (coherent : model.Coherent)

include coherent

/-- What is nested in a type was declared after it. -/
theorem lt_nested {id nested : Nat} {declaration : Declaration}
    (found : model.get? id = some declaration)
    (listed : nested ∈ declaration.nested.map Prod.snd) : id < nested ∧ nested < model.size := by
  obtain ⟨entry, member, rfl⟩ := List.mem_map.1 listed
  obtain ⟨inner, there, inside⟩ := coherent.nested found entry member
  exact ⟨(coherent.outer there inside.outer).1, Model.get?_eq_some_lt there⟩

/-- Every type has an outline. -/
theorem exists_fits {id : TypeId} {declaration : Declaration}
    (found : model.get? id = some declaration) :
    ∃ outline : Outline, outline.entry = (id, declaration) ∧ outline.Fits model := by
  have each : ∀ nested ∈ declaration.nested.map Prod.snd,
      ∃ outline : Outline, outline.entry.1 = nested ∧ outline.Fits model := by
    intro nested listed
    obtain ⟨below, known⟩ := lt_nested coherent found listed
    obtain ⟨inner, there⟩ := Model.exists_get? known
    obtain ⟨outline, same, fits⟩ := exists_fits there
    exact ⟨outline, congrArg Prod.fst same, fits⟩
  obtain ⟨nested, ids, fits⟩ := Lists.exists_map_eq each
  exact ⟨.type id declaration nested, rfl, .type found ids fits⟩
termination_by model.size - id
decreasing_by omega

/-- What is true of an outline at some number of levels if it is true, one level less, of what is
inside, holds from the number of levels on that no type can exceed. -/
theorem Outline.Fits.of_levels (holds : Nat → Outline → Prop)
    (step : ∀ levels id declaration nested, model.get? id = some declaration →
      nested.map (fun outline => outline.entry.1) = declaration.nested.map Prod.snd →
      (∀ outline ∈ nested, holds levels outline) →
      holds (levels + 1) (.type id declaration nested))
    {outline : Outline} (fits : outline.Fits model) {levels : Nat}
    (enough : model.size ≤ levels + outline.entry.1) : holds levels outline := by
  induction fits generalizing levels with
  | type found listed inside inductionHypothesis =>
      rename_i id declaration nested
      have known := Model.get?_eq_some_lt found
      cases levels with
      | zero => exact absurd known (Nat.not_lt.2 (Nat.zero_add id ▸ enough))
      | succ levels =>
          refine step levels id declaration nested found listed fun outline member => ?_
          have isListed : outline.entry.1 ∈ declaration.nested.map Prod.snd :=
            listed ▸ List.mem_map.2 ⟨outline, member, rfl⟩
          -- The position of a nested type makes up for the level that is gone.
          have below := (lt_nested coherent found isListed).1
          apply inductionHypothesis outline member
          have room : model.size ≤ levels + 1 + id := enough
          omega

/-- A class is written as its outline says. -/
theorem Outline.Fits.classFragments_eq {outline : Outline} (fits : outline.Fits model)
    (package : Option String) {levels : Nat} (enough : model.size ≤ levels + outline.entry.1) :
    classFragments model package levels outline.entry.1 = outline.fragments model package := by
  refine Fits.of_levels coherent (fun levels outline =>
    classFragments model package levels outline.entry.1 = outline.fragments model package)
    ?_ fits enough
  intro levels id declaration nested found listed inside
  have blocks : declaration.nested.map (fun entry => classFragments model package levels entry.2) =
      nested.map (Outline.fragments model package) :=
    calc declaration.nested.map (fun entry => classFragments model package levels entry.2)
      _ = (declaration.nested.map Prod.snd).map (classFragments model package levels) := by
        rw [List.map_map]
        rfl
      _ = nested.map (fun outline => classFragments model package levels outline.entry.1) := by
        rw [← listed, List.map_map]
        rfl
      _ = nested.map (Outline.fragments model package) := List.map_congr_left inside
  simp only [classFragments, Outline.entry, found, separated_eq_intercalate, Outline.fragments,
    Outline.fragmentsOfEach_eq, Outline.memberGroups, blocks]

/-- The imports of a file are for the types of its outline. -/
theorem Outline.Fits.nestedTypes_eq {outline : Outline} (fits : outline.Fits model)
    {levels : Nat} (enough : model.size ≤ levels + outline.entry.1) :
    nestedTypes model levels outline.entry.1 = outline.types.map Prod.snd := by
  refine Fits.of_levels coherent (fun levels outline =>
    nestedTypes model levels outline.entry.1 = outline.types.map Prod.snd) ?_ fits enough
  intro levels id declaration nested found listed inside
  have types : declaration.nested.flatMap (fun entry => nestedTypes model levels entry.2) =
      (nested.flatMap Outline.types).map Prod.snd :=
    calc declaration.nested.flatMap (fun entry => nestedTypes model levels entry.2)
      _ = (declaration.nested.map Prod.snd).flatMap (nestedTypes model levels) := by
        rw [List.flatMap_map]
      _ = nested.flatMap (fun outline => nestedTypes model levels outline.entry.1) := by
        rw [← listed, List.flatMap_map]
      _ = nested.flatMap (fun outline => outline.types.map Prod.snd) := List.flatMap_congr inside
      _ = (nested.flatMap Outline.types).map Prod.snd := (List.map_flatMap ..).symm
  simp only [nestedTypes, Outline.entry, found, Outline.types_type, List.map_cons, types]

/-- No type is too deep for the number of types. -/
theorem classFragments_of_enough (package : Option String) {levels : Nat}
    (enough : model.size ≤ levels) (id : TypeId) :
    classFragments model package levels id = classFragments model package model.size id := by
  cases found : model.get? id with
  | none =>
      have nothing : ∀ levels, classFragments model package levels id = [] := by
        intro levels
        cases levels with
        | zero => rfl
        | succ levels => rw [classFragments, found]
      rw [nothing, nothing]
  | some declaration =>
      obtain ⟨outline, same, fits⟩ := exists_fits coherent found
      obtain rfl : outline.entry.1 = id := congrArg Prod.fst same
      rw [fits.classFragments_eq coherent package (Nat.le_add_right_of_le enough),
        fits.classFragments_eq coherent package (Nat.le_add_right _ _)]

/-- The file of a type is written line by line as its outline says. -/
theorem Outline.Fits.file_eq {outline : Outline} (fits : outline.Fits model) :
    sourceFile model outline.entry.1 = outline.file model := by
  have enough : model.size ≤ model.size + outline.entry.1 := Nat.le_add_right _ _
  have found : model.get? outline.entry.1 = some outline.entry.2 := by
    cases fits with
    | type found _ _ => exact found
  have laid : fileText model outline.entry.1 =
      Layout.render (outline.preamble ++ outline.fragments model outline.entry.2.package) := by
    unfold fileText preamble
    simp only [found, Option.bind_some, fits.nestedTypes_eq coherent enough,
      fits.classFragments_eq coherent _ enough]
    cases outline.entry.2.package <;> rfl
  unfold sourceFile Outline.file Model.qualifiedName
  rw [laid, Layout.render_eq_join, Layout.writtenAll_append, writtenAll_preamble,
    writtenAll_fragments]
  simp only [found, sourcePath_eq]

/-! ### Every type once -/

/-- Only its outer type lists a nested type. -/
theorem outer_of_listed {id : TypeId} {declaration : Declaration}
    (found : model.get? id = some declaration) {entry : TypeId × Declaration}
    (there : model.get? entry.1 = some entry.2) (listed : id ∈ listedBy entry) :
    declaration.outer = some entry.1 := by
  obtain ⟨item, member, rfl⟩ := List.mem_map.1 listed
  obtain ⟨inner, here, inside⟩ := coherent.nested there item member
  rw [found, Option.some.injEq] at here
  rw [here]
  exact inside.outer

/-- Each type of a model is in one place of a forest that begins with the types in no other. -/
theorem count_types {forest : List Outline} (fits : ∀ outline ∈ forest, outline.Fits model)
    (roots : forest.map Outline.entry = model.topLevel) {id : Nat} (known : id < model.size) :
    ((forest.flatMap Outline.types).map Prod.fst).count id = 1 := by
  have tops : forest.map (fun outline => outline.entry.1) = model.topLevel.map Prod.fst := by
    rw [← roots, List.map_map]
    rfl
  -- By induction on the position: an outer type comes before what is nested in it.
  induction id using Nat.strong_induction_on with
  | _ id inductionHypothesis =>
      obtain ⟨declaration, found⟩ := Model.exists_get? known
      rw [(flatMap_types_perm fun outline member => (fits outline member).types_perm).count_eq,
        List.count_append, tops]
      cases outer : declaration.outer with
      | none =>
          have root : id ∈ model.topLevel.map Prod.fst :=
            List.mem_map.2 ⟨(id, declaration), model.mem_topLevel_iff.2 ⟨found, outer⟩, rfl⟩
          have unlisted : id ∉ (forest.flatMap Outline.types).flatMap listedBy := by
            intro member
            obtain ⟨entry, there, listed⟩ := List.mem_flatMap.1 member
            rw [outer_of_listed coherent found (get?_of_mem_forest fits there) listed] at outer
            cases outer
          rw [List.count_eq_one_of_mem model.nodup_fst_topLevel root,
            List.count_eq_zero_of_not_mem unlisted]
      | some above =>
          obtain ⟨below, parent, there, once⟩ := coherent.count_listed found outer
          have inner : id ∉ model.topLevel.map Prod.fst := by
            intro member
            obtain ⟨⟨_, other⟩, root, rfl⟩ := List.mem_map.1 member
            obtain ⟨here, outermost⟩ := model.mem_topLevel_iff.1 root
            rw [found, Option.some.injEq] at here
            rw [← here, outer] at outermost
            cases outermost
          have byParent : ((forest.flatMap Outline.types).flatMap listedBy).count id =
              ((forest.flatMap Outline.types).map Prod.fst).count above := by
            apply Lists.count_flatMap_eq_count_map
            · intro entry member same
              have parentToo := get?_of_mem_forest fits member
              rw [same, there, Option.some.injEq] at parentToo
              rw [listedBy, ← parentToo]
              exact once
            · intro entry member differs listed
              rw [outer_of_listed coherent found (get?_of_mem_forest fits member) listed] at outer
              exact differs (Option.some.inj outer)
          rw [List.count_eq_zero_of_not_mem inner, byParent,
            inductionHypothesis above below (Nat.lt_trans below known)]

/-- A forest that begins with the types in no other has all types, once each. -/
theorem types_perm_entries {forest : List Outline}
    (fits : ∀ outline ∈ forest, outline.Fits model)
    (roots : forest.map Outline.entry = model.topLevel) :
    (forest.flatMap Outline.types).Perm model.entries := by
  have ids : ((forest.flatMap Outline.types).map Prod.fst).Nodup := by
    rw [List.nodup_iff_count_le_one]
    intro id
    by_cases member : id ∈ (forest.flatMap Outline.types).map Prod.fst
    · obtain ⟨entry, shown, rfl⟩ := List.mem_map.1 member
      have known := Model.get?_eq_some_lt (get?_of_mem_forest fits shown)
      exact (count_types coherent fits roots known).le
    · rw [List.count_eq_zero_of_not_mem member]
      exact Nat.zero_le 1
  refine (List.perm_ext_iff_of_nodup (ids.of_map _) (model.nodup_fst_entries.of_map _)).2 ?_
  rintro ⟨id, declaration⟩
  rw [model.mem_entries_iff]
  constructor
  · exact fun shown => get?_of_mem_forest fits shown
  · intro found
    have once := count_types coherent fits roots (Model.get?_eq_some_lt found)
    obtain ⟨entry, shown, rfl⟩ := List.mem_map.1
      (List.count_pos_iff.1 (once ▸ Nat.one_pos))
    have here := get?_of_mem_forest fits shown
    rw [found, Option.some.injEq] at here
    rw [here]
    exact shown

end

/-- The files of a model show a forest: at its roots the types in no other, in the order of their
declaration, and all types once, each with its own members and with what is nested in it. -/
structure Shows (model : Model) (forest : List Outline) : Prop where
  files : sourceFiles model = forest.map (Outline.file model)
  roots : forest.map Outline.entry =
    (model.types.zipIdx.map Prod.swap).filter (fun entry => entry.2.outer.isNone)
  fits : ∀ outline ∈ forest, outline.Fits model
  once : (forest.flatMap Outline.types).Perm model.entries
  /-- No member is listed twice. -/
  members : ∀ entry ∈ model.entries, entry.2.DistinctMembers

theorem Shows.map_entry {model : Model} {forest : List Outline} (shows : Shows model forest) :
    forest.map Outline.entry = model.topLevel :=
  shows.roots

theorem exists_shows {model : Model} (coherent : model.Coherent) :
    ∃ forest, Shows model forest := by
  have each : ∀ entry ∈ model.topLevel,
      ∃ outline : Outline, outline.entry = entry ∧ outline.Fits model :=
    fun entry member => exists_fits coherent (model.mem_topLevel_iff.1 member).1
  obtain ⟨forest, roots, fits⟩ := Lists.exists_map_eq each
  refine ⟨forest, ?_, roots, fits, types_perm_entries coherent fits roots, ?_⟩
  · unfold sourceFiles
    rw [← roots, List.map_map]
    exact List.map_congr_left fun outline member => (fits outline member).file_eq coherent
  · intro entry member
    exact coherent.members ((model.mem_entries_iff _ _).1 member)

/-- Every type of a model is written once, inside its outer type or in a file of its own, and no
nesting is too deep to be written. -/
theorem every_type_written_once {model : Model} (reached : model.Reached) :
    (∀ id declaration, model.get? id = some declaration →
      ∀ nested ∈ declaration.nested.map Prod.snd, id < nested ∧ nested < model.size) ∧
    (∀ package levels id, model.size ≤ levels →
      classFragments model package levels id = classFragments model package model.size id) ∧
    ∃ forest, Shows model forest := by
  have coherent := (Model.coherent_empty.steps reached).1
  exact ⟨fun id declaration found nested => lt_nested coherent found,
    fun package levels id enough => classFragments_of_enough coherent package enough id,
    exists_shows coherent⟩

/-- Two classes, of which one has a type inside a type inside it, and one more type inside it that
is declared last. -/
def sheltering : List Code.Request :=
  [.topLevel "zoo.Pen" { name := "Pen" }, .nested 0 { name := "Gate" },
    .topLevel "zoo.Barn" { name := "Barn" }, .nested 1 { name := "Bolt" },
    .field 1 { name := "open", type := .primitive .bool }, .method 1 { name := "close" },
    .nested 0 { name := "Roof" }]

theorem sheltering_written_once :
    Model.Reached (sheltering.foldl Model.serve {}) ∧
      (∀ package levels id, 5 ≤ levels →
        classFragments (sheltering.foldl Model.serve {}) package levels id =
          classFragments (sheltering.foldl Model.serve {}) package 5 id) ∧
      ∃ forest, Shows (sheltering.foldl Model.serve {}) forest ∧
        forest.map (fun outline => outline.entry.2.qualifiedName) = ["zoo.Pen", "zoo.Barn"] ∧
        (forest.flatMap Outline.types).length = 5 := by
  have reached : Model.Reached (sheltering.foldl Model.serve {}) :=
    Model.steps_foldl_serve (by decide)
  obtain ⟨-, enough, forest, written⟩ := every_type_written_once reached
  refine ⟨reached, enough, forest, written, ?_, written.once.length_eq⟩
  calc forest.map (fun outline => outline.entry.2.qualifiedName)
    _ = (forest.map Outline.entry).map (fun entry => entry.2.qualifiedName) := by
      rw [List.map_map]
      rfl
    _ = ["zoo.Pen", "zoo.Barn"] := by
      rw [written.roots]
      decide +kernel

end BuilderSynthesis.Java
