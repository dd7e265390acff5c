import BuilderSynthesis.Proofs.Appending
import BuilderSynthesis.Proofs.Enclosing
import BuilderSynthesis.Proofs.Forest
import BuilderSynthesis.Proofs.Marking
import BuilderSynthesis.Proofs.Provenance

/-!
Contract: whether a file imports the classes that it mentions.

The lines of a file that are in no comment are written out of pieces, so it is clear where they
mention a class of `java.util`. What is imported depends on the types of members and on the bodies
of methods. It does not depend on what fields begin with, nor on the types of new objects. So a file
has all imports that it needs, and no others, as long as what it mentions there is also mentioned
elsewhere. Files of a run mention nothing there.

Owns: `Java.fileLines`, `Java.Sees`, `Java.Overlooks` and `Java.imports_match_unless_overlooked`.
-/

namespace BuilderSynthesis

namespace Layout

/-! ### Lines in no comment -/

def codeLines (stretches : List Stretch) : List String :=
  stretches.flatMap fun stretch => if stretch.isComment then [] else stretch.lines

def codeOf (level : Nat) (fragments : List Fragment) : List String :=
  codeLines (stretchesOfAll level fragments)

variable {level : Nat}

@[simp]
theorem codeOf_nil : codeOf level [] = [] := rfl

@[simp]
theorem codeOf_append (first second : List Fragment) :
    codeOf level (first ++ second) = codeOf level first ++ codeOf level second := by
  unfold codeOf codeLines
  rw [stretchesOfAll_append, List.flatMap_append]

theorem codeOf_cons (first : Fragment) (rest : List Fragment) :
    codeOf level (first :: rest) = codeOf level [first] ++ codeOf level rest :=
  codeOf_append [first] rest

@[simp]
theorem codeOf_line (text : String) : codeOf level [.line text] = [text] := rfl

@[simp]
theorem codeOf_blank : codeOf level [.blank] = [""] := rfl

@[simp]
theorem codeOf_doc (text : String) : codeOf level [.doc text] = [] := rfl

@[simp]
theorem codeOf_block (header : String) (body : List Fragment) (close : String) :
    codeOf level [.block header body (some close)] =
      header :: codeOf (level + 1) body ++ [close] := by
  simp [codeOf, codeLines, stretchesOfAll, Fragment.stretches]

@[simp]
theorem codeOf_map_line {items : List α} (text : α → String) :
    codeOf level (items.map fun item => Fragment.line (text item)) = items.map text := by
  induction items with
  | nil => rfl
  | cons item rest inductionHypothesis =>
      rw [List.map_cons, codeOf_cons, inductionHypothesis, codeOf_line, List.map_cons,
        List.singleton_append]

theorem codeOf_flatMap {items : List α} (fragments : α → List Fragment) :
    codeOf level (items.flatMap fragments) =
      items.flatMap fun item => codeOf level (fragments item) :=
  Lists.flatMap_of_append rfl codeOf_append fragments

/-- Groups of fragments keep the blank lines between them. -/
theorem codeOf_intercalate_blank (groups : List (List Fragment)) :
    codeOf level (List.intercalate [.blank] groups) =
      List.intercalate [""] (groups.map (codeOf level)) :=
  Lists.intercalate_of_append rfl codeOf_append [.blank] groups

end Layout

namespace Java

open Code (Declaration Expression Model TypeId)
open Layout (Fragment codeLines codeOf codeOf_flatMap codeOf_intercalate_blank)

/-! ### Lines of files -/

/-- The lines of a method. -/
def methodLines (package : Option String) (method : Code.Method) : List Line :=
  method.annotations.map (fun annotation => [.plain ("@" ++ annotation)]) ++
    methodPieces package method :: method.body.map (statementPieces package) ++ [[.plain "\x7d"]]

def memberLines (package : Option String) (declaration : Declaration) : List (List Line) :=
  (if declaration.fields.isEmpty then [] else [declaration.fields.map (fieldPieces package)]) ++
    declaration.methods.map (methodLines package)

def classLines (model : Model) (package : Option String) : Nat → TypeId → List Line
  | 0, _ => []
  | levels + 1, id =>
      match model.get? id with
      | none => []
      | some declaration =>
          classPieces model package declaration ::
            List.intercalate [[]] (memberLines package declaration ++
              declaration.nested.map (fun entry => classLines model package levels entry.2)) ++
            [[.plain "\x7d"]]

def fileImports (model : Model) (id : TypeId) : List String :=
  imports (nestedTypes model model.size id)

def fileLines (model : Model) (id : TypeId) : List Line :=
  let package := (model.get? id).bind Declaration.package
  (match package with
    | some name => [[.plain ("package " ++ name ++ ";")], []]
    | none => []) ++
    (if (fileImports model id).isEmpty then
      []
    else
      (fileImports model id).map (fun name => [.plain ("import " ++ name ++ ";")]) ++ [[]]) ++
    classLines model package model.size id

section

variable (package : Option String) {level : Nat}

@[simp]
theorem codeOf_docFragments (doc : Option String) : codeOf level (docFragments doc) = [] := by
  cases doc <;> rfl

theorem codeOf_fieldFragments (fields : List Code.Field) :
    codeOf level (fields.flatMap (fieldFragments package)) =
      (fields.map (fieldPieces package)).map Line.text := by
  rw [codeOf_flatMap, List.map_map, ← List.flatMap_pure_eq_map]
  refine List.flatMap_congr fun field _ => ?_
  simp [fieldFragments, text_fieldPieces]

theorem codeOf_methodFragments (method : Code.Method) :
    codeOf level (methodFragments package method) = (methodLines package method).map Line.text := by
  have body : (method.body.map (statementPieces package)).map Line.text =
      method.body.map (statementText package) :=
    Line.map_text_map (text_statementPieces package)
  simp [methodFragments, methodLines, body, text_methodPieces, Function.comp_def]

/-- The lines of a class are what is laid out for it. -/
theorem codeOf_classFragments (model : Model) (levels : Nat) (id : TypeId) :
    codeOf level (classFragments model package levels id) =
      (classLines model package levels id).map Line.text := by
  -- By induction on the levels; the body of a class is one level deeper than its header.
  induction levels generalizing id level with
  | zero => rfl
  | succ levels inductionHypothesis =>
      unfold classFragments classLines
      cases model.get? id with
      | none => rfl
      | some declaration =>
          have members : ((if declaration.fields.isEmpty then [] else
                [declaration.fields.flatMap (fieldFragments package)]) ++
              declaration.methods.map (methodFragments package)).map (codeOf (level + 1)) =
              (memberLines package declaration).map (List.map Line.text) := by
            unfold memberLines
            rw [List.map_append, List.map_append, List.map_map, List.map_map]
            congr 1
            · split
              · rfl
              · simp [codeOf_fieldFragments]
            · exact List.map_congr_left fun method _ => codeOf_methodFragments package method
          have nested : (declaration.nested.map fun entry =>
                classFragments model package levels entry.2).map (codeOf (level + 1)) =
              (declaration.nested.map fun entry =>
                classLines model package levels entry.2).map (List.map Line.text) := by
            rw [List.map_map, List.map_map]
            exact List.map_congr_left fun entry _ => inductionHypothesis entry.2
          have text : ∀ groups : List (List Line), (List.intercalate [[]] groups).map Line.text =
              List.intercalate [""] (groups.map (List.map Line.text)) :=
            Lists.intercalate_of_append rfl (fun _ _ => List.map_append) [[]]
          dsimp only
          rw [separated_eq_intercalate]
          simp only [Layout.codeOf_append, codeOf_docFragments, List.nil_append,
            Layout.codeOf_block, codeOf_intercalate_blank, List.map_append, List.map_cons,
            List.map_nil, text, text_classPieces, ← members, ← nested]
          simp

end

/-- The lines of a file that are in no comment. -/
theorem codeLines_fileStretches (model : Model) (id : TypeId) :
    codeLines (fileStretches model id) = (fileLines model id).map Line.text := by
  change codeOf 0 (fileFragments model id) = _
  unfold fileFragments fileLines fileImports
  dsimp only
  rw [Layout.codeOf_append, Layout.codeOf_append, codeOf_classFragments, List.map_append,
    List.map_append]
  congr 2
  · cases (model.get? id).bind Declaration.package with
    | none => rfl
    | some name => rw [Layout.codeOf_cons]; simp
  · split <;> simp [Function.comp_def]

/-! ### Marks of files -/

/-- What the initializers of fields are made of. -/
def initializers (declaration : Declaration) : List Expression :=
  declaration.fields.flatMap (fun field => field.initializer.toList.flatMap Expression.within)

/-- A type has a mark in the types of its members, in the bodies of its methods or in the
initializers of its fields. -/
def Writes (mark : Mark) (declaration : Declaration) : Prop :=
  (mark = .listType ∧ ∃ type ∈ mentionedTypes declaration, mentionsList type = true) ∨
    ∃ part ∈ bodyExpressions declaration ++ initializers declaration, makes mark part = true

/-- What is imported for: lists in the types of members, and lists that the bodies of methods copy
or make views of. -/
def Sees (mark : Mark) (declaration : Declaration) : Prop :=
  (mark = .listType ∧ ∃ type ∈ mentionedTypes declaration, mentionsList type = true) ∨
    mark ≠ .listType ∧ ∃ part ∈ bodyExpressions declaration, makes mark part = true

/-- What is not imported for: everything in the initializers of fields, and lists in the types of
new objects. -/
def Overlooks (mark : Mark) (declaration : Declaration) : Prop :=
  (∃ part ∈ initializers declaration, makes mark part = true) ∨
    mark = .listType ∧ ∃ part ∈ bodyExpressions declaration, makes mark part = true

instance (mark : Mark) (declaration : Declaration) : Decidable (Sees mark declaration) :=
  inferInstanceAs (Decidable (_ ∨ _))

instance (mark : Mark) (declaration : Declaration) : Decidable (Overlooks mark declaration) :=
  inferInstanceAs (Decidable (_ ∨ _))

theorem writes_iff {mark : Mark} {declaration : Declaration} :
    Writes mark declaration ↔ Sees mark declaration ∨ Overlooks mark declaration := by
  unfold Writes Sees Overlooks
  simp only [List.mem_append, or_and_right, exists_or]
  by_cases type : mark = .listType
  · simp only [type, true_and, ne_eq, not_true_eq_false, false_and, or_false]
    exact or_congr_right or_comm
  · simp only [type, false_and, false_or, or_false, ne_eq, not_false_eq_true, true_and]

theorem flatten_intercalate_nil (groups : List (List Line)) :
    (List.intercalate [[]] groups).flatten = groups.flatten.flatten := by
  rw [Lists.intercalate_of_append rfl (fun _ _ => List.flatten_append), List.flatten_flatten]
  exact Lists.intercalate_nil _

section

variable {package : Option String} {mark : Mark}

theorem mark_mem_methodLines_iff {method : Code.Method} :
    .mark mark ∈ (methodLines package method).flatten ↔
      (mark = .listType ∧ ∃ type ∈ method.parameters.map Code.Parameter.type ++
        method.returns.toList ++ method.typeParameters.flatMap Code.TypeParameter.bounds,
        mentionsList type = true) ∨
      ∃ part ∈ method.body.flatMap Code.Statement.within, makes mark part = true := by
  have body : .mark mark ∈ (method.body.map (statementPieces package)).flatten ↔
      ∃ part ∈ method.body.flatMap Code.Statement.within, makes mark part = true := by
    simp only [List.mem_flatten, List.mem_map, exists_exists_and_eq_and,
      mark_mem_statementPieces_iff, Lists.exists_mem_flatMap_iff]
  have annotations : .mark mark ∉
      (method.annotations.map fun annotation => [Piece.plain ("@" ++ annotation)]).flatten := by
    simp
  unfold methodLines
  simp only [List.flatten_append, List.flatten_cons, List.mem_append, annotations, body,
    mark_mem_methodPieces_iff, false_or, List.mem_cons, reduceCtorEq, List.not_mem_nil, or_false,
    List.flatten_nil]

theorem mem_flatten_flatten_map {items : List α} {lines : α → List Line} {piece : Piece} :
    piece ∈ (items.map lines).flatten.flatten ↔ ∃ item ∈ items, piece ∈ (lines item).flatten := by
  rw [List.flatten_flatten, List.map_map, ← List.flatMap_def, List.mem_flatMap]
  rfl

theorem mark_mem_memberLines_iff {declaration : Declaration} :
    .mark mark ∈ (memberLines package declaration).flatten.flatten ↔ Writes mark declaration := by
  have fields : .mark mark ∈ (if declaration.fields.isEmpty then [] else
        [declaration.fields.map (fieldPieces package)]).flatten.flatten ↔
      (mark = .listType ∧ ∃ type ∈ declaration.fields.map Code.Field.type,
        mentionsList type = true) ∨
      ∃ part ∈ initializers declaration, makes mark part = true := by
    have each : .mark mark ∈ (if declaration.fields.isEmpty then [] else
          [declaration.fields.map (fieldPieces package)]).flatten.flatten ↔
        ∃ field ∈ declaration.fields, .mark mark ∈ fieldPieces package field := by
      split
      · rename_i none'
        simp [List.isEmpty_iff.1 none']
      · simp
    rw [each]
    unfold initializers
    simp only [mark_mem_fieldPieces_iff, and_or_left, exists_or, Lists.exists_mem_flatMap_iff,
      List.mem_map, exists_exists_and_eq_and, and_left_comm, exists_and_left]
  have methods : .mark mark ∈ (declaration.methods.map (methodLines package)).flatten.flatten ↔
      (mark = .listType ∧ ∃ type ∈ declaration.methods.flatMap fun method =>
        method.parameters.map Code.Parameter.type ++ method.returns.toList ++
          method.typeParameters.flatMap Code.TypeParameter.bounds, mentionsList type = true) ∨
      ∃ part ∈ bodyExpressions declaration, makes mark part = true := by
    rw [mem_flatten_flatten_map]
    unfold bodyExpressions
    simp only [mark_mem_methodLines_iff, and_or_left, exists_or, Lists.exists_mem_flatMap_iff,
      and_left_comm, exists_and_left]
  unfold memberLines Writes mentionedTypes
  rw [List.flatten_append, List.flatten_append, List.mem_append, fields, methods]
  simp only [List.mem_append, or_and_right, exists_or, and_or_left]
  exact or_or_or_comm.trans (or_congr_right or_comm)

/-- A class has the marks of all types in it. -/
theorem mark_mem_classLines_iff {model : Model} {levels : Nat} {id : TypeId} :
    .mark mark ∈ (classLines model package levels id).flatten ↔
      ∃ declaration ∈ nestedTypes model levels id, Writes mark declaration := by
  induction levels generalizing id with
  | zero => simp [classLines, nestedTypes]
  | succ levels inductionHypothesis =>
      unfold classLines nestedTypes
      cases model.get? id with
      | none => simp
      | some declaration =>
          have nested : .mark mark ∈ (declaration.nested.map fun entry =>
                classLines model package levels entry.2).flatten.flatten ↔
              ∃ inner ∈ declaration.nested.flatMap fun entry => nestedTypes model levels entry.2,
                Writes mark inner := by
            simp only [mem_flatten_flatten_map, Lists.exists_mem_flatMap_iff, inductionHypothesis]
          have own : .mark mark ∉ classPieces model package declaration :=
            mark_not_mem_classPieces model declaration
          -- The header has no mark, as a class extends a type with a name.
          dsimp only
          rw [List.flatten_append, List.flatten_cons, flatten_intercalate_nil, List.flatten_append,
            List.flatten_append]
          simp only [List.mem_append, own, mark_mem_memberLines_iff, nested, false_or,
            exists_eq_or_imp, List.flatten_cons, List.flatten_nil, List.mem_cons,
            List.not_mem_nil, reduceCtorEq, or_false]

/-- A file has a mark. -/
def Emits (model : Model) (id : TypeId) (mark : Mark) : Prop :=
  .mark mark ∈ (fileLines model id).flatten

theorem emits_iff {model : Model} {id : TypeId} :
    Emits model id mark ↔
      ∃ declaration ∈ nestedTypes model model.size id, Writes mark declaration := by
  have opening : .mark mark ∉ (match (model.get? id).bind Declaration.package with
      | some name => [[Piece.plain ("package " ++ name ++ ";")], []]
      | none => []).flatten := by
    cases (model.get? id).bind Declaration.package <;> simp
  have importing : .mark mark ∉ (if (fileImports model id).isEmpty then [] else
      (fileImports model id).map (fun name => [Piece.plain ("import " ++ name ++ ";")]) ++
        [[]]).flatten := by
    split <;> simp
  unfold Emits fileLines
  dsimp only
  rw [List.flatten_append, List.flatten_append, List.mem_append, List.mem_append,
    mark_mem_classLines_iff]
  simp only [opening, importing, false_or]

/-- What is imported. -/
theorem className_mem_imports_iff {declarations : List Declaration} :
    mark.className ∈ imports declarations ↔
      ∃ declaration ∈ declarations, Sees mark declaration := by
  have copies : isListCopy = makes .listCopy := by
    funext expression
    cases expression <;> rfl
  have views : isListView = makes .listView := by
    funext expression
    cases expression <;> rfl
  unfold imports Sees
  dsimp only
  rw [copies, views]
  cases mark <;>
    simp [Mark.className, List.any_flatMap, List.any_eq_true]

end

/-! ### Types in files -/

/-- A type is in the file of a type: it is that type, or inside it at any depth. -/
def InFile (model : Model) (id : TypeId) (declaration : Declaration) : Prop :=
  ∃ inner, model.get? inner = some declaration ∧ (inner = id ∨ model.IsInside inner id)

/-- An outline that shows a type shows what that lists. -/
theorem Outline.Fits.shows_listed {model : Model} {outline : Outline} (fits : outline.Fits model)
    {entry : TypeId × Declaration} (shown : entry ∈ outline.types) {inner : TypeId}
    (listed : inner ∈ entry.2.nested.map Prod.snd) : inner ∈ outline.types.map Prod.fst := by
  rw [fits.types_perm.mem_iff]
  exact List.mem_cons_of_mem _ (List.mem_flatMap.2 ⟨entry, shown, listed⟩)

theorem Outline.entry_mem_types (outline : Outline) : outline.entry ∈ outline.types := by
  cases outline with
  | type id declaration nested =>
      rw [types_type]
      exact List.mem_cons_self

section

variable {model : Model} (coherent : model.Coherent)

include coherent

/-- What an outline shows is its outermost type or inside that. -/
theorem Outline.Fits.isInside_of_mem {outline : Outline} (fits : outline.Fits model)
    {entry : TypeId × Declaration} (shown : entry ∈ outline.types) :
    entry.1 = outline.entry.1 ∨ model.IsInside entry.1 outline.entry.1 := by
  induction fits with
  | @type id declaration nested found listed inside inductionHypothesis =>
      rw [types_type, List.mem_cons] at shown
      rcases shown with rfl | within
      · exact .inl rfl
      · obtain ⟨outline, member, there⟩ := List.mem_flatMap.1 within
        have isListed : outline.entry.1 ∈ declaration.nested.map Prod.snd :=
          listed ▸ List.mem_map.2 ⟨outline, member, rfl⟩
        obtain ⟨item, ofType, same⟩ := List.mem_map.1 isListed
        obtain ⟨inner, known, isNested⟩ := coherent.nested found item ofType
        have next : model.IsIn outline.entry.1 id := ⟨inner, same ▸ known, isNested.outer⟩
        rcases inductionHypothesis outline member there with here | deeper
        · exact .inr (here ▸ .single next)
        · exact .inr (deeper.tail next)

/-- An outline shows everything inside its outermost type. -/
theorem Outline.Fits.mem_of_isInside {outline : Outline} (fits : outline.Fits model) {id : TypeId}
    (inside : model.IsInside id outline.entry.1) : id ∈ outline.types.map Prod.fst := by
  have step : ∀ inner outer, model.IsIn inner outer → outer ∈ outline.types.map Prod.fst →
      inner ∈ outline.types.map Prod.fst := by
    rintro inner outer ⟨declaration, found, outermost⟩ member
    obtain ⟨entry, shown, rfl⟩ := List.mem_map.1 member
    obtain ⟨-, parent, there, listed⟩ := coherent.outer found outermost
    rw [fits.get?_of_mem shown, Option.some.injEq] at there
    exact fits.shows_listed shown (there ▸ listed)
  -- By induction on how deep it is, from the outside.
  induction inside using Relation.TransGen.head_induction_on with
  | single last => exact step _ _ last (List.mem_map_of_mem outline.entry_mem_types)
  | head first _ inductionHypothesis => exact step _ _ first inductionHypothesis

/-- What counts for the imports of a file are the types in the file. -/
theorem mem_nestedTypes_iff {id : TypeId} {declaration inner : Declaration}
    (found : model.get? id = some declaration) :
    inner ∈ nestedTypes model model.size id ↔ InFile model id inner := by
  obtain ⟨outline, same, fits⟩ := exists_fits coherent found
  obtain rfl : outline.entry.1 = id := congrArg Prod.fst same
  rw [fits.nestedTypes_eq coherent (Nat.le_add_right _ _)]
  constructor
  · intro member
    obtain ⟨entry, shown, rfl⟩ := List.mem_map.1 member
    exact ⟨entry.1, fits.get?_of_mem shown, fits.isInside_of_mem coherent shown⟩
  · rintro ⟨other, there, here | inside⟩
    · rw [here, found, Option.some.injEq] at there
      exact List.mem_map.2
        ⟨outline.entry, outline.entry_mem_types, (congrArg Prod.snd same).trans there⟩
    · obtain ⟨entry, shown, rfl⟩ := List.mem_map.1 (fits.mem_of_isInside coherent inside)
      rw [fits.get?_of_mem shown, Option.some.injEq] at there
      rw [← there]
      exact List.mem_map_of_mem shown

end

section

variable {model : Model} (reached : model.Reached) {entry : TypeId × Declaration}
  (outermost : entry ∈ model.topLevel)

include reached outermost

theorem className_mem_fileImports_iff {mark : Mark} :
    mark.className ∈ fileImports model entry.1 ↔
      ∃ declaration, InFile model entry.1 declaration ∧ Sees mark declaration := by
  have found := (model.mem_topLevel_iff.1 outermost).1
  unfold fileImports
  simp only [className_mem_imports_iff, mem_nestedTypes_iff reached.coherent found]

theorem emits_iff_inFile {mark : Mark} :
    Emits model entry.1 mark ↔ ∃ declaration, InFile model entry.1 declaration ∧
      (Sees mark declaration ∨ Overlooks mark declaration) := by
  have found := (model.mem_topLevel_iff.1 outermost).1
  simp only [emits_iff, mem_nestedTypes_iff reached.coherent found, writes_iff]

/-- Imports are right if what they overlook somewhere in a file is seen elsewhere in the file. -/
theorem imports_right_iff :
    (∀ mark, mark.className ∈ fileImports model entry.1 ↔ Emits model entry.1 mark) ↔
      ∀ mark declaration, InFile model entry.1 declaration → Overlooks mark declaration →
        ∃ other, InFile model entry.1 other ∧ Sees mark other := by
  simp only [className_mem_fileImports_iff reached outermost, emits_iff_inFile reached outermost]
  constructor
  · intro same mark declaration inside overlooked
    exact (same mark).2 ⟨declaration, inside, .inr overlooked⟩
  · intro covered mark
    constructor
    · rintro ⟨declaration, inside, seen⟩
      exact ⟨declaration, inside, .inl seen⟩
    · rintro ⟨declaration, inside, seen | overlooked⟩
      · exact ⟨declaration, inside, seen⟩
      · exact covered mark declaration inside overlooked

/-- A file imports a class that it mentions, and no other, unless it mentions the class only where
imports overlook that: in the initializer of a field or, if it is the type of lists, in the type of
a new object. -/
theorem imports_match_unless_overlooked :
    fileText model entry.1 = Layout.stretchesText .standard (fileStretches model entry.1) ∧
    codeLines (fileStretches model entry.1) = (fileLines model entry.1).map Line.text ∧
    (∀ mark, mark.className ∈ fileImports model entry.1 ↔
      ∃ declaration, InFile model entry.1 declaration ∧ Sees mark declaration) ∧
    (∀ mark, Emits model entry.1 mark ↔
      ∃ declaration, InFile model entry.1 declaration ∧
        (Sees mark declaration ∨ Overlooks mark declaration)) ∧
    ((∀ mark, mark.className ∈ fileImports model entry.1 ↔ Emits model entry.1 mark) ↔
      ∀ mark declaration, InFile model entry.1 declaration → Overlooks mark declaration →
        ∃ other, InFile model entry.1 other ∧ Sees mark other) :=
  ⟨fileText_eq model entry.1, codeLines_fileStretches model entry.1,
    fun _ => className_mem_fileImports_iff reached outermost,
    fun _ => emits_iff_inFile reached outermost,
    imports_right_iff reached outermost⟩

end

/-- A field that begins with a copy of a list. -/
def copied : Code.Field :=
  { name := "books"
    type := .named "Books"
    initializer := some (.copyList .null) }

/-- A class with such a field, and a type inside it with a method that makes a copy, too. -/
def shelving : List Code.Request :=
  [.topLevel "Shelf" { name := "Shelf" }, .field 0 copied, .nested 0 { name := "Row" },
    .method 1 { name := "clear", body := [.evaluate (.copyList .null)] }]

theorem shelving_imports_match :
    Model.Reached (shelving.foldl Model.serve {}) ∧
      ∃ declaration, (0, declaration) ∈ (shelving.foldl Model.serve {}).topLevel ∧
        ∀ mark, mark.className ∈ fileImports (shelving.foldl Model.serve {}) 0 ↔
          Emits (shelving.foldl Model.serve {}) 0 mark := by
  have reached : Model.Reached (shelving.foldl Model.serve {}) :=
    Model.steps_foldl_serve (by decide)
  have outermost : (0, _) ∈ (shelving.foldl Model.serve {}).topLevel :=
    (Model.mem_topLevel_iff _).2 ⟨rfl, rfl⟩
  refine ⟨reached, _, outermost, (imports_match_unless_overlooked reached outermost).2.2.2.2.2 ?_⟩
  rintro mark declaration ⟨inner, found, -⟩ overlooked
  have copies : mark = .listCopy := by
    match inner, Model.get?_eq_some_lt found with
    | 0, _ =>
        obtain rfl := Option.some.inj found
        cases mark <;> revert overlooked <;> decide
    | 1, _ =>
        obtain rfl := Option.some.inj found
        cases mark <;> revert overlooked <;> decide
  subst copies
  have row : InFile (shelving.foldl Model.serve {}) 0 _ :=
    ⟨1, rfl, .inr (.single ⟨_, rfl, rfl⟩)⟩
  exact ⟨_, row, by decide⟩

/-- A class with a field that begins with a copy of a list, and nothing else. -/
def lone : List Code.Request :=
  [.topLevel "Shelf" { name := "Shelf" }, .field 0 copied]

theorem not_every_import_matches :
    ¬ ∀ model : Model, model.Reached → ∀ entry ∈ model.topLevel, ∀ mark,
      mark.className ∈ fileImports model entry.1 ↔ Emits model entry.1 mark := by
  intro always
  have reached : Model.Reached (lone.foldl Model.serve {}) :=
    Model.steps_foldl_serve (by decide)
  have outermost : (0, _) ∈ (lone.foldl Model.serve {}).topLevel :=
    (Model.mem_topLevel_iff _).2 ⟨rfl, rfl⟩
  have emitted : Emits (lone.foldl Model.serve {}) 0 .listCopy := by
    unfold Emits
    decide +kernel
  have imported := (always _ reached _ outermost .listCopy).2 emitted
  have nothing : fileImports (lone.foldl Model.serve {}) 0 = [] := by
    decide +kernel
  rw [nothing] at imported
  cases imported

end Java

/-! ### Files of runs -/

namespace Builder

open Code (Expression Method Statement TypeRef)
open Schema (DataClass Policy)

def instantiatedBy (method : Method) : List TypeRef :=
  (method.body.flatMap Statement.within).filterMap Expression.instantiated?

section

variable {policy : Policy} {builderType productType : TypeRef}

theorem instantiatedBy_setterOf (property : Property) :
    instantiatedBy (setterOf policy builderType property) = [] := by
  unfold instantiatedBy setterOf Handling.setter Handling.stored
  split <;> rfl

theorem instantiatedBy_override (hidden : List String) (property : Property) :
    instantiatedBy (override policy builderType hidden property) = [] := by
  unfold override
  split
  · rfl
  · exact @instantiatedBy_setterOf policy builderType property

/-- The methods of a builder make objects of the product only. -/
theorem instantiatedBy_subset {dataClass : DataClass} {ancestors : List DataClass}
    {method : Method}
    (member : method ∈ builderMethods policy productType builderType dataClass ancestors) :
    instantiatedBy method ⊆ [productType] := by
  simp only [builderMethods, List.mem_append, List.mem_singleton] at member
  rcases member with ((setter | init) | inherited) | build
  · obtain ⟨property, listed, rfl⟩ := List.mem_map.1 setter
    rw [instantiatedBy_setterOf]
    exact List.nil_subset _
  · have nothing : instantiatedBy method = [] := init ▸ instantiated_initBody _ _
    rw [nothing]
    exact List.nil_subset _
  · obtain ⟨ancestor, above, property, listed, hidden, rfl⟩ := of_mem_inheritedSetters inherited
    rw [instantiatedBy_override]
    exact List.nil_subset _
  · split at build
    · cases build
    · rw [List.mem_singleton.1 build]
      exact List.Subset.refl _

end

end Builder

namespace Run

open Builder (Workshop instantiatedBy)
open Code (Declaration Expression)
open Java (Emits InFile Overlooks)
open Schema (Hierarchy)

section

variable {hierarchy : Hierarchy} {config : Config} {workshop : Workshop}
  (completes : Completes hierarchy config workshop) {id : Code.TypeId} {declaration : Declaration}
  (found : workshop.model.get? id = some declaration)

include completes found

/-- A field of a run begins with nothing or with null. -/
theorem Completes.initializers_null {part : Expression}
    (inside : part ∈ Java.initializers declaration) : part = .null := by
  obtain ⟨field, member, begins⟩ := List.mem_flatMap.1 inside
  obtain ⟨value, given, within⟩ := List.mem_flatMap.1 begins
  rcases completes.field_cases found member with ⟨_, -, source, -, rfl⟩ | ⟨dataClass, -, made⟩
  · cases given
  · obtain ⟨property, -, rfl⟩ := List.mem_map.1 made
    unfold Builder.Handling.field at given
    split at given
    · have null : value = .null := List.mem_singleton.1 given
      rw [null] at within
      exact List.mem_singleton.1 within
    · cases given

/-- Objects are made of classes. -/
theorem Completes.instantiated_named {type : Code.TypeRef}
    (made : .new type ∈ Java.bodyExpressions declaration) : ∃ name, type = .named name := by
  obtain ⟨method, member, inside⟩ := List.mem_flatMap.1 made
  have listed : type ∈ instantiatedBy method := List.mem_filterMap.2 ⟨_, inside, rfl⟩
  obtain ⟨dataClass, -, product, builder, ⟨ancestors, -, ofBuilder⟩ | ofProduct⟩ :=
    completes.method_cases found member
  · exact ⟨product, List.mem_singleton.1 (Builder.instantiatedBy_subset ofBuilder listed)⟩
  · unfold Builder.productMethods at ofProduct
    split at ofProduct
    · cases ofProduct
    · rw [List.mem_singleton.1 ofProduct] at listed
      exact ⟨builder, List.mem_singleton.1 listed⟩

theorem Completes.not_overlooks (mark : Java.Mark) : ¬ Overlooks mark declaration := by
  rintro (⟨part, inside, own⟩ | ⟨rfl, part, inside, own⟩)
  · rw [completes.initializers_null found inside] at own
    cases mark <;> cases own
  · cases part with
    | new type =>
        obtain ⟨name, rfl⟩ := completes.instantiated_named found inside
        cases own
    | _ => cases own

end

/-- The files of a run on an accepted manifest import what they mention, and nothing else. -/
theorem imports_match {manifest : Manifest} {context : Context}
    (accepted : manifest.validate = .ok ())
    (success : (({} : Pipeline).run manifest).result = .ok context)
    {entry : Code.TypeId × Declaration} (outermost : entry ∈ context.model.topLevel)
    (mark : Java.Mark) :
    mark.className ∈ Java.fileImports context.model entry.1 ↔ Emits context.model entry.1 mark := by
  obtain ⟨hierarchy, registry, -, -, completes⟩ := completes_of_accepted accepted success
  refine (Java.imports_right_iff completes.reached outermost).2 ?_ mark
  rintro mark declaration ⟨inner, found, -⟩ overlooked
  exact absurd overlooked (completes.not_overlooks found mark)

end Run

end BuilderSynthesis
