import BuilderSynthesis.Java.SourceFile

/-!
Contract: what fragments add to a page.

A fragment leaves what stands on the page and the level at which the next line goes, and adds
lines of its own. These come in stretches: a documentation comment is one, and so is every line
that is not in a comment. What the stretches are depends on the level and not on the page.

Owns: `Stretch`, `Fragment.stretches` and `Page.add_eq`; `Fragment.written` and `render_eq_join`,
what is on a page line by line; `Java.fileStretches`, the stretches of a source file.
-/

namespace BuilderSynthesis

namespace Layout

/-- Lines that are added together at one level. -/
structure Stretch where
  isComment : Bool
  level : Nat
  lines : List String

def lineText (indent : Indent) (level : Nat) (text : String) : String :=
  if text.isEmpty then "\n" else indent.text level ++ text ++ "\n"

def linesText (indent : Indent) (level : Nat) (lines : List String) : String :=
  String.join (lines.map (lineText indent level))

def Stretch.text (indent : Indent) (stretch : Stretch) : String :=
  linesText indent stretch.level stretch.lines

def stretchesText (indent : Indent) (stretches : List Stretch) : String :=
  String.join (stretches.map (Stretch.text indent))

def docLines (text : String) : List String :=
  if (Text.lines text).length ≤ 1 then
    ["/** " ++ Text.trim text ++ " */"]
  else
    "/**" :: (Text.lines text).map Page.docLine ++ [" */"]

mutual

def Fragment.stretches (level : Nat) : Fragment → List Stretch
  | .line text => [⟨false, level, [text]⟩]
  | .blank => [⟨false, level, [""]⟩]
  | .block header body close =>
      ⟨false, level, [header]⟩ :: stretchesOfAll (level + 1) body ++
        [⟨false, level, close.toList⟩]
  | .sequence parts => stretchesOfAll level parts
  | .doc text => [⟨true, level, docLines text⟩]

def stretchesOfAll (level : Nat) : List Fragment → List Stretch
  | [] => []
  | first :: rest => first.stretches level ++ stretchesOfAll level rest

end

theorem linesText_append (indent : Indent) (level : Nat) (first second : List String) :
    linesText indent level (first ++ second) =
      linesText indent level first ++ linesText indent level second := by
  unfold linesText
  rw [List.map_append, String.join_append]

theorem linesText_singleton (indent : Indent) (level : Nat) (text : String) :
    linesText indent level [text] = lineText indent level text := by
  simp [linesText]

theorem stretchesText_append (indent : Indent) (first second : List Stretch) :
    stretchesText indent (first ++ second) =
      stretchesText indent first ++ stretchesText indent second := by
  unfold stretchesText
  rw [List.map_append, String.join_append]

theorem stretchesText_singleton (indent : Indent) (stretch : Stretch) :
    stretchesText indent [stretch] = stretch.text indent := by
  simp [stretchesText]

theorem stretchesOfAll_append (level : Nat) (first second : List Fragment) :
    stretchesOfAll level (first ++ second) =
      stretchesOfAll level first ++ stretchesOfAll level second := by
  induction first with
  | nil => simp [stretchesOfAll]
  | cons fragment rest inductionHypothesis => simp [stretchesOfAll, inductionHypothesis]

namespace Page

def append (page : Page) (text : String) : Page :=
  { page with text := page.text ++ text }

theorem append_append (page : Page) (first second : String) :
    (page.append first).append second = page.append (first ++ second) := by
  simp [append, String.append_assoc]

theorem line_eq (page : Page) (text : String) :
    page.line text = page.append (lineText page.indent page.level text) := by
  unfold line append lineText
  split
  · rfl
  · simp only [String.append_assoc]

theorem foldl_line_eq (page : Page) (lines : List String) :
    lines.foldl line page = page.append (linesText page.indent page.level lines) := by
  induction lines generalizing page with
  | nil => simp [append, linesText]
  | cons text rest inductionHypothesis =>
      have later := inductionHypothesis (page.append (lineText page.indent page.level text))
      rw [List.foldl_cons, line_eq, later, append_append]
      simp only [append, linesText, List.map_cons, String.join_cons]

theorem doc_eq (page : Page) (text : String) :
    page.doc text = page.append (linesText page.indent page.level (docLines text)) := by
  rw [← foldl_line_eq]
  unfold doc docLines
  dsimp only
  split
  · rfl
  · rw [List.cons_append, List.foldl_cons, List.foldl_append, List.foldl_map]
    rfl

mutual

/-- A fragment adds its stretches and leaves the level as it was. -/
theorem add_eq (page : Page) (fragment : Fragment) :
    page.add fragment =
      page.append (stretchesText page.indent (fragment.stretches page.level)) := by
  cases fragment with
  | line text =>
      rw [add, line_eq, Fragment.stretches, stretchesText_singleton, Stretch.text,
        linesText_singleton]
  | blank =>
      rw [add, Fragment.stretches, stretchesText_singleton, Stretch.text, linesText_singleton]
      rfl
  | block header body close =>
      have inner := addAll_eq (page.line header).deeper body
      rw [line_eq] at inner
      simp only [add, line_eq, inner, Fragment.stretches, stretchesText_append]
      rw [← List.singleton_append, stretchesText_append, stretchesText_singleton,
        stretchesText_singleton, Stretch.text, Stretch.text, linesText_singleton]
      cases close <;> simp [shallower, deeper, append, linesText, String.append_assoc]
  | sequence parts => exact addAll_eq page parts
  | doc text => rw [add, doc_eq, Fragment.stretches, stretchesText_singleton, Stretch.text]

/-- So do fragments one after the other. -/
theorem addAll_eq (page : Page) (fragments : List Fragment) :
    page.addAll fragments =
      page.append (stretchesText page.indent (stretchesOfAll page.level fragments)) := by
  cases fragments with
  | nil => simp [addAll, append, stretchesOfAll, stretchesText]
  | cons first rest =>
      have head := add_eq page first
      have tail := addAll_eq (page.add first) rest
      rw [head] at tail
      rw [addAll, head, tail, append_append, stretchesOfAll, stretchesText_append]
      rfl

end

end Page

/-- The text of fragments is that of their stretches. -/
theorem render_eq (fragments : List Fragment) :
    render fragments = stretchesText .standard (stretchesOfAll 0 fragments) := by
  unfold render
  rw [Page.addAll_eq]
  exact String.empty_append

/-! ### Lines of pages -/

/-- A line of what is inside a block: four spaces further to the right, unless it is empty. -/
def inBlock (line : String) : String :=
  if line.isEmpty then "" else "    " ++ line

mutual

/-- The lines of a fragment, those of a body inside its block. -/
def Fragment.written : Fragment → List String
  | .line text => [text]
  | .blank => [""]
  | .block header body close => header :: (writtenAll body).map inBlock ++ close.toList
  | .sequence parts => writtenAll parts
  | .doc text => docLines text

def writtenAll : List Fragment → List String
  | [] => []
  | first :: rest => first.written ++ writtenAll rest

end

@[simp]
theorem writtenAll_append (first second : List Fragment) :
    writtenAll (first ++ second) = writtenAll first ++ writtenAll second := by
  induction first with
  | nil => rfl
  | cons fragment rest inductionHypothesis => simp [writtenAll, inductionHypothesis]

@[simp]
theorem writtenAll_map_line {items : List α} (text : α → String) :
    writtenAll (items.map fun item => Fragment.line (text item)) = items.map text := by
  induction items with
  | nil => rfl
  | cons item rest inductionHypothesis => simp [writtenAll, Fragment.written, inductionHypothesis]

/-- A level of indentation is a block around a line. -/
theorem lineText_succ (level : Nat) (text : String) :
    lineText .standard (level + 1) text = lineText .standard level (inBlock text) := by
  have oneMore : Indent.standard.text (level + 1) = Indent.standard.text level ++ "    " := by
    unfold Indent.text
    rw [List.replicate_succ', String.join_append]
    simp [Indent.standard, Indent.unit, List.replicate_succ]
  unfold lineText inBlock
  by_cases empty : text.isEmpty
  · rw [if_pos empty, if_pos empty]
    rfl
  · have padded : ¬("    " ++ text).isEmpty = true := by
      simp
    rw [if_neg empty, if_neg empty, if_neg padded, oneMore]
    simp only [String.append_assoc]

theorem linesText_succ (level : Nat) (lines : List String) :
    linesText .standard (level + 1) lines = linesText .standard level (lines.map inBlock) := by
  unfold linesText
  rw [List.map_map]
  exact congrArg String.join (List.map_congr_left fun text _ => lineText_succ level text)

mutual

/-- The stretches of a fragment at a level are its lines at this level. -/
theorem stretchesText_stretches (level : Nat) (fragment : Fragment) :
    stretchesText .standard (fragment.stretches level) =
      linesText .standard level fragment.written := by
  cases fragment with
  | line text => exact stretchesText_singleton ..
  | blank => exact stretchesText_singleton ..
  | doc text => exact stretchesText_singleton ..
  | sequence parts => exact stretchesText_stretchesOfAll level parts
  | block header body close =>
      have inner := stretchesText_stretchesOfAll (level + 1) body
      have whole : header :: (writtenAll body).map inBlock ++ close.toList =
          [header] ++ (writtenAll body).map inBlock ++ close.toList := rfl
      rw [Fragment.stretches, Fragment.written, whole, linesText_append, linesText_append,
        ← linesText_succ, ← inner, ← List.singleton_append, stretchesText_append,
        stretchesText_append, stretchesText_singleton, stretchesText_singleton]
      rfl

/-- So are those of several fragments. -/
theorem stretchesText_stretchesOfAll (level : Nat) (fragments : List Fragment) :
    stretchesText .standard (stretchesOfAll level fragments) =
      linesText .standard level (writtenAll fragments) := by
  cases fragments with
  | nil => rfl
  | cons first rest =>
      rw [stretchesOfAll, writtenAll, stretchesText_append, linesText_append,
        stretchesText_stretches level first, stretchesText_stretchesOfAll level rest]

end

/-- The text of fragments is that of their lines, each with its end. -/
theorem render_eq_join (fragments : List Fragment) :
    render fragments = String.join ((writtenAll fragments).map (fun line => line ++ "\n")) := by
  rw [render_eq, stretchesText_stretchesOfAll]
  unfold linesText
  refine congrArg String.join (List.map_congr_left fun text _ => ?_)
  unfold lineText
  split
  · rename_i empty
    rw [String.isEmpty_iff.1 empty]
    rfl
  · rfl

end Layout

namespace Java

open Code (Declaration Model TypeId)
open Layout (Fragment Stretch stretchesOfAll stretchesText)

/-- What is laid out in the file of a type. -/
def fileFragments (model : Model) (id : TypeId) : List Fragment :=
  let package := (model.get? id).bind Declaration.package
  let imports := imports (nestedTypes model model.size id)
  (match package with
    | some name => [.line ("package " ++ name ++ ";"), .blank]
    | none => []) ++
    (if imports.isEmpty then
      []
    else
      imports.map (fun name => Fragment.line ("import " ++ name ++ ";")) ++ [.blank]) ++
    classFragments model package model.size id

def fileStretches (model : Model) (id : TypeId) : List Stretch :=
  stretchesOfAll 0 (fileFragments model id)

/-- The text of a file is that of its lines and comments. -/
theorem fileText_eq (model : Model) (id : TypeId) :
    fileText model id = stretchesText .standard (fileStretches model id) :=
  Layout.render_eq _

end Java

end BuilderSynthesis
