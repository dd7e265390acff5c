import BuilderSynthesis.Proofs.Appending
import Mathlib.Data.List.Basic
import Mathlib.Data.List.TakeWhile
import Mathlib.Tactic.Tauto

/-!
Contract: when the text that is added for documentation is one comment.

A comment ends where its closing delimiter occurs for the first time. What is put around the
documentation, a prefix on every line and the delimiters of the comment, never completes a closing
delimiter, and what is left out are blanks. So the text closes early exactly if the documentation
has a closing delimiter in it: nothing escapes it.

Owns: `Closes`, `IsComment` and `isComment_docLines_iff`.
-/

namespace BuilderSynthesis.Layout

/-- The delimiter that ends a comment occurs in a text. -/
def Closes (text : List Char) : Prop :=
  ['*', '/'] <:+: text

instance (text : List Char) : Decidable (Closes text) :=
  inferInstanceAs (Decidable (_ <:+: _))

/-- A text is one documentation comment on lines of its own. Blanks and the opening delimiter come
first, the closing delimiter and the end of the line come last, and the closing delimiter does not
occur before that. -/
def IsComment (text : List Char) : Prop :=
  ∃ indentation body,
    text = indentation ++ ['/', '*', '*'] ++ body ++ ['*', '/', '\n'] ∧
      (∀ character ∈ indentation, character = ' ' ∨ character = '\t') ∧
      ¬ Closes (indentation ++ ['/', '*', '*'] ++ body ++ ['*'])

/-- A character that is no part of a closing delimiter. -/
def IsNeutral (character : Char) : Prop :=
  character ≠ '*' ∧ character ≠ '/'

instance (character : Char) : Decidable (IsNeutral character) :=
  inferInstanceAs (Decidable (_ ∧ _))

/-! ### Where texts meet -/

theorem closes_cons_iff {character : Char} {rest : List Char} :
    Closes (character :: rest) ↔ (character = '*' ∧ rest.head? = some '/') ∨ Closes rest := by
  unfold Closes
  rw [List.infix_cons_iff, List.cons_prefix_cons]
  cases rest with
  | nil => simp
  | cons next others => simp [eq_comm]

/-- A delimiter in a text is in one of two parts, or across the place where they meet. -/
theorem closes_append_iff {before after : List Char} :
    Closes (before ++ after) ↔ Closes before ∨ Closes after ∨
      (before.getLast? = some '*' ∧ after.head? = some '/') := by
  induction before with
  | nil => simp [Closes]
  | cons character rest inductionHypothesis =>
      rw [List.cons_append, closes_cons_iff, inductionHypothesis, closes_cons_iff]
      cases rest with
      | nil => simp [Closes]; tauto
      | cons next others =>
          rw [List.cons_append, List.head?_cons, List.head?_cons, List.getLast?_cons_cons]
          tauto

theorem not_closes_of_isNeutral {text : List Char}
    (neutral : ∀ character ∈ text, IsNeutral character) : ¬ Closes text := by
  rintro ⟨before, after, rfl⟩
  exact (neutral '*' (by simp)).1 rfl

/-- What is neutral at the end of a text does not count. -/
theorem closes_append_neutral_iff {before after : List Char}
    (neutral : ∀ character ∈ after, IsNeutral character) :
    Closes (before ++ after) ↔ Closes before := by
  have ends : after.head? ≠ some '/' := fun first =>
    (neutral '/' (List.mem_of_head? first)).2 rfl
  rw [closes_append_iff]
  simp only [not_closes_of_isNeutral neutral, ends, and_false, or_false]

/-- Nor does what is neutral at its start. -/
theorem closes_neutral_append_iff {before after : List Char}
    (neutral : ∀ character ∈ before, IsNeutral character) :
    Closes (before ++ after) ↔ Closes after := by
  have ends : before.getLast? ≠ some '*' := fun last =>
    (neutral '*' (List.mem_of_getLast? last)).1 rfl
  rw [closes_append_iff]
  simp only [not_closes_of_isNeutral neutral, ends, false_and, or_false, false_or]

/-- A neutral character keeps two parts apart. -/
theorem closes_append_cons_iff {before after : List Char} {character : Char}
    (neutral : IsNeutral character) :
    Closes (before ++ character :: after) ↔ Closes before ∨ Closes after := by
  have one : ∀ other ∈ [character], IsNeutral other := List.forall_mem_singleton.2 neutral
  rw [closes_append_iff, ← List.singleton_append, closes_neutral_append_iff one,
    List.singleton_append, List.head?_cons, Option.some.injEq]
  simp only [neutral.2, and_false, or_false]

/-- Lines that end with a neutral character close where one of them does. -/
theorem closes_flatMap_iff {items : List α} {line : α → List Char} {ending : Char}
    (neutral : IsNeutral ending) :
    Closes (items.flatMap fun item => line item ++ [ending]) ↔
      ∃ item ∈ items, Closes (line item) := by
  induction items with
  | nil => simp [Closes]
  | cons item rest inductionHypothesis =>
      rw [List.flatMap_cons, List.append_assoc, List.singleton_append,
        closes_append_cons_iff neutral, inductionHypothesis]
      simp only [List.mem_cons, exists_eq_or_imp]

/-! ### What is made of documentation -/

theorem isNeutral_of_isBlank {character : Char} (blank : Text.isBlank character = true) :
    IsNeutral character := by
  constructor <;>
    · rintro rfl
      exact absurd blank (by decide)

/-- To drop blanks drops no delimiter. -/
theorem closes_dropBlanks_iff (text : List Char) : Closes (Text.dropBlanks text) ↔ Closes text := by
  have split : text.takeWhile Text.isBlank ++ Text.dropBlanks text = text :=
    List.takeWhile_append_dropWhile
  have blank : ∀ character ∈ text.takeWhile Text.isBlank, IsNeutral character :=
    fun character member => isNeutral_of_isBlank (List.mem_takeWhile_imp member)
  rw [← closes_neutral_append_iff blank, split]

theorem closes_dropTrailingBlanks_iff (text : List Char) :
    Closes (Text.dropTrailingBlanks text) ↔ Closes text := by
  have split : Text.dropTrailingBlanks text ++ (text.reverse.takeWhile Text.isBlank).reverse =
      text := by
    unfold Text.dropTrailingBlanks Text.dropBlanks
    rw [← List.reverse_append, List.takeWhile_append_dropWhile, List.reverse_reverse]
  have blank : ∀ character ∈ (text.reverse.takeWhile Text.isBlank).reverse,
      IsNeutral character := by
    intro character member
    exact isNeutral_of_isBlank (List.mem_takeWhile_imp (List.mem_reverse.1 member))
  rw [← closes_append_neutral_iff blank, split]

theorem closes_trim_iff (text : String) : Closes (Text.trim text).toList ↔ Closes text.toList := by
  rw [Text.trim, String.toList_ofList, Text.trimBlanks, closes_dropTrailingBlanks_iff,
    closes_dropBlanks_iff]

/-- A text closes where one of its segments does. -/
theorem closes_split_iff (text : List Char) :
    (∃ segment ∈ Text.split '\n' text, Closes segment) ↔ Closes text := by
  have together : ∀ segments : List (List Char),
      Closes (Text.join '\n' segments) ↔ ∃ segment ∈ segments, Closes segment := by
    intro segments
    fun_induction Text.join '\n' segments with
    | case1 => simp [Closes]
    | case2 only => simp
    | case3 first second others inductionHypothesis =>
        rw [closes_append_cons_iff (by decide), inductionHypothesis]
        simp only [List.mem_cons, exists_eq_or_imp]
  rw [← together, Text.join_split]

/-- To drop a carriage return drops no delimiter. -/
theorem closes_dropCarriageReturn_iff (line : List Char) :
    Closes (Text.dropCarriageReturn line) ↔ Closes line := by
  unfold Text.dropCarriageReturn
  split
  · rename_i last
    obtain ⟨before, rfl⟩ := List.getLast?_eq_some_iff.1 last
    rw [List.dropLast_concat]
    exact (closes_append_neutral_iff (List.forall_mem_singleton.2 (by decide))).symm
  · rfl

/-- A text closes where one of its lines does. -/
theorem closes_lines_iff (text : String) :
    (∃ line ∈ Text.lines text, Closes line.toList) ↔ Closes text.toList := by
  have closed : ∀ segments : List (List Char),
      (∃ line ∈ Text.closedLines segments, Closes line) ↔ ∃ segment ∈ segments, Closes segment := by
    intro segments
    fun_induction Text.closedLines segments with
    | case1 => simp
    | case2 last empty => simp [List.isEmpty_iff.1 empty, Closes]
    | case3 last => simp
    | case4 line next others inductionHypothesis =>
        simp only [List.mem_cons, exists_eq_or_imp, closes_dropCarriageReturn_iff] at *
        rw [inductionHypothesis]
  rw [← closes_split_iff, ← closed, Text.lines]
  simp only [List.mem_map, exists_exists_and_eq_and, String.toList_ofList]

theorem closes_docLine_iff (text : String) :
    Closes (Page.docLine text).toList ↔ Closes text.toList := by
  have trimmed : Closes (Text.trimEnd text).toList ↔ Closes text.toList := by
    rw [Text.trimEnd, String.toList_ofList, closes_dropTrailingBlanks_iff]
  unfold Page.docLine
  dsimp only
  split
  · rename_i empty
    rw [← trimmed, String.isEmpty_iff.1 empty]
    decide
  · rw [String.toList_append, ← trimmed, closes_append_iff]
    have star : ¬ Closes " * ".toList := by decide
    have ends : " * ".toList.getLast? ≠ some '*' := by decide
    simp only [star, ends, false_and, or_false, false_or]

/-! ### Comments -/

/-- Blanks that a line is indented with. -/
theorem of_mem_indent (indent : Indent) (level : Nat) :
    ∀ character ∈ (indent.text level).toList, character = ' ' ∨ character = '\t' := by
  have unit : ∀ character ∈ indent.unit.toList, character = ' ' ∨ character = '\t' := by
    cases indent with
    | spaces width =>
        intro character member
        rw [Indent.unit, String.toList_ofList] at member
        exact .inl (List.eq_of_mem_replicate member)
    | tab =>
        intro character member
        exact .inr (List.mem_singleton.1 member)
  intro character member
  rw [Indent.text, String.toList_join, List.mem_flatMap] at member
  obtain ⟨one, repeated, inside⟩ := member
  rw [List.eq_of_mem_replicate repeated] at inside
  exact unit character inside

theorem isNeutral_of_mem_indent (indent : Indent) (level : Nat) :
    ∀ character ∈ (indent.text level).toList, IsNeutral character := by
  intro character member
  rcases of_mem_indent indent level character member with rfl | rfl <;> decide

/-- A line that is not empty. -/
theorem toList_lineText (indent : Indent) (level : Nat) {text : String} (content : text ≠ "") :
    (lineText indent level text).toList =
      (indent.text level).toList ++ text.toList ++ ['\n'] := by
  have full : ¬ text.isEmpty = true := fun empty => content (String.isEmpty_iff.1 empty)
  unfold lineText
  rw [if_neg full, String.toList_append, String.toList_append]
  rfl

theorem docLine_ne_empty (text : String) : Page.docLine text ≠ "" := by
  unfold Page.docLine
  dsimp only
  split
  · decide
  · intro empty
    have front := congrArg (fun text : String => text.toList.head?) empty
    simp at front

/-- Where a text begins with the opening delimiter and goes on with neutral characters on both
sides of a body, it is one comment if the body does not close. -/
theorem isComment_iff {indentation body : List Char} {first last : Char}
    (blank : ∀ character ∈ indentation, character = ' ' ∨ character = '\t')
    (neutralFirst : IsNeutral first) (neutralLast : IsNeutral last) :
    IsComment (indentation ++ ['/', '*', '*'] ++ (first :: body ++ [last]) ++ ['*', '/', '\n']) ↔
      ¬ Closes body := by
  have neutral : ∀ character ∈ indentation, IsNeutral character := by
    intro character member
    rcases blank character member with rfl | rfl <;> decide
  have before : Closes (indentation ++ ['/', '*', '*'] ++ (first :: body ++ [last]) ++ ['*']) ↔
      Closes body := by
    have opening : ¬ Closes ['/', '*', '*'] := by decide
    have closing : ¬ Closes ['*'] := by decide
    have parts : indentation ++ ['/', '*', '*'] ++ (first :: body ++ [last]) ++ ['*'] =
        indentation ++ (['/', '*', '*'] ++ first :: (body ++ last :: ['*'])) := by
      simp
    rw [parts, closes_neutral_append_iff neutral, closes_append_cons_iff neutralFirst,
      closes_append_cons_iff neutralLast]
    simp only [opening, closing, false_or, or_false]
  constructor
  · rintro ⟨other, inner, same, -, open'⟩
    have parts : indentation ++ ['/', '*', '*'] ++ (first :: body ++ [last]) ++ ['*'] =
        other ++ ['/', '*', '*'] ++ inner ++ ['*'] := by
      refine (List.append_left_inj ['/', '\n']).1 ?_
      simpa using same
    rwa [← parts, before] at open'
  · intro open'
    exact ⟨indentation, _, rfl, blank, fun closes => open' (before.1 closes)⟩

/-- Documentation on one line stands between blanks. -/
theorem toList_oneLine (indent : Indent) (level : Nat) (text : String) :
    (linesText indent level ["/** " ++ text ++ " */"]).toList =
      (indent.text level).toList ++ ['/', '*', '*'] ++ (' ' :: text.toList ++ [' ']) ++
        ['*', '/', '\n'] := by
  have content : "/** " ++ text ++ " */" ≠ "" := by
    intro empty
    have front := congrArg (fun text : String => text.toList.head?) empty
    simp at front
  rw [linesText_singleton, toList_lineText indent level content, String.toList_append,
    String.toList_append]
  simp

theorem toList_docLines (indent : Indent) (level : Nat) (lines : List String) :
    (linesText indent level (lines.map Page.docLine)).toList =
      lines.flatMap fun line =>
        (indent.text level).toList ++ (Page.docLine line).toList ++ ['\n'] := by
  rw [linesText, List.map_map, String.toList_join, List.flatMap_map]
  refine List.flatMap_congr fun line _ => ?_
  rw [Function.comp_apply, toList_lineText indent level (docLine_ne_empty line)]

/-- Documentation on several lines stands between the end of one line and the start of another. -/
theorem toList_manyLines (indent : Indent) (level : Nat) (lines : List String) :
    (linesText indent level ("/**" :: lines ++ [" */"])).toList =
      (indent.text level).toList ++ ['/', '*', '*'] ++
        ('\n' :: ((linesText indent level lines).toList ++ (indent.text level).toList) ++ [' ']) ++
        ['*', '/', '\n'] := by
  rw [← List.singleton_append, linesText_append, linesText_append, linesText_singleton,
    linesText_singleton, String.toList_append, String.toList_append,
    toList_lineText indent level (show "/**" ≠ "" by decide),
    toList_lineText indent level (show " */" ≠ "" by decide)]
  simp

/-- The lines that are added for documentation are one comment, unless it has a closing delimiter
in it. -/
theorem isComment_docLines_iff (indent : Indent) (level : Nat) (text : String) :
    IsComment (linesText indent level (docLines text)).toList ↔ ¬ Closes text.toList := by
  have blank := of_mem_indent indent level
  have neutral := isNeutral_of_mem_indent indent level
  unfold docLines
  split
  · rw [toList_oneLine, isComment_iff blank (by decide) (by decide), closes_trim_iff]
  · rw [toList_manyLines, isComment_iff blank (by decide) (by decide),
      closes_append_neutral_iff neutral, toList_docLines, closes_flatMap_iff (by decide),
      ← closes_lines_iff]
    simp only [closes_neutral_append_iff neutral, closes_docLine_iff]

end BuilderSynthesis.Layout
