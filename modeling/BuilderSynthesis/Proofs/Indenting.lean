import BuilderSynthesis.Proofs.Appending
import BuilderSynthesis.Proofs.Commenting
import BuilderSynthesis.Proofs.Lines

/-!
Contract: fragments are laid out at every level as they are at the first, only further in.

What fragments add to a page depends on the level alone, and a level more puts one unit of
indentation more before each line that is not empty. So fragments can be laid out in portions,
inside a block as well as at the top of a file.

Owns: `indented`, `Unbroken`, `flattenedAll`, `placedLines` and `Composes`.
-/

namespace BuilderSynthesis.Text

theorem not_mem_of_mem_split {separator : Char} {text segment : List Char}
    (member : segment ∈ split separator text) : separator ∉ segment := by
  induction text generalizing segment with
  | nil => simp_all [split]
  | cons character rest inductionHypothesis =>
      simp only [split] at member
      split at member
      case isTrue =>
        rcases List.mem_cons.1 member with rfl | later
        · exact List.not_mem_nil
        · exact inductionHypothesis later
      case isFalse different =>
        cases segments : split separator rest with
        | nil => exact absurd segments (split_ne_nil separator rest)
        | cons first others =>
            rw [segments] at member inductionHypothesis
            rcases List.mem_cons.1 member with rfl | later
            · have own := inductionHypothesis List.mem_cons_self
              simp [own, Ne.symm different]
            · exact inductionHypothesis (List.mem_cons_of_mem first later)

theorem mem_of_mem_dropCarriageReturn {line : List Char} {character : Char}
    (member : character ∈ dropCarriageReturn line) : character ∈ line := by
  unfold dropCarriageReturn at member
  split at member
  · exact List.dropLast_subset line member
  · exact member

/-- A line of a text has no line feed. -/
theorem not_mem_of_mem_lines {text line : String} (member : line ∈ lines text) :
    '\n' ∉ line.toList := by
  have closed : ∀ segments : List (List Char), (∀ segment ∈ segments, '\n' ∉ segment) →
      ∀ segment ∈ closedLines segments, '\n' ∉ segment := by
    intro segments plain
    fun_induction closedLines segments with
    | case1 => simp
    | case2 last empty => simp
    | case3 last => exact plain
    | case4 first next others inductionHypothesis =>
        rw [List.forall_mem_cons] at plain ⊢
        exact ⟨fun inside => plain.1 (mem_of_mem_dropCarriageReturn inside),
          inductionHypothesis plain.2⟩
  unfold lines at member
  obtain ⟨segment, inside, rfl⟩ := List.mem_map.1 member
  rw [String.toList_ofList]
  exact closed _ (fun _ => not_mem_of_mem_split) segment inside

theorem mem_of_mem_trimBlanks {text : List Char} {character : Char}
    (member : character ∈ trimBlanks text) : character ∈ text := by
  obtain ⟨-, before, after, -, -, whole⟩ := trimBlanks_eq_iff.1 (rfl : trimBlanks text = _)
  rw [whole]
  simp [member]

theorem trimBlanks_append {padding : List Char} (blank : IsPadding padding) (text : List Char) :
    trimBlanks (text ++ padding) = trimBlanks text := by
  obtain ⟨trimmed, before, after, one, two, whole⟩ :=
    trimBlanks_eq_iff.1 (rfl : trimBlanks text = _)
  refine trimBlanks_eq_iff.2 ⟨trimmed, before, after ++ padding, one, two.append blank, ?_⟩
  rw [← List.append_assoc, ← whole]

theorem eq_of_closedLines_eq_nil {segments : List (List Char)} (nonempty : segments ≠ [])
    (nothing : closedLines segments = []) : segments = [[]] := by
  fun_cases closedLines segments with
  | case1 => exact absurd rfl nonempty
  | case2 last empty => simpa using empty
  | case3 last content => simp [closedLines, content] at nothing
  | case4 first next others => simp [closedLines] at nothing

/-- A text of at most one line has no line feed when it is trimmed. -/
theorem not_mem_trim_of_short {text : String} (short : (lines text).length ≤ 1) :
    '\n' ∉ (trim text).toList := by
  have whole := join_split '\n' text.toList
  have plain := fun segment => @not_mem_of_mem_split '\n' text.toList segment
  rw [lines, List.length_map] at short
  rw [trim, String.toList_ofList, ← whole]
  generalize split '\n' text.toList = segments at plain short
  cases segments with
  | nil => exact fun member => List.not_mem_nil (mem_of_mem_trimBlanks member)
  | cons first rest =>
      cases rest with
      | nil => exact fun member => plain first List.mem_cons_self (mem_of_mem_trimBlanks member)
      | cons next others =>
          -- Nothing is left after the only line, so the line feed is at the end and is trimmed.
          have nothing : closedLines (next :: others) = [] := by
            simpa [closedLines] using short
          have ended : join '\n' (first :: next :: others) = first ++ ['\n'] := by
            rw [eq_of_closedLines_eq_nil (List.cons_ne_nil next others) nothing]
            rfl
          rw [ended, trimBlanks_append (List.forall_mem_singleton.2 (by decide))]
          exact fun member => plain first List.mem_cons_self (mem_of_mem_trimBlanks member)

end BuilderSynthesis.Text

namespace BuilderSynthesis.Layout

/-! ### Indented texts -/

/-- A text with indentation before every line that is not empty. -/
def indented (indentation text : List Char) : List Char :=
  Text.join '\n' ((Text.split '\n' text).map fun line =>
    if line.isEmpty then line else indentation ++ line)

def indentedText (indent : Indent) (levels : Nat) (text : String) : String :=
  String.ofList (indented (indent.text levels).toList text.toList)

/-- A line is indented by itself. -/
theorem indented_line (indentation : List Char) {line : List Char} (plain : '\n' ∉ line)
    (rest : List Char) :
    indented indentation (line ++ '\n' :: rest) =
      (if line.isEmpty then line else indentation ++ line) ++
        '\n' :: indented indentation rest := by
  unfold indented
  rw [Text.split_append_cons, Text.split_of_not_mem plain, List.singleton_append, List.map_cons]
  cases segments : Text.split '\n' rest with
  | nil => exact absurd segments (Text.split_ne_nil '\n' rest)
  | cons first others => rw [List.map_cons, Text.join]

/-- To be so many levels further in is to have the indentation of so many levels in front. -/
theorem text_add (indent : Indent) (levels level : Nat) :
    indent.text (levels + level) = indent.text levels ++ indent.text level := by
  rw [Indent.text, List.replicate_add, String.join_append, Indent.text, Indent.text]

theorem lineText_add (indent : Indent) (levels level : Nat) {text : String}
    (plain : '\n' ∉ text.toList) (rest : List Char) :
    indented (indent.text levels).toList ((lineText indent level text).toList ++ rest) =
      (lineText indent (levels + level) text).toList ++
        indented (indent.text levels).toList rest := by
  by_cases empty : text = ""
  · subst empty
    have ended : ∀ level, (lineText indent level "").toList = ['\n'] := by
      simp [lineText]
    simpa [ended] using indented_line (indent.text levels).toList List.not_mem_nil rest
  · have blank : '\n' ∉ (indent.text level).toList := by
      intro member
      rcases of_mem_indent indent level '\n' member with same | same <;> cases same
    have inside : '\n' ∉ (indent.text level).toList ++ text.toList := by
      simp [blank, plain]
    have content : ((indent.text level).toList ++ text.toList).isEmpty = false := by
      simp [empty]
    rw [toList_lineText indent level empty, toList_lineText indent (levels + level) empty,
      List.append_assoc, List.singleton_append, indented_line _ inside, content, text_add]
    simp

/-! ### The lines of fragments -/

/-- The lines that fragments add, each with its level. -/
def placedLines (level : Nat) (fragments : List Fragment) : List (Nat × String) :=
  (stretchesOfAll level fragments).flatMap fun stretch =>
    stretch.lines.map fun line => (stretch.level, line)

mutual

theorem stretches_add (levels level : Nat) (fragment : Fragment) :
    fragment.stretches (levels + level) =
      (fragment.stretches level).map fun stretch =>
        { stretch with level := levels + stretch.level } := by
  cases fragment with
  | line text => rfl
  | blank => rfl
  | block header body close =>
      simp [Fragment.stretches, Nat.add_assoc, stretchesOfAll_add levels (level + 1) body]
  | sequence parts => exact stretchesOfAll_add levels level parts
  | doc text => rfl

/-- At a deeper level all lines are that much deeper. -/
theorem stretchesOfAll_add (levels level : Nat) (fragments : List Fragment) :
    stretchesOfAll (levels + level) fragments =
      (stretchesOfAll level fragments).map fun stretch =>
        { stretch with level := levels + stretch.level } := by
  cases fragments with
  | nil => rfl
  | cons first rest =>
      simp [stretchesOfAll, stretches_add levels level first, stretchesOfAll_add levels level rest]

end

theorem placedLines_add (levels level : Nat) (fragments : List Fragment) :
    placedLines (levels + level) fragments =
      (placedLines level fragments).map fun line => (levels + line.1, line.2) := by
  unfold placedLines
  rw [stretchesOfAll_add, List.flatMap_map, List.map_flatMap]
  simp [Function.comp_def]

mutual

/-- The texts of a fragment that are not documentation. -/
def Fragment.lineTexts : Fragment → List String
  | .line text => [text]
  | .block header body close => header :: lineTextsOfAll body ++ close.toList
  | .sequence parts => lineTextsOfAll parts
  | _ => []

def lineTextsOfAll : List Fragment → List String
  | [] => []
  | first :: rest => first.lineTexts ++ lineTextsOfAll rest

end

/-- Every text but documentation stands on one line. -/
def Unbroken (fragments : List Fragment) : Prop :=
  ∀ text ∈ lineTextsOfAll fragments, '\n' ∉ text.toList

instance (fragments : List Fragment) : Decidable (Unbroken fragments) :=
  inferInstanceAs (Decidable (∀ text ∈ lineTextsOfAll fragments, '\n' ∉ text.toList))

theorem not_mem_of_mem_docLines {text line : String} (member : line ∈ docLines text) :
    '\n' ∉ line.toList := by
  unfold docLines at member
  split at member
  case isTrue short =>
    rw [List.mem_singleton.1 member]
    simp [Text.not_mem_trim_of_short short]
  case isFalse =>
    simp only [List.cons_append, List.mem_cons, List.mem_append, List.mem_map,
      List.not_mem_nil, or_false] at member
    rcases member with rfl | ⟨inner, inside, rfl⟩ | rfl
    · decide
    · have plain := Text.not_mem_of_mem_lines inside
      have trimmed : '\n' ∉ (Text.trimEnd inner).toList := by
        obtain ⟨padding, -, whole, -⟩ := Text.exists_dropTrailingBlanks inner.toList
        rw [whole] at plain
        rw [Text.trimEnd, String.toList_ofList]
        exact fun there => plain (List.mem_append_left padding there)
      unfold Page.docLine
      dsimp only
      split
      · decide
      · simp [trimmed]
    · decide

mutual

theorem plain_stretches (level : Nat) (fragment : Fragment)
    (unbroken : ∀ text ∈ fragment.lineTexts, '\n' ∉ text.toList) :
    ∀ stretch ∈ fragment.stretches level, ∀ line ∈ stretch.lines, '\n' ∉ line.toList := by
  cases fragment with
  | line text => simpa [Fragment.stretches, Fragment.lineTexts] using unbroken
  | blank => simp [Fragment.stretches]
  | block header body close =>
      simp only [Fragment.lineTexts, List.cons_append, List.forall_mem_cons,
        List.forall_mem_append] at unbroken
      have inner := plain_stretchesOfAll (level + 1) body unbroken.2.1
      simp only [Fragment.stretches, List.cons_append, List.forall_mem_cons,
        List.forall_mem_append]
      exact ⟨⟨unbroken.1, by simp⟩, inner, unbroken.2.2, by simp⟩
  | sequence parts => exact plain_stretchesOfAll level parts unbroken
  | doc text =>
      simp only [Fragment.stretches, List.forall_mem_cons]
      exact ⟨fun _ => not_mem_of_mem_docLines, by simp⟩

theorem plain_stretchesOfAll (level : Nat) (fragments : List Fragment)
    (unbroken : ∀ text ∈ lineTextsOfAll fragments, '\n' ∉ text.toList) :
    ∀ stretch ∈ stretchesOfAll level fragments, ∀ line ∈ stretch.lines, '\n' ∉ line.toList := by
  cases fragments with
  | nil => simp [stretchesOfAll]
  | cons first rest =>
      rw [lineTextsOfAll, List.forall_mem_append] at unbroken
      rw [stretchesOfAll, List.forall_mem_append]
      exact ⟨plain_stretches level first unbroken.1, plain_stretchesOfAll level rest unbroken.2⟩

end

theorem plain_placedLines (level : Nat) {fragments : List Fragment}
    (unbroken : Unbroken fragments) :
    ∀ line ∈ placedLines level fragments, '\n' ∉ line.2.toList := by
  intro line member
  obtain ⟨stretch, listed, inside⟩ := List.mem_flatMap.1 member
  obtain ⟨text, there, rfl⟩ := List.mem_map.1 inside
  exact plain_stretchesOfAll level fragments unbroken stretch listed text there

/-! ### Texts of fragments -/

def appended (indent : Indent) (level : Nat) (fragments : List Fragment) : String :=
  (Page.addAll ⟨indent, level, ""⟩ fragments).text

theorem appended_eq_stretchesText (indent : Indent) (level : Nat) (fragments : List Fragment) :
    appended indent level fragments = stretchesText indent (stretchesOfAll level fragments) := by
  rw [appended, Page.addAll_eq, Page.append, String.empty_append]

theorem toList_appended (indent : Indent) (level : Nat) (fragments : List Fragment) :
    (appended indent level fragments).toList =
      (placedLines level fragments).flatMap fun line =>
        (lineText indent line.1 line.2).toList := by
  rw [appended_eq_stretchesText, stretchesText, String.toList_join, List.flatMap_map, placedLines,
    List.flatMap_assoc]
  congr 1
  funext stretch
  rw [Stretch.text, linesText, String.toList_join, List.flatMap_map, List.flatMap_map]

/-- What is added further in is what is added, indented. -/
theorem appended_add (indent : Indent) (levels level : Nat) {fragments : List Fragment}
    (unbroken : Unbroken fragments) :
    appended indent (levels + level) fragments =
      indentedText indent levels (appended indent level fragments) := by
  have plain := plain_placedLines level unbroken
  rw [← String.toList_inj, indentedText, String.toList_ofList, toList_appended, toList_appended,
    placedLines_add, List.flatMap_map]
  generalize placedLines level fragments = lines at plain
  induction lines with
  | nil => rfl
  | cons first rest inductionHypothesis =>
      rw [List.forall_mem_cons] at plain
      rw [List.flatMap_cons, List.flatMap_cons, lineText_add indent levels first.1 plain.1,
        inductionHypothesis plain.2]

/-! ### Sequences -/

mutual

/-- A fragment with the parts of sequences in the place of the sequences. -/
def Fragment.flattened : Fragment → List Fragment
  | .block header body close => [.block header (flattenedAll body) close]
  | .sequence parts => flattenedAll parts
  | other => [other]

def flattenedAll : List Fragment → List Fragment
  | [] => []
  | first :: rest => first.flattened ++ flattenedAll rest

end

mutual

theorem addAll_flattened (page : Page) (fragment : Fragment) :
    page.addAll fragment.flattened = page.add fragment := by
  cases fragment with
  | line text => rfl
  | blank => rfl
  | block header body close =>
      simp [Fragment.flattened, Page.addAll, Page.add, addAll_flattenedAll _ body]
  | sequence parts => exact addAll_flattenedAll page parts
  | doc text => rfl

/-- Sequences are laid out as their parts are. -/
theorem addAll_flattenedAll (page : Page) (fragments : List Fragment) :
    page.addAll (flattenedAll fragments) = page.addAll fragments := by
  cases fragments with
  | nil => rfl
  | cons first rest =>
      rw [flattenedAll, Page.addAll_append, addAll_flattened page first,
        addAll_flattenedAll _ rest, Page.addAll]

end

/-! ### Composition -/

/-- Fragments are laid out on a page as they are alone, in portions, and further out. -/
structure Composes (page : Page) (fragments : List Fragment) : Prop where
  level : (page.addAll fragments).level = page.level
  indent : (page.addAll fragments).indent = page.indent
  appends : (page.addAll fragments).text =
    page.text ++ appended page.indent page.level fragments
  splits : ∀ first second, fragments = first ++ second →
    page.addAll fragments = (page.addAll first).addAll second
  flattens : page.addAll fragments = page.addAll (flattenedAll fragments)
  shifts : appended page.indent page.level fragments =
    indentedText page.indent page.level (appended page.indent 0 fragments)

/-- Layout is compositional: fragments leave the level as it was and only add text, in portions as
well as at once, with sequences or with their parts, and at every level the text of the first
level, with the indentation of the level before each line that is not empty. -/
theorem layout_composes {fragments : List Fragment} (unbroken : Unbroken fragments) (page : Page) :
    Composes page fragments where
  level := by rw [Page.addAll_eq, Page.append]
  indent := by rw [Page.addAll_eq, Page.append]
  appends := by rw [appended_eq_stretchesText, Page.addAll_eq, Page.append]
  splits := by
    intro first second parts
    rw [parts, Page.addAll_append]
  flattens := (addAll_flattenedAll page fragments).symm
  shifts := appended_add page.indent page.level 0 unbroken

/-- A class with documentation and a class in it, in the middle of a page. -/
theorem nested_layout_composes :
    let inner : Fragment := .sequence [.doc "One.\n\n Two. ", .block "class B \x7b" [.line ""] none]
    let fragments : List Fragment := [.doc "A", .block "class A \x7b" [inner, .blank] (some "\x7d")]
    let page : Page := ⟨.tab, 2, "package a;\n"⟩
    Unbroken fragments ∧ Composes page fragments ∧
      (page.addAll fragments).text =
        "package a;\n\t\t/** A */\n\t\tclass A \x7b\n\t\t\t/**\n\t\t\t * One.\n\t\t\t *\n" ++
          "\t\t\t *  Two.\n\t\t\t */\n\t\t\tclass B \x7b\n\n\n\t\t\x7d\n" := by
  intro inner fragments page
  have unbroken : Unbroken fragments := by decide
  exact ⟨unbroken, layout_composes unbroken page, by decide⟩

end BuilderSynthesis.Layout
