import BuilderSynthesis.Text.Blank
import BuilderSynthesis.Text.Segment

/-!
Contract: source text as nested fragments, and how they are laid out.

A page is text together with the level of indentation at which the next line goes.
A block indents its body by one level. A line that is empty gets no indentation.
A documentation comment of at most one line is written on one line, a longer one
line by line between its delimiters.
-/

namespace BuilderSynthesis.Layout

inductive Indent where
  | spaces (width : Nat)
  | tab
deriving DecidableEq, Repr

namespace Indent

def standard : Indent := .spaces 4

def unit : Indent → String
  | .spaces width => String.ofList (List.replicate width ' ')
  | .tab => "\t"

def text (indent : Indent) (level : Nat) : String :=
  String.join (List.replicate level indent.unit)

end Indent

/-- A part of a source text. -/
inductive Fragment where
  | line (text : String)
  | blank
  /-- A header, an indented body, and a line that closes it. -/
  | block (header : String) (body : List Fragment) (close : Option String)
  | sequence (parts : List Fragment)
  | doc (text : String)
deriving Repr, Inhabited

/-- Text, and the level of indentation of what comes next. -/
structure Page where
  indent : Indent := .standard
  level : Nat := 0
  text : String := ""
deriving Repr

namespace Page

def line (page : Page) (text : String) : Page :=
  if text.isEmpty then
    { page with text := page.text ++ "\n" }
  else
    { page with text := page.text ++ page.indent.text page.level ++ text ++ "\n" }

def blank (page : Page) : Page :=
  { page with text := page.text ++ "\n" }

/-- Indents what comes next by one more level. -/
def deeper (page : Page) : Page :=
  { page with level := page.level + 1 }

/-- Indents what comes next by one level less, if there is one. -/
def shallower (page : Page) : Page :=
  { page with level := page.level - 1 }

/-- A line inside a documentation comment of several lines. -/
def docLine (text : String) : String :=
  let trimmed := Text.trimEnd text
  if trimmed.isEmpty then " *" else " * " ++ trimmed

def doc (page : Page) (text : String) : Page :=
  let lines := Text.lines text
  if lines.length ≤ 1 then
    page.line ("/** " ++ Text.trim text ++ " */")
  else
    (lines.foldl (fun page text => page.line (docLine text)) (page.line "/**")).line " */"

mutual

def add (page : Page) : Fragment → Page
  | .line text => page.line text
  | .blank => page.blank
  | .block header body close =>
      let inner := ((page.line header).deeper.addAll body).shallower
      match close with
      | none => inner
      | some text => inner.line text
  | .sequence parts => page.addAll parts
  | .doc text => page.doc text

def addAll (page : Page) : List Fragment → Page
  | [] => page
  | first :: rest => (page.add first).addAll rest

end

/-- Fragments can be added in any number of portions. -/
theorem addAll_append (page : Page) (first second : List Fragment) :
    page.addAll (first ++ second) = (page.addAll first).addAll second := by
  induction first generalizing page with
  | nil => simp [addAll]
  | cons fragment rest inductionHypothesis => simp [addAll, inductionHypothesis]

end Page

/-- The text of fragments with the standard indentation. -/
def render (fragments : List Fragment) : String :=
  (({} : Page).addAll fragments).text

end BuilderSynthesis.Layout
