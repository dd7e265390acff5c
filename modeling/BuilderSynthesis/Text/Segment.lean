/-!
Contract: text as segments between separators.

`split` cuts at every occurrence of a separator, so a text with `n` separators
has `n + 1` segments, some perhaps empty. `join_split` says that putting the
separators back loses nothing.

Owns: the segments of a dotted name, its last segment and what stands before it,
and the lines of a text.
-/

namespace BuilderSynthesis.Text

def split (separator : Char) : List Char → List (List Char)
  | [] => [[]]
  | character :: rest =>
      if character = separator then
        [] :: split separator rest
      else
        match split separator rest with
        | [] => [[character]]
        | first :: others => (character :: first) :: others

theorem split_ne_nil (separator : Char) (text : List Char) : split separator text ≠ [] := by
  cases text with
  | nil => simp [split]
  | cons character rest =>
      simp only [split]
      split
      · simp
      · split <;> simp

def join (separator : Char) : List (List Char) → List Char
  | [] => []
  | [only] => only
  | first :: second :: others => first ++ separator :: join separator (second :: others)

/-- Cutting a text and joining the segments gives the text back. -/
theorem join_split (separator : Char) (text : List Char) :
    join separator (split separator text) = text := by
  induction text with
  | nil => simp [split, join]
  | cons character rest inductionHypothesis =>
      simp only [split]
      split
      case isTrue same =>
        subst same
        cases segments : split character rest with
        | nil => exact absurd segments (split_ne_nil character rest)
        | cons first others =>
            rw [segments] at inductionHypothesis
            simp [join, inductionHypothesis]
      case isFalse =>
        cases segments : split separator rest with
        | nil => exact absurd segments (split_ne_nil separator rest)
        | cons first others =>
            rw [segments] at inductionHypothesis
            cases others with
            | nil => simpa [join] using inductionHypothesis
            | cons second others => simpa [join] using inductionHypothesis

/-- The dot-separated segments of a name. -/
def dottedSegments (name : String) : List String :=
  (split '.' name.toList).map String.ofList

def afterLastDot (name : String) : String :=
  String.ofList ((split '.' name.toList).getLast?.getD [])

def beforeLastDot? (name : String) : Option String :=
  match (split '.' name.toList).dropLast with
  | [] => none
  | segments => some (String.ofList (join '.' segments))

def dropCarriageReturn (line : List Char) : List Char :=
  match line.getLast? with
  | some '\r' => line.dropLast
  | _ => line

/-- The lines between line feeds: each line that a line feed ends also loses one
carriage return before it, and nothing after the last line feed is no line. -/
def closedLines : List (List Char) → List (List Char)
  | [] => []
  | [last] => if last.isEmpty then [] else [last]
  | line :: next :: others => dropCarriageReturn line :: closedLines (next :: others)

def lines (text : String) : List String :=
  (closedLines (split '\n' text.toList)).map String.ofList

def joinWith (separator : String) (texts : List String) : String :=
  String.intercalate separator texts

/-- The text after a leading part, if the text starts with that part. -/
def dropLeading? : List Char → List Char → Option (List Char)
  | [], text => some text
  | _ :: _, [] => none
  | expected :: pattern, character :: rest =>
      if expected = character then dropLeading? pattern rest else none

/-- The text before a closing part, if the text ends with that part. -/
def dropTrailing? (pattern text : List Char) : Option (List Char) :=
  (dropLeading? pattern.reverse text.reverse).map List.reverse

end BuilderSynthesis.Text
