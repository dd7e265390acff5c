/-!
Contract: where in a source text something stands.

Offsets count bytes of the UTF-8 form, lines and columns count from one, and a
column counts characters. A line feed ends its line and belongs to it.
-/

namespace BuilderSynthesis.Schema

/-- A place in a source text, by line and column. -/
structure Position where
  line : Nat
  column : Nat
deriving DecidableEq, Repr, Inhabited

def Position.start : Position :=
  ⟨1, 1⟩

def Position.advance (position : Position) (character : Char) : Position :=
  if character = '\n' then
    ⟨position.line + 1, 1⟩
  else
    ⟨position.line, position.column + 1⟩

/-- The characters that lie wholly within the first bytes of a text. -/
def takeBytes : Nat → List Char → List Char
  | _, [] => []
  | bytes, character :: rest =>
      if character.utf8Size ≤ bytes then
        character :: takeBytes (bytes - character.utf8Size) rest
      else
        []

def byteLength : List Char → Nat
  | [] => 0
  | character :: rest => character.utf8Size + byteLength rest

/-- A character boundary cuts the text where it says. -/
theorem takeBytes_append (before after : List Char) :
    takeBytes (byteLength before) (before ++ after) = before := by
  induction before with
  | nil => cases after with
    | nil => simp [takeBytes]
    | cons character rest =>
        have positive := character.utf8Size_pos
        simp [takeBytes, byteLength]
        omega
  | cons character rest inductionHypothesis =>
      simp only [byteLength, List.cons_append, takeBytes] at *
      simp [inductionHypothesis]

/-- The place of a byte offset; an offset past the end is the end. -/
def Position.ofOffset (source : String) (offset : Nat) : Position :=
  (takeBytes offset source.toList).foldl Position.advance .start

structure Location where
  file : String
  line : Nat
  column : Nat
deriving DecidableEq, Repr, Inhabited

def Location.ofOffset (file source : String) (offset : Nat) : Location :=
  let position := Position.ofOffset source offset
  ⟨file, position.line, position.column⟩

/-- The text of a location, such as `schema.toml:4:8`. -/
def Location.text (location : Location) : String :=
  location.file ++ ":" ++ toString location.line ++ ":" ++ toString location.column

end BuilderSynthesis.Schema
