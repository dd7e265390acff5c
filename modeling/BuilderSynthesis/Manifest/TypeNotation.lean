import BuilderSynthesis.Schema.Element
import BuilderSynthesis.Text.Blank
import BuilderSynthesis.Text.Segment

/-!
Contract: the notation of field types in a manifest.

`T`, `T[]` and `list<T>` say one element, an array and a list of `T`, with blanks
allowed around the whole and around `T`. Containers do not nest.
-/

namespace BuilderSynthesis.Manifest

open BuilderSynthesis.Schema (Cardinality)

/-- A field type that was read: the element as it was written, and the cardinality. -/
structure TypeNotation where
  element : String
  cardinality : Cardinality
deriving DecidableEq, Repr

namespace TypeNotation

/-- Characters that cannot stand in an element. -/
def isSeparator (character : Char) : Bool :=
  character == '[' || character == ']' || character == '<' || character == '>' ||
    character == ' '

def unwrap (notated : List Char) : List Char × Cardinality :=
  match Text.dropTrailing? ['[', ']'] notated with
  | some inner => (Text.trimBlanks inner, .array)
  | none =>
      match (Text.dropLeading? ['l', 'i', 's', 't', '<'] notated).bind
          (Text.dropTrailing? ['>']) with
      | some inner => (Text.trimBlanks inner, .list)
      | none => (notated, .single)

/-- Reads a notation; an element that is empty or holds a separator is refused. -/
def read? (text : String) : Option TypeNotation :=
  let (element, cardinality) := unwrap (Text.trimBlanks text.toList)
  if element.isEmpty || element.any isSeparator then
    none
  else
    some ⟨String.ofList element, cardinality⟩

end TypeNotation

end BuilderSynthesis.Manifest
