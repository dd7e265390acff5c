import BuilderSynthesis.Schema.Location
import BuilderSynthesis.Toml.Quotation
import BuilderSynthesis.Toml.Scalar
import BuilderSynthesis.Toml.Table

/-!
Contract: the lines of a document as expressions.

An expression is a key with a value, a header, or a header in double brackets.
The readers take the text that is left and give the text that is left after
them. Where they repeat a part, the number of characters bounds the repetitions;
the depth of brackets and braces inside each other has a bound of its own.

Does not own: how expressions add up to a table.
-/

namespace BuilderSynthesis.Toml

def isBareKeyCharacter (character : Char) : Bool :=
  character.isAlphanum || character == '_' || character == '-'

def readKey (text : List Char) : Option (String × List Char) :=
  match text.takeWhile isBareKeyCharacter with
  | [] => (readQuotedLine text).map (fun result => (String.ofList result.1, result.2))
  | bare => some (String.ofList bare, text.dropWhile isBareKeyCharacter)

/-- How deep brackets and braces may stand inside each other, and how many keys a dotted
path may have. -/
def maximalDepth : Nat := 80

/-- The keys of a dotted path at the front, at most the given number, and what follows the
blanks after them. -/
def readPath : Nat → List Char → Option (List String × List Char)
  | 0, _ => none
  | keys + 1, text => do
      let (key, text) ← readKey text
      match skipBlanks text with
      | '.' :: rest => do
          let (path, text) ← readPath keys (skipBlanks rest)
          return (key :: path, text)
      | text => return ([key], text)

/-- The keys at the front, all but the last apart from the last. -/
def readKeys (text : List Char) : Option (List String × String × List Char) := do
  let (path, text) ← readPath maximalDepth text
  let last ← path.getLast?
  return (path.dropLast, last, text)

abbrev ValueReader := List Char → Option (Value × List Char)

/-- A key, an equals sign and a value. What may stand around the equals sign is skipped by
the function given for it. -/
def readBinding (skip : List Char → Option (List Char)) (readValue : ValueReader)
    (text : List Char) : Option (List String × String × Value × List Char) := do
  let (path, key, text) ← readKeys text
  match ← skip text with
  | '=' :: rest => do
      let (value, text) ← readValue (← skip rest)
      return (path, key, value, text)
  | _ => none

def readItems (readValue : ValueReader) : Nat → List Char → Option (List Value × List Char)
  | 0, _ => none
  | steps + 1, text => do
      match ← skipGap false text with
      | ']' :: rest => return ([], rest)
      | text => do
          let (item, text) ← readValue text
          match ← skipGap false text with
          | ',' :: rest => do
              let (items, text) ← readItems readValue steps rest
              return (item :: items, text)
          | ']' :: rest => return ([item], rest)
          | _ => none

/-- The entries up to a closing brace, added to those read before. -/
def readEntries (readValue : ValueReader) :
    Nat → Entries → List Char → Option (Entries × List Char)
  | 0, _, _ => none
  | steps + 1, entries, text => do
      match ← skipGap false text with
      | '\x7d' :: rest => return (entries, rest)
      | text => do
          let (path, key, value, text) ← readBinding (skipGap false) readValue text
          let entries ← insertKey path key value .inline entries
          match ← skipGap false text with
          | ',' :: rest => readEntries readValue steps entries rest
          | '\x7d' :: rest => return (entries, rest)
          | _ => none

/-- A quoted or unquoted value at the front. The total length of the document gives the
span of a text. -/
def readScalar (total : Nat) (text : List Char) : Option (Value × List Char) :=
  match text with
  | '"' :: _ | '\'' :: _ =>
      (readQuoted text).map (fun result =>
        (.string (String.ofList result.1)
          ⟨total - Schema.byteLength text, total - Schema.byteLength result.2⟩, result.2))
  | _ =>
      (readWord? (takeWord [] text).1).map (fun value => (value, (takeWord [] text).2))

/-- A value at the front, with at most the given depth of brackets and braces. -/
def readValue (total : Nat) : Nat → ValueReader
  | 0, text => readScalar total text
  | depth + 1, text =>
      match text with
      | '[' :: rest =>
          (readItems (readValue total depth) (rest.length + 1) rest).map (fun result =>
            (.array result.1, result.2))
      | '\x7b' :: rest =>
          (readEntries (readValue total depth) (rest.length + 1) [] rest).map (fun result =>
            (.table .inline result.1, result.2))
      | _ => readScalar total text

inductive Expression where
  | binding (path : List String) (key : String) (value : Value)
  | header (path : List String) (key : String)
  | arrayHeader (path : List String) (key : String)
deriving Repr

def readHeader (text : List Char) : Option (Expression × List Char) := do
  let (path, key, text) ← readKeys (skipBlanks text)
  match text with
  | ']' :: rest => return (.header path key, rest)
  | _ => none

def readArrayHeader (text : List Char) : Option (Expression × List Char) := do
  let (path, key, text) ← readKeys (skipBlanks text)
  match text with
  | ']' :: ']' :: rest => return (.arrayHeader path key, rest)
  | _ => none

/-- The expression at the front, without the end of its line. -/
def readExpression (total : Nat) (text : List Char) : Option (Expression × List Char) :=
  match text with
  | '[' :: '[' :: rest => readArrayHeader rest
  | '[' :: rest => readHeader rest
  | _ =>
      (readBinding (some ∘ skipBlanks) (readValue total maximalDepth) text).map (fun result =>
        (.binding result.1 result.2.1 result.2.2.1, result.2.2.2))

def readExpressions (total : Nat) : Nat → List Char → Option (List Expression)
  | 0, _ => none
  | steps + 1, text => do
      match ← skipGap false text with
      | [] => return []
      | text => do
          let (expression, text) ← readExpression total text
          let expressions ← readExpressions total steps (← skipLineEnd false text)
          return expression :: expressions

end BuilderSynthesis.Toml
