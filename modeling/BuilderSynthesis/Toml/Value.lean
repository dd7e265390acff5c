/-!
Contract: what a TOML document holds.

Owns:
- spans, which count bytes of the UTF-8 form of the document;
- values, with the span of each string and the way in which each table came
  about, which decides what may still be added to it.

Does not own: what a document means to the program that reads it.
-/

namespace BuilderSynthesis.Toml

/-- A half-open range of byte offsets. -/
structure Span where
  start : Nat
  stop : Nat
deriving DecidableEq, Repr, Inhabited

inductive Origin where
  /-- By a header of its own, or as the document itself. -/
  | header
  /-- By a header of a table inside it. -/
  | implied
  /-- By a dotted key. -/
  | dotted
  /-- By a pair of braces. -/
  | inline
deriving DecidableEq, Repr, Inhabited

inductive Value where
  | string (text : String) (span : Span)
  /-- An integer; one whose digits are none of its base has no value. -/
  | integer (value : Option Int)
  /-- A floating-point number; `isFinite` fails for digits that exceed every finite double. -/
  | float (isFinite : Bool)
  | boolean (value : Bool)
  | dateTime
  | array (items : List Value)
  | table (origin : Origin) (entries : List (String × Value))
  /-- An array that headers in double brackets build, table by table. -/
  | tableArray (tables : List (List (String × Value)))
deriving Repr, Inhabited

/-- The entries of a table, in the order in which they were added. -/
abbrev Entries := List (String × Value)

abbrev Reader := String → Option Entries

end BuilderSynthesis.Toml
