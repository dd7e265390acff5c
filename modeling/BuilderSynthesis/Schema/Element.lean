/-!
Contract: what a field of a data class holds.

A field has an element type, which is a primitive or a class given by name, and
a cardinality: one element, an array of them, or a list of them. `ofName?_name`
says that the schema name of a primitive determines it.

Does not own: the spelling of cardinalities in a manifest.
-/

namespace BuilderSynthesis.Schema

/-- Value types that are no classes. -/
inductive Primitive where
  | string
  | int
  | long
  | float
  | double
  | bool
  | char
  | byte
deriving DecidableEq, Repr, Inhabited

namespace Primitive

def all : List Primitive :=
  [.string, .int, .long, .float, .double, .bool, .char, .byte]

def name : Primitive → String
  | .string => "string"
  | .int => "int"
  | .long => "long"
  | .float => "float"
  | .double => "double"
  | .bool => "bool"
  | .char => "char"
  | .byte => "byte"

def ofName? (name : String) : Option Primitive :=
  all.find? (fun primitive => primitive.name == name)

theorem mem_all (primitive : Primitive) : primitive ∈ all := by
  cases primitive <;> simp [all]

theorem ofName?_name (primitive : Primitive) : ofName? primitive.name = some primitive := by
  cases primitive <;> decide

end Primitive

inductive Element where
  | primitive (kind : Primitive)
  /-- A class, by its qualified name. -/
  | named (className : String)
deriving DecidableEq, Repr, Inhabited

def Element.text : Element → String
  | .primitive kind => kind.name
  | .named className => className

/-- How many elements a field holds. -/
inductive Cardinality where
  /-- Exactly one element. -/
  | single
  /-- Any number of elements, set together. -/
  | array
  /-- A sequence that can grow. -/
  | list
deriving DecidableEq, Repr, Inhabited

def Cardinality.name : Cardinality → String
  | .single => "single"
  | .array => "array"
  | .list => "list"

end BuilderSynthesis.Schema
