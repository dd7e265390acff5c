import BuilderSynthesis.Json.Value
import BuilderSynthesis.Schema.Hierarchy

/-!
Contract: a hierarchy as a JSON value.

Superclasses are written by position; a primitive element is an object with the
key `primitive`, a class element one with the key `named`.
-/

namespace BuilderSynthesis.Schema

open BuilderSynthesis.Json (Value)

/-- An element type, under the key that says whether it is a class. -/
def Element.json : Element → Value
  | .primitive kind => .object [("primitive", .string kind.name)]
  | .named className => .object [("named", .string className)]

/-- A field; a cardinality is written by its name. -/
def Field.json (field : Field) : Value :=
  .object [
    ("name", .string field.name),
    ("ty", field.element.json),
    ("cardinality", .string field.cardinality.name),
    ("is_static", .bool field.isStatic),
    ("doc", Value.ofText? field.doc)]

def Location.json (location : Location) : Value :=
  .object [
    ("file", .string location.file),
    ("line", .number location.line),
    ("column", .number location.column)]

def DataClass.json (dataClass : DataClass) : Value :=
  .object [
    ("name", .string dataClass.name),
    ("superclass", Value.ofNat? dataClass.superclass),
    ("is_abstract", .bool dataClass.isAbstract),
    ("fields", .array (dataClass.fields.map Field.json)),
    ("location", match dataClass.location with
      | none => .null
      | some location => location.json),
    ("doc", Value.ofText? dataClass.doc),
    ("nested", .array (dataClass.nested.map Value.string))]

/-- The classes of a hierarchy, in the order of their declaration. -/
def Hierarchy.json (hierarchy : Hierarchy) : Value :=
  .object [("classes", .array (hierarchy.classes.map DataClass.json))]

end BuilderSynthesis.Schema
