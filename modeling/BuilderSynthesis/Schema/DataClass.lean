import BuilderSynthesis.Schema.Element
import BuilderSynthesis.Schema.Location
import BuilderSynthesis.Text.Segment
import BuilderSynthesis.Text.Uppercase

/-!
Contract: a data class and its fields, as a schema describes them.

A class lists only the fields that it declares itself. A field that is not
static is a property of the class; `propertyStem` is what accessor names for it
are made from.
-/

namespace BuilderSynthesis.Schema

abbrev ClassId := Nat

structure Field where
  name : String
  /-- The type of the field, or of one element of it. -/
  element : Element
  cardinality : Cardinality := .single
  isStatic : Bool := false
  doc : Option String := none
deriving DecidableEq, Repr, Inhabited

def Field.isInstance (field : Field) : Bool :=
  !field.isStatic

structure DataClass where
  /-- The qualified name. -/
  name : String
  superclass : Option ClassId := none
  isAbstract : Bool := false
  /-- The fields of the class itself, in the order of their declaration. -/
  fields : List Field := []
  location : Option Location := none
  doc : Option String := none
  /-- Nested types that the class has already. -/
  nested : List String := []
deriving DecidableEq, Repr, Inhabited

namespace DataClass

def simpleName (dataClass : DataClass) : String :=
  Text.afterLastDot dataClass.name

def package? (dataClass : DataClass) : Option String :=
  Text.beforeLastDot? dataClass.name

def instanceFields (dataClass : DataClass) : List Field :=
  dataClass.fields.filter Field.isInstance

end DataClass

/-- The name of a field with its first character in upper case: `firstName` gives
`FirstName`. Fields with one stem would have one setter. -/
def propertyStem (name : String) : String :=
  String.ofList (Text.capitalized name.toList)

end BuilderSynthesis.Schema
