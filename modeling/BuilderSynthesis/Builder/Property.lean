import BuilderSynthesis.Code.TypeRef
import BuilderSynthesis.Schema.DataClass

/-!
Contract: what a builder sets, and the names of its members.

Every field of a class that is not static is a property. Its setter is named after
the stem of the field, so that two fields have one setter name only if they differ
in the case of their first letter at most.
-/

namespace BuilderSynthesis.Builder

/-- The method that hands the values of a builder to a product. -/
def initName : String := "init"

/-- The parameter of `init`. -/
def productName : String := "product"

/-- The type parameter of `init`. -/
def productTypeName : String := "P"

/-- The method of a builder that makes a product. -/
def buildName : String := "build"

/-- The method of a product that makes a builder. -/
def factoryName : String := "builder"

/-- The name of the setter of a field: `withFirstName` for `firstName`. -/
def setterName (field : String) : String :=
  "with" ++ Schema.propertyStem field

structure Property where
  /-- The name of the field of the product and of that of the builder. -/
  name : String
  setter : String
  type : Code.TypeRef
  cardinality : Schema.Cardinality
  doc : Option String := none
deriving DecidableEq, Repr, Inhabited

namespace Property

def ofField (field : Schema.Field) : Property :=
  ⟨field.name, setterName field.name, .ofField field.element field.cardinality,
    field.cardinality, field.doc⟩

def isArray (property : Property) : Bool :=
  property.cardinality == .array

def isList (property : Property) : Bool :=
  property.cardinality == .list

def setterDoc (property : Property) : String :=
  match property.doc with
  | some doc => "Sets \x7b@code " ++ property.name ++ "\x7d: " ++ doc
  | none => "Sets \x7b@code " ++ property.name ++ "\x7d."

end Property

def ownProperties (dataClass : Schema.DataClass) : List Property :=
  dataClass.instanceFields.map Property.ofField

end BuilderSynthesis.Builder
