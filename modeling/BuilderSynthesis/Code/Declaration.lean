import BuilderSynthesis.Code.Method
import BuilderSynthesis.Keyed

/-!
Contract: types and fields as they are declared.
-/

namespace BuilderSynthesis.Code

abbrev TypeId := Nat

/-- What is declared of a type besides its members. -/
structure Header where
  /-- The simple name. -/
  name : String
  doc : Option String := none
  access : Access := .everyone
  /-- Whether a nested type has no enclosing instance. -/
  isStatic : Bool := false
  isAbstract : Bool := false
deriving DecidableEq, Repr, Inhabited

structure Field where
  name : String
  type : TypeRef
  doc : Option String := none
  access : Access := .owner
  isStatic : Bool := false
  isFinal : Bool := false
  /-- The value that the field starts with, if not the default of its type. -/
  initializer : Option Expression := none
deriving Repr, Inhabited

structure Declaration where
  header : Header
  /-- The qualified name; that of a nested type goes on from the outer type after a dot. -/
  qualifiedName : String
  /-- The package of the top-level type. -/
  package : Option String := none
  outer : Option TypeId := none
  superclass : Option TypeId := none
  fields : List Field := []
  methods : List Method := []
  /-- The nested types under their simple names, in the order of their declaration. -/
  nested : List (String × TypeId) := []
deriving Repr, Inhabited

namespace Declaration

def name (declaration : Declaration) : String :=
  declaration.header.name

def field? (declaration : Declaration) (name : String) : Option Field :=
  declaration.fields.find? (fun field => field.name == name)

/-- The methods with a name, in the order of their declaration. -/
def methodsNamed (declaration : Declaration) (name : String) : List Method :=
  declaration.methods.filter (fun method => method.name == name)

def isTopLevel (declaration : Declaration) : Bool :=
  declaration.outer.isNone

def nested? (declaration : Declaration) (name : String) : Option TypeId :=
  Keyed.value? declaration.nested name

end Declaration

end BuilderSynthesis.Code
