import BuilderSynthesis.Code.Expression

/-!
Contract: methods, and when two of them have the same signature.

Two methods of one type conflict if they agree in name and in parameter types
after each type parameter of the method has been replaced by its first bound.
`signature` is the text of just that.
-/

namespace BuilderSynthesis.Code

inductive Access where
  | everyone
  /-- Subclasses and the package. -/
  | subclasses
  | package
  | owner
deriving DecidableEq, Repr, Inhabited

namespace Access

def isPublic (access : Access) : Bool :=
  access == .everyone

/-- Whether subclasses outside the package can see it. -/
def isInherited (access : Access) : Bool :=
  access == .everyone || access == .subclasses

end Access

structure TypeParameter where
  name : String
  /-- The types whose subtypes it stands for. -/
  bounds : List TypeRef := []
deriving DecidableEq, Repr, Inhabited

/-- The type that a type parameter is compared as: its first bound. -/
def TypeParameter.erasure (parameter : TypeParameter) : TypeRef :=
  parameter.bounds.head?.getD (.named objectType)

structure Parameter where
  name : String
  /-- The type; an array if any number of arguments is taken. -/
  type : TypeRef
  isVariadic : Bool := false
  isFinal : Bool := true
deriving DecidableEq, Repr, Inhabited

/-- A parameter that takes any number of elements. -/
def Parameter.variadic (name : String) (element : TypeRef) : Parameter :=
  { name := name, type := .array element, isVariadic := true }

structure Method where
  name : String
  doc : Option String := none
  parameters : List Parameter := []
  /-- The type of the result, if there is one. -/
  returns : Option TypeRef := none
  body : List Statement := []
  access : Access := .everyone
  typeParameters : List TypeParameter := []
  isStatic : Bool := false
  annotations : List String := []
deriving Repr, Inhabited

namespace Method

def isOverride (method : Method) : Bool :=
  method.annotations.contains "Override"

/-- Whether the last parameter takes any number of arguments. -/
def isVariadic (method : Method) : Bool :=
  match method.parameters.getLast? with
  | none => false
  | some parameter => parameter.isVariadic

def typeParameter? (method : Method) (name : String) : Option TypeParameter :=
  method.typeParameters.find? (fun parameter => parameter.name == name)

/-- A type with the type parameters of a method replaced by their erasures. -/
def erase (method : Method) : TypeRef → TypeRef
  | .var parameter =>
      match method.typeParameter? parameter with
      | some found => found.erasure
      | none => .var parameter
  | .array element => .array (method.erase element)
  | .list element => .list (method.erase element)
  | other => other

def erasedParameters (method : Method) : List TypeRef :=
  method.parameters.map (fun parameter => method.erase parameter.type)

/-- The text of the name and the erased parameter types. -/
def signature (method : Method) : String :=
  method.name ++ "(" ++
    String.intercalate ", " (method.erasedParameters.map TypeRef.text) ++ ")"

def sameSignature (left right : Method) : Bool :=
  left.name == right.name && left.erasedParameters == right.erasedParameters

end Method

end BuilderSynthesis.Code
