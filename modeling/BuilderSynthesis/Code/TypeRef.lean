import BuilderSynthesis.Schema.Element

/-!
Contract: types as declarations mention them.

Classes are mentioned by qualified name; a nested class is named after its outer
class and a dot. The text of a type is the one that signatures and messages use.

Does not own: how a type is written in a source file.
-/

namespace BuilderSynthesis.Code

open BuilderSynthesis.Schema (Cardinality Element Primitive)

inductive TypeRef where
  | primitive (kind : Primitive)
  | array (element : TypeRef)
  | list (element : TypeRef)
  /-- A class, by its qualified name. -/
  | named (className : String)
  /-- A type parameter of the method that mentions it. -/
  | var (parameter : String)
  /-- No value. -/
  | unit
deriving DecidableEq, Repr, Inhabited

namespace TypeRef

def ofElement : Element → TypeRef
  | .primitive kind => .primitive kind
  | .named className => .named className

def ofField (element : Element) : Cardinality → TypeRef
  | .single => ofElement element
  | .array => .array (ofElement element)
  | .list => .list (ofElement element)

def element? : TypeRef → Option TypeRef
  | .array element => some element
  | .list element => some element
  | _ => none

def isReference : TypeRef → Bool
  | .primitive kind => kind == .string
  | .unit => false
  | _ => true

def className? : TypeRef → Option String
  | .named className => some className
  | _ => none

def text : TypeRef → String
  | .primitive kind => kind.name
  | .array element => element.text ++ "[]"
  | .list element => "list<" ++ element.text ++ ">"
  | .named className => className
  | .var parameter => parameter
  | .unit => "void"

end TypeRef

/-- The class that every class extends, and the bound of a type parameter without one. -/
def objectType : String := "java.lang.Object"

end BuilderSynthesis.Code
