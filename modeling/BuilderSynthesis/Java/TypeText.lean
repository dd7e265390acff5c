import BuilderSynthesis.Code.TypeRef
import BuilderSynthesis.Text.Segment
import BuilderSynthesis.Text.Uppercase

/-!
Contract: how types are written in a source file.

A class of the package of the file is written without the package. A primitive
type as the element of a list is written as the class that boxes it.
-/

namespace BuilderSynthesis.Java

open BuilderSynthesis.Code (TypeRef)
open BuilderSynthesis.Schema (Primitive)

def primitiveText : Primitive → String
  | .string => "String"
  | .int => "int"
  | .long => "long"
  | .float => "float"
  | .double => "double"
  | .bool => "boolean"
  | .char => "char"
  | .byte => "byte"

def boxedText : Primitive → String
  | .string => "String"
  | .int => "Integer"
  | .long => "Long"
  | .float => "Float"
  | .double => "Double"
  | .bool => "Boolean"
  | .char => "Character"
  | .byte => "Byte"

/-- What follows a package and a dot in a name, if it starts with an upper-case letter. -/
def withinPackage? (package name : List Char) : Option (List Char) :=
  match (Text.dropLeading? package name).bind (Text.dropLeading? ['.']) with
  | some (first :: rest) => if Text.isUpperCase first then some (first :: rest) else none
  | _ => none

def classText (package : Option String) (name : String) : String :=
  match package with
  | none => name
  | some package =>
      match withinPackage? package.toList name.toList with
      | some inner => String.ofList inner
      | none => name

def typeText (package : Option String) : TypeRef → String
  | .primitive kind => primitiveText kind
  | .array element => typeText package element ++ "[]"
  | .list (.primitive kind) => "List<" ++ boxedText kind ++ ">"
  | .list element => "List<" ++ typeText package element ++ ">"
  | .named className => classText package className
  | .var parameter => parameter
  | .unit => "void"

end BuilderSynthesis.Java
