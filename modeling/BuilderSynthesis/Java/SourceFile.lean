import BuilderSynthesis.Code.Model
import BuilderSynthesis.Files.Path
import BuilderSynthesis.Java.ExpressionText
import BuilderSynthesis.Java.Identifier
import BuilderSynthesis.Layout.Fragment

/-!
Contract: the source files of declared types.

Every top-level type has a file, at the path that its qualified name says; nested
types are written inside their outer type after its fields and methods. A file
imports the classes for lists that its text mentions.
-/

namespace BuilderSynthesis.Java

open BuilderSynthesis.Code (Access Declaration Expression Model TypeId TypeRef)
open BuilderSynthesis.Files (TextFile)
open BuilderSynthesis.Layout (Fragment Page)

/-- The modifiers of a declaration, each followed by a blank. -/
def modifiers (access : Access) (isStatic : Bool) : String :=
  (match access with
    | .everyone => "public "
    | .subclasses => "protected "
    | .package => ""
    | .owner => "private ") ++
    (if isStatic then "static " else "")

def docFragments (doc : Option String) : List Fragment :=
  (doc.map Fragment.doc).toList

def fieldText (package : Option String) (field : Code.Field) : String :=
  modifiers field.access field.isStatic ++ (if field.isFinal then "final " else "") ++
    typeText package field.type ++ " " ++ field.name ++
    (match field.initializer with
      | some value => " = " ++ expressionText package value
      | none => "") ++ ";"

def fieldFragments (package : Option String) (field : Code.Field) : List Fragment :=
  docFragments field.doc ++ [.line (fieldText package field)]

def parameterText (package : Option String) (parameter : Code.Parameter) : String :=
  (if parameter.isFinal then "final " else "") ++
    (match parameter.type, parameter.isVariadic with
      | .array element, true => typeText package element ++ "..."
      | type, _ => typeText package type) ++
    " " ++ parameter.name

def typeParameterText (package : Option String) (parameter : Code.TypeParameter) : String :=
  if parameter.bounds.isEmpty then
    parameter.name
  else
    parameter.name ++ " extends " ++
      Text.joinWith " & " (parameter.bounds.map (typeText package))

def methodHeader (package : Option String) (method : Code.Method) : String :=
  modifiers method.access method.isStatic ++
    (if method.typeParameters.isEmpty then
      ""
    else
      "<" ++ Text.joinWith ", " (method.typeParameters.map (typeParameterText package)) ++
        "> ") ++
    (match method.returns with
      | some type => typeText package type
      | none => "void") ++
    " " ++ method.name ++ "(" ++
    Text.joinWith ", " (method.parameters.map (parameterText package)) ++ ") \x7b"

def methodFragments (package : Option String) (method : Code.Method) : List Fragment :=
  docFragments method.doc ++
    method.annotations.map (fun annotation => Fragment.line ("@" ++ annotation)) ++
    [.block (methodHeader package method)
      (method.body.map (fun statement => Fragment.line (statementText package statement)))
      (some "\x7d")]

def classHeader (model : Model) (package : Option String) (declaration : Declaration) :
    String :=
  modifiers declaration.header.access declaration.header.isStatic ++
    (if declaration.header.isAbstract then "abstract " else "") ++ "class " ++
    declaration.header.name ++
    (match declaration.superclass with
      | some superclass => " extends " ++ typeText package (model.typeRef superclass)
      | none => "") ++ " \x7b"

/-- Groups of fragments, with an empty line between neighbours. -/
def separated : List (List Fragment) → List Fragment
  | [] => []
  | [only] => only
  | first :: second :: rest => first ++ Fragment.blank :: separated (second :: rest)

/-- A class with the types nested in it. A nested type comes after its outer type in the
model, so the number of types bounds the nesting. -/
def classFragments (model : Model) (package : Option String) :
    Nat → TypeId → List Fragment
  | 0, _ => []
  | levels + 1, id =>
      match model.get? id with
      | none => []
      | some declaration =>
          let fields :=
            if declaration.fields.isEmpty then
              []
            else
              [declaration.fields.flatMap (fieldFragments package)]
          let methods := declaration.methods.map (methodFragments package)
          let nested := declaration.nested.map (fun entry =>
            classFragments model package levels entry.2)
          docFragments declaration.header.doc ++
            [.block (classHeader model package declaration)
              (separated (fields ++ methods ++ nested)) (some "\x7d")]

def nestedTypes (model : Model) : Nat → TypeId → List Declaration
  | 0, _ => []
  | levels + 1, id =>
      match model.get? id with
      | none => []
      | some declaration =>
          declaration :: declaration.nested.flatMap (fun entry =>
            nestedTypes model levels entry.2)

def mentionsList : TypeRef → Bool
  | .list _ => true
  | .array element => mentionsList element
  | _ => false

def mentionedTypes (declaration : Declaration) : List TypeRef :=
  declaration.fields.map Code.Field.type ++
    declaration.methods.flatMap (fun method =>
      method.parameters.map Code.Parameter.type ++ method.returns.toList ++
        method.typeParameters.flatMap Code.TypeParameter.bounds)

def bodyExpressions (declaration : Declaration) : List Expression :=
  declaration.methods.flatMap (fun method => method.body.flatMap Code.Statement.within)

def isListCopy : Expression → Bool
  | .copyList _ => true
  | _ => false

def isListView : Expression → Bool
  | .readOnlyList _ => true
  | _ => false

/-- The imports of a file, in alphabetical order. -/
def imports (declarations : List Declaration) : List String :=
  let expressions := declarations.flatMap bodyExpressions
  (if expressions.any isListCopy then ["java.util.ArrayList"] else []) ++
    (if expressions.any isListView then ["java.util.Collections"] else []) ++
    (if (declarations.flatMap mentionedTypes).any mentionsList then ["java.util.List"] else [])

def fileText (model : Model) (id : TypeId) : String :=
  let package := (model.get? id).bind Declaration.package
  let imports := imports (nestedTypes model model.size id)
  Layout.render (
    (match package with
      | some name => [.line ("package " ++ name ++ ";"), .blank]
      | none => []) ++
    (if imports.isEmpty then
      []
    else
      imports.map (fun name => Fragment.line ("import " ++ name ++ ";")) ++ [.blank]) ++
    classFragments model package model.size id)

def languageName : String := "java"

def fileExtension : String := "java"

def sourceFile (model : Model) (id : TypeId) : TextFile :=
  ⟨sourcePath (model.qualifiedName id) fileExtension, fileText model id⟩

def sourceFiles (model : Model) : List TextFile :=
  model.topLevel.map (fun entry => sourceFile model entry.1)

end BuilderSynthesis.Java
