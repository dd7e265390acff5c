/-!
Contract: which names a Java program can use.

An identifier starts with an ASCII letter, an underscore or a dollar sign and goes
on with these or digits. A reserved word is no name of its own.

Does not own: identifiers beyond ASCII, which the language admits and schemas do
not.
-/

namespace BuilderSynthesis.Java

inductive NameFault where
  | empty
  | badStart
  | badCharacter
deriving DecidableEq, Repr

def NameFault.reason : NameFault → String
  | .empty => "name cannot be empty"
  | .badStart => "name must start with a letter or underscore"
  | .badCharacter => "name must contain only letters, digits, underscores and '$'"

def isIdentifierStart (character : Char) : Bool :=
  character.isAlpha || character == '_' || character == '$'

def isIdentifierPart (character : Char) : Bool :=
  character.isAlphanum || character == '_' || character == '$'

def nameFault? (name : String) : Option NameFault :=
  match name.toList with
  | [] => some .empty
  | first :: rest =>
      if !isIdentifierStart first then
        some .badStart
      else if rest.all isIdentifierPart then
        none
      else
        some .badCharacter

/-- The words that cannot name a type or a member, without the lone underscore. -/
def keywords : List String := [
  "abstract", "assert", "boolean", "break", "byte", "case", "catch", "char", "class",
  "const", "continue", "default", "do", "double", "else", "enum", "extends", "final",
  "finally", "float", "for", "goto", "if", "implements", "import", "instanceof", "int",
  "interface", "long", "native", "new", "package", "private", "protected", "public",
  "return", "short", "static", "strictfp", "super", "switch", "synchronized", "this",
  "throw", "throws", "transient", "try", "void", "volatile", "while", "true", "false",
  "null", "var", "record", "yield"]

def isKeyword (name : String) : Bool :=
  keywords.contains name

/-- Whether a schema may not use a name: the keywords and the lone underscore. -/
def isReserved (name : String) : Bool :=
  isKeyword name || name == "_"

/-- A name that is no keyword: a keyword gets an underscore at its end. -/
def safeName (name : String) : String :=
  if isKeyword name then name ++ "_" else name

def sourcePath (qualifiedName extension : String) : String :=
  qualifiedName.map (fun character => if character = '.' then '/' else character) ++
    "." ++ extension

end BuilderSynthesis.Java
