import BuilderSynthesis.Java.Identifier
import BuilderSynthesis.Manifest.Entry

/-!
Contract: why a manifest is refused, and what its author is told.

Owns:
- `DecodeProblem`, for a document that does not have the shape of a manifest;
- `Problem`, for every way in which reading a manifest ends without one;
- the wording: a message, a stable code, advice, and labels on the document.

Does not own: finding the problems.
-/

namespace BuilderSynthesis.Manifest

def expectedText : List String → String
  | [first, second] => "expected `" ++ first ++ "` or `" ++ second ++ "`"
  | names =>
      "expected one of " ++
        Text.joinWith ", " (names.map (fun name => "`" ++ name ++ "`"))

inductive DecodeProblem where
  /-- The text is no document, or a value has a shape that says nothing more. -/
  | malformed
  | invalidType
  | unknownField (name : String) (expected : List String)
  | missingField (name : String)
  | unknownVariant (name : String) (expected : List String)
deriving DecidableEq, Repr

/-- What is known about the problem beyond that there is one. -/
def DecodeProblem.detail? : DecodeProblem → Option String
  | .malformed => none
  | .invalidType => some "invalid type"
  | .unknownField name expected =>
      some ("unknown field `" ++ name ++ "`, " ++ expectedText expected)
  | .missingField name => some ("missing field `" ++ name ++ "`")
  | .unknownVariant name expected =>
      some ("unknown variant `" ++ name ++ "`, " ++ expectedText expected)

/-- What a name is for: its kind, and the path of the things that contain it. -/
structure NameRole where
  kind : String
  path : List String := []
deriving DecidableEq, Repr

def NameRole.pathText (role : NameRole) : String :=
  Text.joinWith "." role.path

/-- The text of a role: `field in 'Order'`, or the kind alone at the top. -/
def NameRole.text (role : NameRole) : String :=
  if role.path.isEmpty then role.kind else role.kind ++ " in '" ++ role.pathText ++ "'"

structure Label where
  text : String
  span : Toml.Span
deriving DecidableEq, Repr

inductive Problem where
  /-- The file cannot be read. -/
  | unreadable (path : String)
  | undecodable (problem : DecodeProblem)
  | invalidPackage (package : String)
  | invalidBuilderName (name : String)
  | reservedWord (name : String) (role : NameRole) (span : Toml.Span)
  | invalidIdentifier (name : String) (role : NameRole) (fault : Java.NameFault)
      (span : Toml.Span)
  | unknownType (type field : String) (span : Toml.Span)
  | unknownSuperclass (name className : String) (span : Toml.Span)
  | duplicateClass (name : String) (first second : Toml.Span)
  | duplicateField (className name : String) (first second : Toml.Span)
  /-- Two fields, with the classes that declare them, would have one setter. -/
  | propertyClash (className name owner other stem : String) (first second : Toml.Span)
  | inheritanceCycle (className : String) (chain : List String) (span : Toml.Span)
deriving DecidableEq, Repr

namespace Problem

def message : Problem → String
  | .unreadable path => "failed to read '" ++ path ++ "'"
  | .undecodable _ => "failed to parse fluent.toml"
  | .invalidPackage package => "invalid package '" ++ package ++ "'"
  | .invalidBuilderName name => "invalid builder-name '" ++ name ++ "'"
  | .reservedWord name _ _ => "'" ++ name ++ "' is a Java reserved word"
  | .invalidIdentifier name role _ _ => "invalid " ++ role.text ++ " name '" ++ name ++ "'"
  | .unknownType type field _ =>
      "unknown type '" ++ type ++ "' for field '" ++ field ++ "'"
  | .unknownSuperclass name className _ =>
      "class '" ++ className ++ "' extends unknown class '" ++ name ++ "'"
  | .duplicateClass name _ _ => "duplicate class '" ++ name ++ "'"
  | .duplicateField className name _ _ =>
      "duplicate field '" ++ name ++ "' in class '" ++ className ++ "'"
  | .propertyClash className name owner other _ _ _ =>
      "field '" ++ name ++ "' of class '" ++ className ++ "' clashes with field '" ++ other ++
        "' of class '" ++ owner ++ "'"
  | .inheritanceCycle className _ _ =>
      "inheritance cycle through class '" ++ className ++ "'"

def code? : Problem → Option String
  | .unreadable _ => none
  | .undecodable _ => some "fluent::parse_error"
  | .invalidPackage _ => some "fluent::validation_error"
  | .invalidBuilderName _ => some "fluent::validation_error"
  | .reservedWord _ _ _ => some "fluent::reserved_keyword"
  | .invalidIdentifier _ _ _ _ => some "fluent::invalid_identifier"
  | .unknownType _ _ _ => some "fluent::unknown_type"
  | .unknownSuperclass _ _ _ => some "fluent::unknown_superclass"
  | .duplicateClass _ _ _ => some "fluent::duplicate_class"
  | .duplicateField _ _ _ _ => some "fluent::duplicate_field"
  | .propertyClash _ _ _ _ _ _ _ => some "fluent::property_clash"
  | .inheritanceCycle _ _ _ => some "fluent::inheritance_cycle"

def help? : Problem → Option String
  | .unreadable _ => some "run 'fluent init' to create a starter fluent.toml"
  | .reservedWord name role _ =>
      some ("rename the " ++ role.text ++ " '" ++ name ++ "', e.g. '" ++ name ++ "Value'")
  | .invalidIdentifier _ _ fault _ =>
      some (fault.reason ++ ". Use only letters, digits, underscores and '$', starting with " ++
        "a letter or underscore.")
  | .unknownType _ _ _ =>
      some ("valid types are: int, long, float, double, bool, char, byte, string, a declared " ++
        "class, a qualified external class, `T[]` or `list<T>`")
  | .unknownSuperclass name _ _ =>
      some ("declare '" ++ name ++ "' as a [[class]] in this file")
  | .propertyClash _ _ _ _ stem _ _ =>
      some ("both would be set through 'with" ++ stem ++ "'; rename one of them")
  | .inheritanceCycle _ chain _ =>
      some ("the chain is " ++ Text.joinWith " -> " chain)
  | _ => none

def labels : Problem → List Label
  | .reservedWord _ _ span => [⟨"reserved word used here", span⟩]
  | .invalidIdentifier _ _ _ span => [⟨"invalid identifier", span⟩]
  | .unknownType _ _ span => [⟨"unknown type", span⟩]
  | .unknownSuperclass _ _ span => [⟨"not declared", span⟩]
  | .duplicateClass _ first second =>
      [⟨"first declared here", first⟩, ⟨"declared again here", second⟩]
  | .duplicateField _ _ first second =>
      [⟨"first declared here", first⟩, ⟨"declared again here", second⟩]
  | .propertyClash _ _ _ _ _ first second =>
      [⟨"first declared here", first⟩, ⟨"clashes here", second⟩]
  | .inheritanceCycle _ _ span => [⟨"cycle closes here", span⟩]
  | _ => []

end Problem

end BuilderSynthesis.Manifest
