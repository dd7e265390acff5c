import BuilderSynthesis.Manifest.TypeNotation
import BuilderSynthesis.Schema.Location
import BuilderSynthesis.Schema.Policy
import BuilderSynthesis.Toml.Value

/-!
Contract: a manifest as its author wrote it.

Names are kept as they stand in the document, with their places, and are not yet
known to mean anything. A name without a dot belongs to the package of the
manifest, if there is one; `qualify` makes that explicit.
-/

namespace BuilderSynthesis

namespace Manifest

/-- A text with the place of its quotes in the document. -/
structure Marked where
  text : String
  span : Toml.Span
deriving DecidableEq, Repr, Inhabited

structure FieldEntry where
  name : Marked
  /-- The notation of the type. -/
  type : Marked
  isStatic : Bool := false
  doc : Option String := none
deriving DecidableEq, Repr, Inhabited

structure ClassEntry where
  /-- The name, simple or qualified. -/
  name : Marked
  isAbstract : Bool := false
  doc : Option String := none
  superclass : Option Marked := none
  /-- Nested types that the class has already. -/
  nested : List String := []
  fields : List FieldEntry := []
  /-- Where the name stands, once the manifest has been accepted. -/
  location : Option Schema.Location := none
deriving DecidableEq, Repr, Inhabited

/-- The name of the nested builder type unless a manifest says otherwise. -/
def defaultBuilderName : String := "Builder"

/-- What a manifest says about the run as a whole. -/
structure Settings where
  /-- The package of class names without a dot. -/
  package : Option String := none
  policy : Schema.Policy := .direct
  builderName : String := defaultBuilderName
  /-- The directory for generated sources. -/
  output : Option String := none
deriving DecidableEq, Repr, Inhabited

def isDotted (name : String) : Bool :=
  name.toList.contains '.'

def qualifyIn (package : Option String) (name : String) : String :=
  match package with
  | some package =>
      if isDotted name || package.isEmpty then name else package ++ "." ++ name
  | none => name

end Manifest

/-- Settings and classes, in the order of the document. -/
structure Manifest where
  settings : Manifest.Settings := {}
  classes : List Manifest.ClassEntry := []
deriving DecidableEq, Repr, Inhabited

namespace Manifest

def FieldEntry.typeNotation? (field : FieldEntry) : Option TypeNotation :=
  TypeNotation.read? field.type.text

def qualify (manifest : Manifest) (name : String) : String :=
  qualifyIn manifest.settings.package name

def qualifiedName (manifest : Manifest) (entry : ClassEntry) : String :=
  manifest.qualify entry.name.text

/-- The first class that a simple or qualified name means. -/
def findClass? (manifest : Manifest) (name : String) : Option ClassEntry :=
  manifest.classes.find? (fun entry => manifest.qualifiedName entry == manifest.qualify name)

def hasClass (manifest : Manifest) (name : String) : Bool :=
  (manifest.findClass? name).isSome

def parent? (manifest : Manifest) (entry : ClassEntry) : Option ClassEntry :=
  entry.superclass.bind (fun extended => manifest.findClass? extended.text)

end Manifest

end BuilderSynthesis
