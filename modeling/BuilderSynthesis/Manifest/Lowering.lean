import BuilderSynthesis.Manifest.Validation
import BuilderSynthesis.Schema.Hierarchy

/-!
Contract: the class hierarchy that a manifest describes.

Every class of the manifest becomes a class under its qualified name, in the same
order; superclasses are linked by name once all classes are there. An accepted
manifest always has a hierarchy, the problems here can only come from one that
was not checked.
-/

namespace BuilderSynthesis.Manifest

open BuilderSynthesis.Schema (ClassId DataClass Element Hierarchy Primitive)

inductive LoweringProblem where
  | invalidType (field : String)
  /-- The class that a link starts from is not there. -/
  | vanished (className : String)
  | unknownSuperclass (className extended : String)
deriving DecidableEq, Repr

def LoweringProblem.message : LoweringProblem → String
  | .invalidType field => "field '" ++ field ++ "' has an invalid type"
  | .vanished className => "class '" ++ className ++ "' vanished while lowering"
  | .unknownSuperclass className extended =>
      "class '" ++ className ++ "' extends unknown class '" ++ extended ++ "'"

/-- The element type that a name means: a primitive, a class of the manifest, or else a class
under the name as it stands. -/
def lowerElement (manifest : Manifest) (element : String) : Element :=
  match Primitive.ofName? element with
  | some primitive => .primitive primitive
  | none =>
      if manifest.hasClass element then
        .named (manifest.qualify element)
      else
        .named element

def lowerField (manifest : Manifest) (entry : FieldEntry) :
    Except LoweringProblem Schema.Field :=
  match entry.typeNotation? with
  | none => .error (.invalidType entry.name.text)
  | some typeNotation =>
      .ok ⟨entry.name.text, manifest.lowerElement typeNotation.element,
        typeNotation.cardinality, entry.isStatic, entry.doc⟩

def lowerClass (manifest : Manifest) (entry : ClassEntry) :
    Except LoweringProblem DataClass := do
  let fields ← entry.fields.mapM manifest.lowerField
  return ⟨manifest.qualifiedName entry, none, entry.isAbstract, fields, entry.location,
    entry.doc, entry.nested⟩

def linkClass (manifest : Manifest) (hierarchy : Hierarchy) (entry : ClassEntry) :
    Except LoweringProblem Hierarchy :=
  match entry.superclass with
  | none => .ok hierarchy
  | some extended =>
      let name := manifest.qualifiedName entry
      match hierarchy.lookup name with
      | none => .error (.vanished name)
      | some id =>
          match hierarchy.lookup (manifest.qualify extended.text) with
          | none => .error (.unknownSuperclass name extended.text)
          | some superclass => .ok (hierarchy.setSuperclass id (some superclass))

def lower (manifest : Manifest) : Except LoweringProblem Hierarchy := do
  let classes ← manifest.classes.mapM manifest.lowerClass
  manifest.classes.foldlM manifest.linkClass ⟨classes⟩

end BuilderSynthesis.Manifest
