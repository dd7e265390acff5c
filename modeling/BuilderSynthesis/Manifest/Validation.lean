import BuilderSynthesis.Keyed
import BuilderSynthesis.Manifest.Problem
import BuilderSynthesis.Schema.DataClass

/-!
Contract: which manifests are accepted, and which problem of one that is not is
reported.

The package and the builder name come first, then the names of all classes, then
what each class says about others, then cycles of superclasses, and last fields
that would share a setter. Every step relies on the ones before it: the walk that
looks for shared setters ends because no class is its own ancestor.
-/

namespace BuilderSynthesis.Manifest

abbrev Checked := Except Problem Unit

def checkName (role : NameRole) (span : Toml.Span) (name : String) : Checked :=
  if Java.isReserved name then
    .error (.reservedWord name role span)
  else
    match Java.nameFault? name with
    | some fault => .error (.invalidIdentifier name role fault span)
    | none => .ok ()

def checkDottedName (role : NameRole) (span : Toml.Span) (name : String) : Checked :=
  (Text.dottedSegments name).forM (checkName role span)

def checkPackage : Option String → Checked
  | none => .ok ()
  | some package =>
      if package.isEmpty then
        .ok ()
      else
        (checkDottedName ⟨"package", []⟩ ⟨0, 0⟩ package).mapError (fun _ =>
          .invalidPackage package)

def checkBuilderName (name : String) : Checked :=
  (checkName ⟨"builder", []⟩ ⟨0, 0⟩ name).mapError (fun _ => .invalidBuilderName name)

/-- Checks the names of classes, given the qualified names of those before them. -/
def checkClassNames (manifest : Manifest) :
    List (String × Toml.Span) → List ClassEntry → Checked
  | _, [] => .ok ()
  | seen, entry :: rest => do
      checkDottedName ⟨"class", []⟩ entry.name.span entry.name.text
      let qualified := manifest.qualifiedName entry
      match Keyed.value? seen qualified with
      | some first => .error (.duplicateClass qualified first entry.name.span)
      | none => manifest.checkClassNames ((qualified, entry.name.span) :: seen) rest

/-- Whether a name is that of a class outside the manifest. -/
def isExternalType (name : String) : Bool :=
  isDotted name &&
    (Text.dottedSegments name).all (fun segment => (Java.nameFault? segment).isNone)

def isKnownElement (manifest : Manifest) (element : String) : Bool :=
  (Schema.Primitive.ofName? element).isSome || manifest.hasClass element ||
    isExternalType element

def hasKnownType (manifest : Manifest) (field : FieldEntry) : Bool :=
  match field.typeNotation? with
  | none => false
  | some typeNotation => manifest.isKnownElement typeNotation.element

def checkFields (manifest : Manifest) (className : String) :
    List Marked → List FieldEntry → Checked
  | _, [] => .ok ()
  | seen, field :: rest => do
      checkName ⟨"field", [className]⟩ field.name.span field.name.text
      match seen.find? (fun previous => previous.text == field.name.text) with
      | some previous =>
          .error (.duplicateField className field.name.text previous.span field.name.span)
      | none =>
          if manifest.hasKnownType field then
            manifest.checkFields className (field.name :: seen) rest
          else
            .error (.unknownType field.type.text field.name.text field.type.span)

def checkSuperclass (manifest : Manifest) (entry : ClassEntry) : Checked :=
  match entry.superclass with
  | none => .ok ()
  | some extended =>
      if manifest.hasClass extended.text then
        .ok ()
      else
        .error (.unknownSuperclass extended.text entry.name.text extended.span)

def checkClass (manifest : Manifest) (entry : ClassEntry) : Checked := do
  manifest.checkSuperclass entry
  manifest.checkFields entry.name.text [] entry.fields

/-- Walks up from a class that is at the end of a chain of qualified names, and reports the
chain if it comes back to the class it started from. Another cycle ends the walk. The chain
holds no name twice, so the number of classes bounds the steps. -/
def checkChain (manifest : Manifest) (start : ClassEntry) :
    Nat → List String → ClassEntry → Checked
  | 0, _, _ => .ok ()
  | steps + 1, chain, current =>
      match current.superclass with
      | none => .ok ()
      | some extended =>
          match manifest.findClass? extended.text with
          | none => .ok ()
          | some parent =>
              let name := manifest.qualifiedName parent
              if name = manifest.qualifiedName start then
                .error (.inheritanceCycle start.name.text (chain ++ [name]) extended.span)
              else if chain.contains name then
                .ok ()
              else
                manifest.checkChain start steps (chain ++ [name]) parent

def checkCycles (manifest : Manifest) : Checked :=
  manifest.classes.forM (fun entry =>
    manifest.checkChain entry manifest.classes.length [manifest.qualifiedName entry] entry)

/-- A class and its ancestors, nearest first, up to a number of steps. -/
def lineage (manifest : Manifest) : Nat → ClassEntry → List ClassEntry
  | 0, entry => [entry]
  | steps + 1, entry =>
      entry ::
        match manifest.parent? entry with
        | none => []
        | some parent => manifest.lineage steps parent

/-- A property with the name of the class that declares it. -/
structure Property where
  owner : String
  name : Marked
deriving DecidableEq, Repr

/-- The properties visible on a class, those of the farthest ancestor first. -/
def visibleProperties (manifest : Manifest) (entry : ClassEntry) : List Property :=
  (manifest.lineage manifest.classes.length entry).reverse.flatMap (fun owner =>
    (owner.fields.filter (fun field => !field.isStatic)).map (fun field =>
      ⟨owner.name.text, field.name⟩))

def Property.stem (property : Property) : String :=
  Schema.propertyStem property.name.text

/-- Checks that properties have different stems, given those before them. -/
def checkStems : List Property → List Property → Checked
  | _, [] => .ok ()
  | seen, property :: rest =>
      match seen.find? (fun previous => previous.stem == property.stem) with
      | some previous =>
          .error (.propertyClash property.owner property.name.text previous.owner
            previous.name.text property.stem previous.name.span property.name.span)
      | none => checkStems (property :: seen) rest

def checkPropertyClashes (manifest : Manifest) : Checked :=
  manifest.classes.forM (fun entry => checkStems [] (manifest.visibleProperties entry))

def validate (manifest : Manifest) : Checked := do
  checkPackage manifest.settings.package
  checkBuilderName manifest.settings.builderName
  manifest.checkClassNames [] manifest.classes
  manifest.classes.forM manifest.checkClass
  manifest.checkCycles
  manifest.checkPropertyClashes

end BuilderSynthesis.Manifest
