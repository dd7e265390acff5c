import BuilderSynthesis.Builder.Property
import BuilderSynthesis.Code.Model
import BuilderSynthesis.Keyed
import BuilderSynthesis.Schema.Hierarchy

/-!
Contract: one empty builder type for every class that can have one.

A builder type is nested in its product under one name for all classes. A class
that has a nested type of that name already is skipped, and the others are not
affected. All builder types exist before the first of them gets members, because
members of one refer to another.
-/

namespace BuilderSynthesis.Builder

open BuilderSynthesis.Schema (ClassId DataClass Hierarchy)
open BuilderSynthesis.Code (TypeId)

structure Descriptor where
  classId : ClassId
  /-- The type that is built. -/
  product : TypeId
  /-- The type that builds. -/
  builder : TypeId
  /-- The properties that the builder declares, once it has members. -/
  properties : Option (List Property) := none
deriving DecidableEq, Repr, Inhabited

/-- A class without a builder. -/
structure Skipped where
  classId : ClassId
  name : String
  builderName : String
  location : Option Schema.Location
  reason : Code.Conflict
deriving DecidableEq, Repr

/-- What a user is told about a class without a builder. -/
def Skipped.message (skipped : Skipped) : String :=
  "Class \"" ++ skipped.name ++ "\" already contains inner class \"" ++ skipped.builderName ++
    "\". Skipping generation of fluent builder."

/-- The builders of a run, by qualified class name, and the classes without one. -/
structure Registry where
  descriptors : List (String × Descriptor) := []
  skipped : List Skipped := []
deriving DecidableEq, Repr

namespace Registry

def size (registry : Registry) : Nat :=
  registry.descriptors.length

def get? (registry : Registry) (name : String) : Option Descriptor :=
  Keyed.value? registry.descriptors name

/-- A registry with a builder under a class name; one that is there keeps its place. -/
def insert (registry : Registry) (name : String) (descriptor : Descriptor) : Registry :=
  { registry with descriptors := Keyed.put registry.descriptors name descriptor }

theorem get?_insert (registry : Registry) (name : String) (descriptor : Descriptor)
    (other : String) :
    (registry.insert name descriptor).get? other =
      if other = name then some descriptor else registry.get? other :=
  Keyed.value?_put registry.descriptors name descriptor other

def skip (registry : Registry) (skipped : Skipped) : Registry :=
  { registry with skipped := registry.skipped ++ [skipped] }

def forClass? (registry : Registry) (hierarchy : Hierarchy) (id : ClassId) :
    Option Descriptor :=
  (hierarchy.get? id).bind (fun dataClass => registry.get? dataClass.name)

/-- The builder of the nearest proper ancestor that has one. -/
def nearestAncestor? (registry : Registry) (hierarchy : Hierarchy) (id : ClassId) :
    Option Descriptor :=
  (hierarchy.ancestors id).findSome? (registry.forClass? hierarchy)

end Registry

inductive Failure where
  /-- A class has no type to nest a builder in. -/
  | undeclaredClass (name : String)
  /-- A member of the builder of a class is refused. -/
  | refusedMember (className : String) (conflict : Code.Conflict)
  /-- A builder has members already. -/
  | alreadyPopulated (id : ClassId)
deriving DecidableEq, Repr

def Failure.chain : Failure → List String
  | .undeclaredClass name => ["class '" ++ name ++ "' has no declared type in the code model"]
  | .refusedMember className conflict => ["builder for '" ++ className ++ "'", conflict.message]
  | .alreadyPopulated id =>
      ["builder properties for ClassId(" ++ toString id ++ ") were already populated"]

/-- The declared types of a run and its builders. -/
structure Workshop where
  model : Code.Model
  registry : Registry
deriving Repr

/-- What is left of a step that may fail, and its failure. -/
abbrev Attempt (σ : Type) := σ × Option Failure

def builderHeader (dataClass : DataClass) (builderName : String) : Code.Header :=
  { name := builderName
    doc := some ("Fluent builder for \x7b@link " ++ dataClass.simpleName ++ "\x7d.")
    isStatic := true }

def registerClass (builderName : String) (workshop : Workshop) (id : ClassId)
    (dataClass : DataClass) : Attempt Workshop :=
  match workshop.model.lookup dataClass.name with
  | none => (workshop, some (.undeclaredClass dataClass.name))
  | some product =>
      match workshop.model.declareNested product (builderHeader dataClass builderName) with
      | .ok (builder, model) =>
          ({ model
             registry := workshop.registry.insert dataClass.name ⟨id, product, builder, none⟩ },
            none)
      | .error reason =>
          ({ workshop with
              registry := workshop.registry.skip
                ⟨id, dataClass.name, builderName, dataClass.location, reason⟩ }, none)

/-- Declares the builder types of classes, up to the first failure. -/
def registerAll (builderName : String) :
    List (ClassId × DataClass) → Workshop → Attempt Workshop
  | [], workshop => (workshop, none)
  | (id, dataClass) :: rest, workshop =>
      match registerClass builderName workshop id dataClass with
      | (workshop, none) => registerAll builderName rest workshop
      | failed => failed

def register (hierarchy : Hierarchy) (model : Code.Model) (builderName : String) :
    Attempt Workshop :=
  registerAll builderName hierarchy.entries ⟨model, {}⟩

end BuilderSynthesis.Builder
