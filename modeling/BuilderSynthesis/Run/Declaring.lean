import BuilderSynthesis.Run.Context

/-!
Contract: the types that a hierarchy stands for, before there are builders.

Every class becomes a type with its fields and with the nested types it has
already. Superclasses are linked once all types are there. A nested type that a
class names twice is reported and declared once.
-/

namespace BuilderSynthesis.Run

open BuilderSynthesis.Code (Model TypeId)
open BuilderSynthesis.Schema (ClassId DataClass Hierarchy)

def classHeader (dataClass : DataClass) : Code.Header :=
  { name := dataClass.simpleName
    doc := dataClass.doc
    isAbstract := dataClass.isAbstract }

def declaredField (field : Schema.Field) : Code.Field :=
  { name := field.name
    type := .ofField field.element field.cardinality
    doc := field.doc
    access := .subclasses
    isStatic := field.isStatic }

def nestedWarning (dataClass : DataClass) (conflict : Code.Conflict) : Diagnostic :=
  { severity := .warning
    phase := "declare"
    message := conflict.message
    location := dataClass.location.map Schema.Location.text
    className := some dataClass.name }

def declareNestedTypes (dataClass : DataClass) (outer : TypeId) :
    List String → Model → Model × List Diagnostic
  | [], model => (model, [])
  | name :: rest, model =>
      match model.declareNested outer { name := name, isStatic := true } with
      | .ok (_, model) => declareNestedTypes dataClass outer rest model
      | .error conflict =>
          let (model, diagnostics) := declareNestedTypes dataClass outer rest model
          (model, nestedWarning dataClass conflict :: diagnostics)

def declareDataClass (dataClass : DataClass) (model : Model) :
    Except Code.Conflict (Model × List Diagnostic) := do
  let (id, model) ← model.declareClass dataClass.name (classHeader dataClass)
  let model ← dataClass.fields.foldlM
    (fun model field => model.declareField id (declaredField field)) model
  return declareNestedTypes dataClass id dataClass.nested model

def declareClasses : List DataClass → Model → Except Failure (Model × List Diagnostic)
  | [], model => .ok (model, [])
  | dataClass :: rest, model => do
      let (model, first) ←
        (declareDataClass dataClass model).mapError (Failure.declaring dataClass.name)
      let (model, others) ← declareClasses rest model
      return (model, first ++ others)

def linkSuperclass (hierarchy : Hierarchy) (model : Model) (dataClass : DataClass) : Model :=
  match dataClass.superclass.bind hierarchy.get? with
  | none => model
  | some superclass =>
      match model.lookup dataClass.name, model.lookup superclass.name with
      | some id, some parent => model.setSuperclass id parent
      | _, _ => model

def declareHierarchy (hierarchy : Hierarchy) : Except Failure (Model × List Diagnostic) := do
  let (model, diagnostics) ← declareClasses hierarchy.classes {}
  return (hierarchy.classes.foldl (linkSuperclass hierarchy) model, diagnostics)

end BuilderSynthesis.Run
