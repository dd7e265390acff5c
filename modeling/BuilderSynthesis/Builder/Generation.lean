import BuilderSynthesis.Builder.Member
import BuilderSynthesis.Builder.Registry

/-!
Contract: the members of a builder.

A builder gets, in this order:
- a field and a setter for each property of its class;
- `init`, which hands the values over to a product and leaves the inherited
  properties to the builder of the nearest ancestor that has one;
- an override of every inherited setter, so that a chain of calls keeps the type
  of the builder;
- for a class that is not abstract, `build`, and a method of the product that
  makes a builder.

`requests` lists the declarations that this takes; they are carried out one by
one up to the first that is refused.
-/

namespace BuilderSynthesis.Builder

open BuilderSynthesis.Schema (ClassId DataClass Hierarchy Policy)
open BuilderSynthesis.Code (Expression Method Statement TypeId TypeRef)

/-- One step in giving a builder its members. -/
inductive Request where
  | field (owner : TypeId) (field : Code.Field)
  | method (owner : TypeId) (method : Method)
  /-- Notes the properties of the builder under a key of the registry. -/
  | properties (key : String) (properties : List Property)
  | superclass (id superclass : TypeId)
deriving Repr

/-- The product, as the body of `init` mentions it. -/
def product : Expression :=
  .ident productName

def setterOf (policy : Policy) (builder : TypeRef) (property : Property) : Method :=
  (Handling.ofProperty policy property).setter property builder

/-- A setter that leaves the storing to the superclass. -/
def delegating (property : Property) (setter : Method) : Method :=
  { setter with
    body := [
      .evaluate (.superCall property.setter [.ident property.name]),
      .return (some .this)] }

def overriding (method : Method) : Method :=
  { method with annotations := method.annotations ++ ["Override"] }

/-- The overrides for the properties of one ancestor, and the signatures declared after them.
A signature that is declared already is not declared again. A setter whose field is hidden by
one of a builder nearer to the class leaves the storing to the superclass. -/
def overridesOf (policy : Policy) (builder : TypeRef) (hidden : List String) :
    List Property → List String → List Method × List String
  | [], declared => ([], declared)
  | property :: rest, declared =>
      let setter := setterOf policy builder property
      if declared.contains setter.signature then
        overridesOf policy builder hidden rest declared
      else
        let (methods, after) :=
          overridesOf policy builder hidden rest (setter.signature :: declared)
        let chosen :=
          if hidden.contains property.name then delegating property setter else setter
        (overriding chosen :: methods, after)

/-- The overrides of the setters that a builder inherits, for ancestors that have a builder,
nearest first. -/
def inheritedSetters (policy : Policy) (builder : TypeRef) :
    List DataClass → List String → List String → List Method
  | [], _, _ => []
  | ancestor :: rest, declared, hidden =>
      let properties := ownProperties ancestor
      let (methods, declared) := overridesOf policy builder hidden properties declared
      methods ++
        inheritedSetters policy builder rest declared (properties.map Property.name ++ hidden)

/-- The classes above a class that have builders, nearest first. -/
def builderAncestors (hierarchy : Hierarchy) (registry : Registry) (id : ClassId) :
    List DataClass :=
  ((hierarchy.ancestors id).filter (fun ancestor =>
    (registry.forClass? hierarchy ancestor).isSome)).filterMap hierarchy.get?

/-- The method that hands the values of a builder over to a product. -/
def initMethod (productType : TypeRef) (body : List Statement) : Method :=
  { name := initName
    parameters := [{ name := productName, type := .var productTypeName }]
    returns := some (.var productTypeName)
    body := body
    access := .subclasses
    typeParameters := [⟨productTypeName, [productType]⟩] }

def buildMethod (dataClass : DataClass) (productType : TypeRef) : Method :=
  { name := buildName
    doc := some ("Creates a new \x7b@link " ++ dataClass.simpleName ++
      "\x7d populated from this builder.")
    returns := some productType
    body := [.return (some (.call .this initName [.new productType]))] }

def factoryMethod (dataClass : DataClass) (builderType : TypeRef) : Method :=
  { name := factoryName
    doc := some ("Returns a new fluent builder for \x7b@link " ++ dataClass.simpleName ++
      "\x7d.")
    returns := some builderType
    body := [.return (some (.new builderType))]
    isStatic := true }

def propertyRequests (policy : Policy) (builder : TypeId) (builderType : TypeRef)
    (property : Property) : List Request :=
  [.field builder ((Handling.ofProperty policy property).field property),
    .method builder (setterOf policy builderType property)]

def initStatementOf (policy : Policy) (property : Property) : Statement :=
  (Handling.ofProperty policy property).initStatement property product

/-- The last statement of `init`: the product, after the ancestors have added to it. -/
def initReturn : Option Descriptor → Statement
  | none => .return (some product)
  | some _ => .return (some (.superCall initName [product]))

/-- The declarations that give the builder of a class its members. -/
def requests (hierarchy : Hierarchy) (policy : Policy) (workshop : Workshop) (key : String)
    (descriptor : Descriptor) (dataClass : DataClass) : List Request :=
  let registry := workshop.registry
  let productType := workshop.model.typeRef descriptor.product
  let builderType := workshop.model.typeRef descriptor.builder
  let properties := ownProperties dataClass
  let parent := registry.nearestAncestor? hierarchy descriptor.classId
  let declared := properties.map (fun property =>
    (setterOf policy builderType property).signature)
  let overrides :=
    inheritedSetters policy builderType
      (builderAncestors hierarchy registry descriptor.classId) declared
      (properties.map Property.name)
  properties.flatMap (propertyRequests policy descriptor.builder builderType) ++
    [.properties key properties] ++
    (parent.map (fun parent => Request.superclass descriptor.builder parent.builder)).toList ++
    [.method descriptor.builder
      (initMethod productType (properties.map (initStatementOf policy) ++ [initReturn parent]))] ++
    (if parent.isSome then overrides.map (Request.method descriptor.builder) else []) ++
    (if dataClass.isAbstract then
      []
    else
      [.method descriptor.builder (buildMethod dataClass productType),
        .method descriptor.product (factoryMethod dataClass builderType)])

/-- Notes the properties of a builder, which must not have any noted. -/
def noteProperties (key : String) (properties : List Property) (workshop : Workshop) :
    Attempt Workshop :=
  match workshop.registry.get? key with
  | none => (workshop, none)
  | some descriptor =>
      match descriptor.properties with
      | some _ => (workshop, some (.alreadyPopulated descriptor.classId))
      | none =>
          ({ workshop with
              registry := workshop.registry.insert key
                { descriptor with properties := some properties } }, none)

/-- The workshop after a declaration that may be refused. -/
def settle (className : String) (workshop : Workshop) :
    Except Code.Conflict Code.Model → Attempt Workshop
  | .ok model => ({ workshop with model := model }, none)
  | .error conflict => (workshop, some (.refusedMember className conflict))

def Request.carryOut (className : String) (workshop : Workshop) : Request → Attempt Workshop
  | .field owner declared =>
      settle className workshop (workshop.model.declareField owner declared)
  | .method owner declared =>
      settle className workshop (workshop.model.declareMethod owner declared)
  | .properties key noted => noteProperties key noted workshop
  | .superclass id parent =>
      ({ workshop with model := workshop.model.setSuperclass id parent }, none)

/-- Carries out requests up to the first that is refused. -/
def carryOutAll (className : String) : List Request → Workshop → Attempt Workshop
  | [], workshop => (workshop, none)
  | request :: rest, workshop =>
      match request.carryOut className workshop with
      | (workshop, none) => carryOutAll className rest workshop
      | failed => failed

/-- Gives the builder under a key of the registry its members. -/
def generateOne (hierarchy : Hierarchy) (policy : Policy) (workshop : Workshop) (key : String)
    (descriptor : Descriptor) : Attempt Workshop :=
  match hierarchy.get? descriptor.classId with
  | none => (workshop, none)
  | some dataClass =>
      carryOutAll dataClass.name (requests hierarchy policy workshop key descriptor dataClass)
        workshop

/-- Gives builders their members, up to the first failure. -/
def generateAll (hierarchy : Hierarchy) (policy : Policy) :
    List (String × Descriptor) → Workshop → Attempt Workshop
  | [], workshop => (workshop, none)
  | (key, descriptor) :: rest, workshop =>
      match generateOne hierarchy policy workshop key descriptor with
      | (workshop, none) => generateAll hierarchy policy rest workshop
      | failed => failed

def generate (hierarchy : Hierarchy) (policy : Policy) (workshop : Workshop) :
    Attempt Workshop :=
  generateAll hierarchy policy workshop.registry.descriptors workshop

end BuilderSynthesis.Builder
