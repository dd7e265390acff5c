import BuilderSynthesis.Builder.Property
import BuilderSynthesis.Eval.Machine
import BuilderSynthesis.Proofs.Registered

/-!
Contract: what a caller of a program can do with its builders and products.

A caller uses what it has at hand: it makes builders, calls their setters with anything, builds
as often as it likes, reads the properties of products, and makes and changes lists of its own
or that it has read. The members that builders keep to themselves it does not touch. Each call
is left to the machine, and a call that fails leaves whatever the machine leaves.

Owns: `Session`, what a caller has at hand, and `Session.Step`, what it can do next.
-/

namespace BuilderSynthesis.Run

open Builder (buildName builderTypeName factoryName setterName)
open Code (Model)
open Eval (Object Store Typed Value)
open Schema (ClassId DataClass Hierarchy)

/-- What a caller has at hand, with the store behind it. -/
structure Session where
  store : Store := {}
  values : List Value := []
  /-- The objects at hand that were made as builders. -/
  builders : List Object := []
  /-- The objects at hand that `build` returned. -/
  products : List Object := []

namespace Session

def hold (session : Session) (value : Value) : Session :=
  { session with values := value :: session.values }

/-- The result of a call comes to hand, unless the call failed. -/
def received (session : Session) (value : α → Value) :
    Except Eval.Failure α × Store → Session
  | (.ok result, store) => { session with store := store }.hold (value result)
  | (.error _, store) => { session with store := store }

def receivedBuilder (session : Session) : Except Eval.Failure Typed × Store → Session
  | (.ok ⟨.object builder, _⟩, store) =>
      { session with store := store, builders := builder :: session.builders }.hold
        (.object builder)
  | (_, store) => { session with store := store }

def receivedProduct (session : Session) : Except Eval.Failure Typed × Store → Session
  | (.ok ⟨.object product, _⟩, store) =>
      { session with store := store, products := product :: session.products }.hold
        (.object product)
  | (_, store) => { session with store := store }

end Session

/-- Values that can be written down: no objects, arrays and lists. -/
def IsLiteral : Value → Prop
  | .object _ | .array _ | .list _ _ => False
  | _ => True

/-- One operation of a caller, for classes of which some have builders. -/
inductive Session.Step (hierarchy : Hierarchy) (bears : ClassId → Bool) (builderName : String)
    (model : Model) : Session → Session → Prop where
  | literal {session : Session} {value : Value} (literal : IsLiteral value) :
      Session.Step hierarchy bears builderName model session (session.hold value)
  | list {session : Session} {items : List Value} (atHand : items ⊆ session.values) :
      Session.Step hierarchy bears builderName model session
        ({ session with store := (session.store.newList items).2 }.hold
          (session.store.newList items).1)
  | array {session : Session} {items : List Value} (atHand : items ⊆ session.values) :
      Session.Step hierarchy bears builderName model session
        ({ session with store := (session.store.newArray items).2 }.hold
          (session.store.newArray items).1)
  | listItem {session : Session} {place : Nat} {isReadOnly : Bool} {item : Value}
      (atHand : .list place isReadOnly ∈ session.values)
      (inside : item ∈ session.store.listItems place) :
      Session.Step hierarchy bears builderName model session (session.hold item)
  | arrayItem {session : Session} {place : Nat} {item : Value}
      (atHand : .array place ∈ session.values) (inside : item ∈ session.store.arrayItems place) :
      Session.Step hierarchy bears builderName model session (session.hold item)
  | push {session : Session} {place : Nat} {isReadOnly : Bool} {item : Value}
      (atHand : .list place isReadOnly ∈ session.values) (given : item ∈ session.values) :
      Session.Step hierarchy bears builderName model session
        (session.received (fun count : Nat => .int count)
          ((Eval.appendItem place isReadOnly item).run session.store))
  /-- A class makes its builder. -/
  | factory {session : Session} {id : ClassId} {dataClass : DataClass}
      (known : hierarchy.get? id = some dataClass) (bearing : bears id = true)
      (isConcrete : dataClass.isAbstract = false) :
      Session.Step hierarchy bears builderName model session
        (session.receivedBuilder
          ((Eval.callStatic model dataClass.name factoryName []).run session.store))
  /-- A builder is made as an object of its class. -/
  | instantiate {session : Session} {id : ClassId} {dataClass : DataClass}
      (known : hierarchy.get? id = some dataClass) (bearing : bears id = true) :
      Session.Step hierarchy bears builderName model session
        (session.receivedBuilder
          ((Eval.instantiate model (builderTypeName builderName dataClass.name)).run
            session.store))
  /-- A setter is called on a builder seen as one of its types, with any static types. -/
  | set {session : Session} {builder : Object} (made : builder ∈ session.builders)
      {view : Code.TypeId} (above : view ∈ model.supertypes builder.type) (name : String)
      {arguments : List Typed} (atHand : arguments.map Typed.value ⊆ session.values) :
      Session.Step hierarchy bears builderName model session
        (session.received Typed.value
          ((Eval.call model ⟨.object builder, some (model.typeRef view)⟩ (setterName name)
            arguments).run session.store))
  | build {session : Session} {builder : Object} (made : builder ∈ session.builders)
      {view : Code.TypeId} (above : view ∈ model.supertypes builder.type) :
      Session.Step hierarchy bears builderName model session
        (session.receivedProduct
          ((Eval.call model ⟨.object builder, some (model.typeRef view)⟩ buildName []).run
            session.store))
  | read {session : Session} {product : Object} (built : product ∈ session.products)
      (name : String) :
      Session.Step hierarchy bears builderName model session
        (session.received id
          ((Eval.fieldValue model ⟨.object product, none⟩ name).run session.store))

def Session.Steps (hierarchy : Hierarchy) (bears : ClassId → Bool) (builderName : String)
    (model : Model) : Session → Session → Prop :=
  Relation.ReflTransGen (Session.Step hierarchy bears builderName model)

end BuilderSynthesis.Run
