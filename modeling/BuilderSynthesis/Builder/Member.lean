import BuilderSynthesis.Builder.Property
import BuilderSynthesis.Code.Declaration
import BuilderSynthesis.Schema.Policy

/-!
Contract: the field, the setter and the statement of `init` for one property.

An array is gathered from any number of arguments and handed over as it is. For
everything else the policy decides: a list is taken as it is, or copied by the
setter and handed over as a view that cannot be changed. Other values are taken
as they are.
-/

namespace BuilderSynthesis.Builder

open BuilderSynthesis.Code (Expression Statement TypeRef)

/-- How a property is set and handed over. -/
inductive Handling where
  /-- One argument, as the policy says. -/
  | single (policy : Schema.Policy)
  /-- Any number of arguments, as one array. -/
  | gathered
deriving DecidableEq, Repr

namespace Handling

def ofProperty (policy : Schema.Policy) (property : Property) : Handling :=
  if property.isArray then .gathered else .single policy

def copies (handling : Handling) (property : Property) : Bool :=
  handling == .single .defensive && property.isList

def field (handling : Handling) (property : Property) : Code.Field :=
  { name := property.name
    type := property.type
    access := .subclasses
    initializer := if handling = .gathered then some .null else none }

def parameter (handling : Handling) (property : Property) : Code.Parameter :=
  match handling with
  | .gathered => .variadic property.name (property.type.element?.getD property.type)
  | .single _ => { name := property.name, type := property.type }

def stored (handling : Handling) (property : Property) : Expression :=
  if handling.copies property then
    .copyList (.ident property.name)
  else
    .ident property.name

def setter (handling : Handling) (property : Property) (builder : TypeRef) : Code.Method :=
  { name := property.setter
    doc := some property.setterDoc
    parameters := [handling.parameter property]
    returns := some builder
    body := [
      .assign (.ownField property.name) (handling.stored property),
      .return (some .this)] }

def handedOver (handling : Handling) (property : Property) : Expression :=
  if handling.copies property then
    .readOnlyList (.ownField property.name)
  else
    .ownField property.name

/-- The statement of `init` that hands the value over to a product. -/
def initStatement (handling : Handling) (property : Property) (product : Expression) :
    Statement :=
  .assign (.field product property.name) (handling.handedOver property)

end Handling

end BuilderSynthesis.Builder
