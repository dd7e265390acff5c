import BuilderSynthesis.Code.Declaration
import BuilderSynthesis.Decimal.Shortest
import BuilderSynthesis.Keyed
import BuilderSynthesis.Text.Quoted

/-!
Contract: the values of a running program and the store behind them.

Objects, arrays and lists are known by their places in the store, so that two
values are the same object exactly if their places agree. A read-only list has
the place of the list that it is a view of. An object knows its class; its slots
are keyed by the type that declares the field, so that fields of one name in
different types stay apart.

Owns: the operations on the store. Each adds at the end or changes one place.
-/

namespace BuilderSynthesis.Eval

open BuilderSynthesis.Code (TypeId TypeRef)

/-- An object: its place in the store and its class. -/
structure Object where
  place : Nat
  type : TypeId
deriving DecidableEq, Repr, Inhabited

inductive Value where
  | null
  | int (value : Int)
  | float (value : Decimal.Double)
  | bool (value : Bool)
  | char (value : Char)
  | text (value : String)
  | object (object : Object)
  | array (place : Nat)
  | list (place : Nat) (isReadOnly : Bool)
deriving DecidableEq, Repr, Inhabited

/-- A value with its static type; the null literal has none. -/
structure Typed where
  value : Value
  type : Option TypeRef := none
deriving DecidableEq, Repr, Inhabited

/-- A field of an object: the type that declares it and its name. -/
abbrev Slot := TypeId × String

/-- What the fields of an object hold. -/
abbrev Instance := List (Slot × Value)

/-- The objects, arrays and lists of a running program. -/
structure Store where
  objects : List Instance := []
  arrays : List (List Value) := []
  lists : List (List Value) := []
deriving DecidableEq, Repr

namespace Store

def slot? (store : Store) (object : Object) (slot : Slot) : Option Value :=
  Keyed.value? (store.objects.getD object.place []) slot

def write (store : Store) (object : Object) (slot : Slot) (value : Value) : Store :=
  { store with
    objects := store.objects.modify object.place (fun fields => Keyed.put fields slot value) }

def newObject (store : Store) (type : TypeId) (slots : Instance) : Object × Store :=
  (⟨store.objects.length, type⟩, { store with objects := store.objects ++ [slots] })

def newArray (store : Store) (items : List Value) : Value × Store :=
  (.array store.arrays.length, { store with arrays := store.arrays ++ [items] })

def newList (store : Store) (items : List Value) : Value × Store :=
  (.list store.lists.length false, { store with lists := store.lists ++ [items] })

def arrayItems (store : Store) (place : Nat) : List Value :=
  store.arrays.getD place []

def listItems (store : Store) (place : Nat) : List Value :=
  store.lists.getD place []

def append (store : Store) (place : Nat) (item : Value) : Store :=
  { store with lists := store.lists.modify place (fun items => items ++ [item]) }

end Store

namespace Value

def text? : Value → Option String
  | .text value => some value
  | _ => none

def texts? (store : Store) : Value → Option (List String)
  | .array place => (store.arrayItems place).mapM text?
  | .list place _ => (store.listItems place).mapM text?
  | _ => none

/-- Whether two values are one: the same object, array or list, or equal otherwise. -/
def isSame : Value → Value → Bool
  | .float left, .float right => left.sameNumber right
  | left, right => left == right

def report (store : Store) : Value → String
  | .null => "null"
  | .int value => toString value
  | .float value => value.text
  | .bool true => "true"
  | .bool false => "false"
  | .char value => "'" ++ String.ofList [value] ++ "'"
  | .text value => Text.quoted value
  | .object target => "<object #" ++ toString target.type ++ ">"
  | .array place => "<array of " ++ toString (store.arrayItems place).length ++ ">"
  | .list place _ => "<list of " ++ toString (store.listItems place).length ++ ">"

end Value

end BuilderSynthesis.Eval
