import BuilderSynthesis.Code.TypeRef

/-!
Contract: the expressions and statements that method bodies consist of.

Besides field access, object creation and calls there are two ways to pass a list
on: as a copy that can be changed, and as a view that cannot. Both keep null as
it is. `within` lists what an expression consists of, itself first.
-/

namespace BuilderSynthesis.Code

inductive Expression where
  | null
  | bool (value : Bool)
  | int (value : Int)
  | string (value : String)
  /-- A parameter. -/
  | ident (name : String)
  | this
  | field (target : Expression) (name : String)
  /-- An object made by the constructor without arguments. -/
  | new (type : TypeRef)
  /-- A call; the receiver `this` is not written out. -/
  | call (target : Expression) (method : String) (arguments : List Expression)
  /-- A call of the implementation that the superclass has. -/
  | superCall (method : String) (arguments : List Expression)
  /-- A copy of a list that can be changed. -/
  | copyList (list : Expression)
  /-- A view of a list that cannot be changed. -/
  | readOnlyList (list : Expression)
deriving Repr, Inhabited

namespace Expression

/-- A field of `this`. -/
def ownField (name : String) : Expression :=
  .field .this name

mutual

/-- An expression and all expressions inside it, outermost first. -/
def within : Expression → List Expression
  | .field target name => .field target name :: target.within
  | .call target method arguments =>
      .call target method arguments :: (target.within ++ withinAll arguments)
  | .superCall method arguments => .superCall method arguments :: withinAll arguments
  | .copyList list => .copyList list :: list.within
  | .readOnlyList list => .readOnlyList list :: list.within
  | other => [other]

/-- The expressions inside each of several, one after the other. -/
def withinAll : List Expression → List Expression
  | [] => []
  | first :: rest => first.within ++ withinAll rest

end

end Expression

inductive Statement where
  /-- Stores a value in the field that the target is. -/
  | assign (target value : Expression)
  | return (value : Option Expression)
  | evaluate (value : Expression)
deriving Repr, Inhabited

def Statement.within : Statement → List Expression
  | .assign target value => target.within ++ value.within
  | .return (some value) => value.within
  | .return none => []
  | .evaluate value => value.within

end BuilderSynthesis.Code
