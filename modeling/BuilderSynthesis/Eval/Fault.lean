import BuilderSynthesis.Code.TypeRef

/-!
Contract: why running a program gives no value.

A fault is found by the machine and reported. A program can also go on without end,
which is told apart from every fault.
-/

namespace BuilderSynthesis.Eval

inductive Construct where
  /-- An assignment to what is no field, spelled out by structure. -/
  | assignment (target : String)
  /-- An object of what is no class. -/
  | creation (type : Code.TypeRef)
  /-- A method with a result that ends without one. -/
  | missingResult (method : String)
deriving DecidableEq, Repr

def Construct.text : Construct → String
  | .assignment target => "assignment to " ++ target
  | .creation type => "new " ++ type.text
  | .missingResult method => "method '" ++ method ++ "' ended without returning a value"

inductive Fault where
  | unknownType (name : String)
  | noSuchMethod (type signature : String)
  | ambiguous (type signature : String)
  | noSuchField (type name : String)
  | unknownVariable (name : String)
  | abstractInstantiation (type : String)
  | nullReceiver (member : String)
  | notAnObject (member : String)
  | noReceiver
  | typeMismatch (expected found : String)
  | readOnlyList
  | unsupported (construct : Construct)
  | stackOverflow
deriving DecidableEq, Repr

def Fault.message : Fault → String
  | .unknownType name => "unknown type '" ++ name ++ "'"
  | .noSuchMethod type signature =>
      "no method " ++ signature ++ " applicable in '" ++ type ++ "'"
  | .ambiguous type signature => "call " ++ signature ++ " in '" ++ type ++ "' is ambiguous"
  | .noSuchField type name => "no field '" ++ name ++ "' in '" ++ type ++ "'"
  | .unknownVariable name => "unknown variable '" ++ name ++ "'"
  | .abstractInstantiation type => "cannot instantiate abstract type '" ++ type ++ "'"
  | .nullReceiver member => "'" ++ member ++ "' accessed on null"
  | .notAnObject member => "'" ++ member ++ "' accessed on a value that is not an object"
  | .noReceiver => "'this' used in a static context"
  | .typeMismatch expected found =>
      "type mismatch: expected " ++ expected ++ ", found " ++ found
  | .readOnlyList => "list is read-only"
  | .unsupported construct => "unsupported construct: " ++ construct.text
  | .stackOverflow => "call depth limit exceeded"

inductive Failure where
  | fault (fault : Fault)
  /-- The program never ends: making an object of a class takes making another one first. -/
  | divergence (type : String)
deriving DecidableEq, Repr

def Failure.message : Failure → String
  | .fault found => found.message
  | .divergence type => "creating '" ++ type ++ "' never ends"

end BuilderSynthesis.Eval
