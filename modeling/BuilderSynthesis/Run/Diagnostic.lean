/-!
Contract: what a run reports besides its result.

A diagnostic comes from one phase and may name a class and a place in the schema.
A class without a builder is reported in this way and is no failure.
-/

namespace BuilderSynthesis.Run

/-- How serious a diagnostic is, the least serious first. -/
inductive Severity where
  | info
  | warning
  | error
deriving DecidableEq, Repr

namespace Severity

def name : Severity → String
  | .info => "info"
  | .warning => "warning"
  | .error => "error"

/-- The place of a severity in the order of seriousness. -/
def rank : Severity → Nat
  | .info => 0
  | .warning => 1
  | .error => 2

def worse (left right : Severity) : Severity :=
  if left.rank < right.rank then right else left

end Severity

structure Diagnostic where
  severity : Severity
  phase : String
  message : String
  /-- A place in the schema, as text. -/
  location : Option String := none
  className : Option String := none
deriving DecidableEq, Repr

namespace Diagnostic

/-- The message, and on a line of its own the place if it is known. -/
def description (diagnostic : Diagnostic) : String :=
  match diagnostic.location with
  | some location => diagnostic.message ++ "\n  --> " ++ location
  | none => diagnostic.message

def text (diagnostic : Diagnostic) : String :=
  diagnostic.severity.name ++ ": " ++ diagnostic.description

end Diagnostic

end BuilderSynthesis.Run
