import BuilderSynthesis.Command.Generation
import BuilderSynthesis.CommandLine.Switch
import BuilderSynthesis.Manifest.Reading

/-!
Contract: what a user asks for on the command line.

Before the name of the command stand only switches that every command understands;
the other arguments are those of the command. The first fault is the only one that
is reported.
-/

namespace BuilderSynthesis.CommandLine

inductive Request where
  | version
  /-- A starter manifest for a package in a directory. -/
  | create (package directory : String)
  | generate (schema : String) (options : Command.GenerationOptions)
  | check (schema : String)
  | list (schema : String) (asJson : Bool)
deriving DecidableEq, Repr

/-- The switch that every command understands: how much is told about the work. -/
def verbose : Switch :=
  ⟨"verbose", some 'v', .counter⟩

def globalSwitches : List Switch :=
  [verbose, ⟨"version", some 'V', .version⟩]

def schemaSwitch : Switch :=
  ⟨"schema", some 's', .value⟩

def outputSwitch : Switch :=
  ⟨"output", some 'o', .value⟩

/-- The package of a starter unless a user names one. -/
def defaultPackage : String := "com.example.model"

def commandArguments (switches : List Switch) (operandLimit : Nat) (rest : List String) :
    Except Stop Arguments := do
  let arguments ← readArguments (verbose :: switches) rest
  match arguments.operands.drop operandLimit with
  | operand :: _ => throw (.fault (.unexpected operand))
  | [] =>
      match repeated? arguments.given with
      | some switch => throw (.fault (.repeated switch.name))
      | none => return arguments

def requestedPolicy (arguments : Arguments) : Except Stop (Option Schema.Policy) :=
  match arguments.value? "policy" with
  | none => .ok none
  | some text =>
      match Schema.Policy.ofText? text with
      | some policy => .ok (some policy)
      | none => .error (.fault (.unknownPolicy (Schema.Policy.unknownMessage text)))

def schemaPath (arguments : Arguments) : Except Stop String := do
  return (← arguments.path? "schema").getD Manifest.fileName

def readCreate (rest : List String) : Except Stop Request := do
  let arguments ← commandArguments [outputSwitch] 1 rest
  let directory := (← arguments.path? "output").getD "."
  return .create (arguments.operands.head?.getD defaultPackage) directory

def readGenerate (rest : List String) : Except Stop Request := do
  let arguments ← commandArguments
    [schemaSwitch, outputSwitch, ⟨"policy", none, .value⟩, ⟨"dry-run", none, .flag⟩] 0 rest
  let schema ← schemaPath arguments
  let output ← arguments.path? "output"
  let policy ← requestedPolicy arguments
  return .generate schema ⟨output, policy, arguments.has "dry-run"⟩

def readCheck (rest : List String) : Except Stop Request := do
  let arguments ← commandArguments [schemaSwitch] 0 rest
  return .check (← schemaPath arguments)

def readList (rest : List String) : Except Stop Request := do
  let arguments ← commandArguments [schemaSwitch, ⟨"json", none, .flag⟩] 0 rest
  return .list (← schemaPath arguments) (arguments.has "json")

/-- Reads the request for a command by its name. -/
def readCommand (name : String) (rest : List String) : Except Stop Request :=
  match name with
  | "init" => readCreate rest
  | "generate" => readGenerate rest
  | "check" => readCheck rest
  | "list" => readList rest
  | other => .error (.fault (.unknownCommand other))

def readAll : List String → Except Stop Request
  | [] => .error (.fault .noCommand)
  | argument :: rest =>
      if argument = "--" then
        .error (.fault ((rest.head?.map UsageFault.unexpected).getD .noCommand))
      else if isSwitch argument then do
        let _ ← readSwitch globalSwitches argument
        readAll rest
      else
        readCommand argument rest

/-- What a user asks for, or what is wrong with the arguments. -/
def Request.read (arguments : List String) : Except UsageFault Request :=
  match readAll arguments with
  | .ok request => .ok request
  | .error .version => .ok .version
  | .error (.fault fault) => .error fault

end BuilderSynthesis.CommandLine
