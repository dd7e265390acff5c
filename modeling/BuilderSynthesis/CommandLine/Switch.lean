/-!
Contract: the arguments of a command as switches and operands.

A switch is written out after two dashes or as one letter after a single dash.
Letters can be put together; the first that takes a value ends the group, and the
rest of the group is the value. A value also stands after an equals sign or is the
next argument, which then must not look like a switch. After two dashes alone
everything is an operand; a single dash is one too.
-/

namespace BuilderSynthesis.CommandLine

inductive SwitchKind where
  /-- Given at most once, without a value. -/
  | flag
  /-- Given any number of times, without a value. -/
  | counter
  /-- Given at most once, with a value. -/
  | value
  /-- Asks for the version, whatever comes after it. -/
  | version
deriving DecidableEq, Repr

structure Switch where
  name : String
  letter : Option Char := none
  kind : SwitchKind
deriving DecidableEq, Repr

inductive UsageFault where
  | noCommand
  | unknownCommand (name : String)
  | unexpected (argument : String)
  | missingValue (name : String)
  | unexpectedValue (name : String)
  | emptyValue (name : String)
  | repeated (name : String)
  | unknownPolicy (message : String)
deriving DecidableEq, Repr

def UsageFault.message : UsageFault → String
  | .noCommand => "a command is required"
  | .unknownCommand name => "unrecognized command '" ++ name ++ "'"
  | .unexpected argument => "unexpected argument '" ++ argument ++ "'"
  | .missingValue name => "a value is required for '--" ++ name ++ "'"
  | .unexpectedValue name => "'--" ++ name ++ "' takes no value"
  | .emptyValue name => "the value of '--" ++ name ++ "' is empty"
  | .repeated name => "'--" ++ name ++ "' cannot be given more than once"
  | .unknownPolicy message => message

/-- Why reading arguments ends before the last one. -/
inductive Stop where
  | fault (fault : UsageFault)
  /-- The version is asked for. -/
  | version
deriving DecidableEq, Repr

structure Given where
  switch : Switch
  value : Option String := none
deriving DecidableEq, Repr

/-- The switches in one argument, and the switch that waits for the next one as its value. -/
structure Group where
  given : List Given := []
  waiting : Option Switch := none
deriving DecidableEq, Repr

/-- Whether an argument is neither an operand nor a value. -/
def isSwitch (argument : String) : Bool :=
  match argument.toList with
  | '-' :: _ :: _ => true
  | _ => false

/-- Reads a switch that is written out, with what stands after an equals sign. -/
def readName (switches : List Switch) (name : String) (value : Option String) :
    Except Stop Group :=
  match switches.find? (fun switch => switch.name == name) with
  | none => .error (.fault (.unexpected ("--" ++ name)))
  | some switch =>
      match switch.kind, value with
      | .value, some value => .ok ⟨[⟨switch, some value⟩], none⟩
      | .value, none => .ok ⟨[], some switch⟩
      | _, some _ => .error (.fault (.unexpectedValue name))
      | .version, none => .error .version
      | _, none => .ok ⟨[⟨switch, none⟩], none⟩

def attachedValue : List Char → String
  | '=' :: value => String.ofList value
  | value => String.ofList value

def readLetters (switches : List Switch) : List Char → Except Stop Group
  | [] => .ok {}
  | letter :: rest =>
      match switches.find? (fun switch => switch.letter == some letter) with
      | none => .error (.fault (.unexpected (String.ofList ['-', letter])))
      | some switch =>
          match switch.kind with
          | .version => .error .version
          | .value =>
              if rest.isEmpty then
                .ok ⟨[], some switch⟩
              else
                .ok ⟨[⟨switch, some (attachedValue rest)⟩], none⟩
          | _ => do
              let group ← readLetters switches rest
              return { group with given := ⟨switch, none⟩ :: group.given }

/-- What stands before the first equals sign, and after it if there is one. -/
def splitAtEquals : List Char → List Char × Option (List Char)
  | [] => ([], none)
  | '=' :: rest => ([], some rest)
  | character :: rest =>
      let (name, value) := splitAtEquals rest
      (character :: name, value)

def readSwitch (switches : List Switch) (argument : String) : Except Stop Group :=
  match argument.toList with
  | '-' :: '-' :: rest =>
      let (name, value) := splitAtEquals rest
      readName switches (String.ofList name) (value.map String.ofList)
  | _ :: letters => readLetters switches letters
  | [] => .ok {}

structure Arguments where
  given : List Given := []
  operands : List String := []
deriving DecidableEq, Repr

def Arguments.prepend (given : List Given) (arguments : Arguments) : Arguments :=
  { arguments with given := given ++ arguments.given }

def readArguments (switches : List Switch) : List String → Except Stop Arguments
  | [] => .ok {}
  | argument :: rest =>
      if argument = "--" then
        .ok ⟨[], rest⟩
      else if isSwitch argument then do
        let group ← readSwitch switches argument
        match group.waiting, rest with
        | none, rest => return (← readArguments switches rest).prepend group.given
        | some switch, [] => throw (.fault (.missingValue switch.name))
        | some switch, value :: rest =>
            if isSwitch value then
              throw (.fault (.missingValue switch.name))
            else
              return (← readArguments switches rest).prepend
                (group.given ++ [⟨switch, some value⟩])
      else do
        let arguments ← readArguments switches rest
        return { arguments with operands := argument :: arguments.operands }

/-- The first switch that is given again though it may be given once. -/
def repeated? : List Given → Option Switch
  | [] => none
  | given :: rest =>
      if given.switch.kind != .counter &&
          rest.any (fun other => other.switch.name == given.switch.name) then
        some given.switch
      else
        repeated? rest

namespace Arguments

def has (arguments : Arguments) (name : String) : Bool :=
  arguments.given.any (fun given => given.switch.name == name)

def value? (arguments : Arguments) (name : String) : Option String :=
  (arguments.given.find? (fun given => given.switch.name == name)).bind Given.value

/-- The path that a switch gives, which must not be empty. -/
def path? (arguments : Arguments) (name : String) : Except Stop (Option String) :=
  match arguments.value? name with
  | some "" => .error (.fault (.emptyValue name))
  | other => .ok other

end Arguments

end BuilderSynthesis.CommandLine
