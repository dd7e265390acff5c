import BuilderSynthesis.Code.Outline
import BuilderSynthesis.Eval.Resolution
import BuilderSynthesis.Eval.Value

/-!
Contract: what running the methods of a model does.

An expression is evaluated in a frame, which knows the receiver, the type that
declares the running method, and the parameters. A fault ends the run; what was
stored before it stays stored.

Evaluation goes down for three reasons, one inside the other. An expression is
smaller than the one it is part of. Making an object evaluates the initial values
of its fields, which may make further objects; once more of these are pending than
there are types, one class takes another object of itself first, and the program
never ends. Calls are pending to a fixed depth.
-/

namespace BuilderSynthesis.Eval

open BuilderSynthesis.Code (Expression Method Model Statement TypeId TypeRef)

/-- A computation on the store that may give no value. -/
abbrev Exec := ExceptT Failure (StateM Store)

def raise (fault : Fault) : Exec α :=
  throw (.fault fault)

/-- A computation that does not depend on the store. -/
def settled (result : Except Fault α) : Exec α :=
  ExceptT.mk (pure (result.mapError Failure.fault))

/-- The receiver, the owner and the parameters of a running method. -/
structure Frame where
  this : Option Object
  /-- The type that declares the running method. -/
  owner : TypeId
  /-- The parameters, the last one first. -/
  locals : List (String × Typed)
deriving Repr

def Frame.local? (frame : Frame) (name : String) : Option Typed :=
  Keyed.value? frame.locals name

/-- A call of a method that is bound. -/
abbrev Invoker := Option Object → Binding → List Typed → Exec Typed

/-- The making of an object of a class. -/
abbrev Creator := TypeId → Exec Typed

/-- What evaluating an expression can fall back on. -/
structure Powers where
  invoke : Invoker
  create : Creator

def mismatch (expected : TypeRef) (found : Option TypeRef) : Fault :=
  .typeMismatch expected.text ((found.map TypeRef.text).getD "null")

/-- The object that a value is, and the type that its members are looked up in. -/
def receiver (model : Model) (typed : Typed) (member : String) :
    Except Fault (Object × TypeId) :=
  match typed.value with
  | .object object =>
      .ok (object, ((typed.type.bind TypeRef.className?).bind model.lookup).getD object.type)
  | .null => .error (.nullReceiver member)
  | _ => .error (.notAnObject member)

def findClass (model : Model) (name : String) : Except Fault TypeId :=
  match model.lookup name with
  | some type => .ok type
  | none => .error (.unknownType name)

/-- What a field that a type declares holds in an object. -/
def readSlot (model : Model) (object : Object) (owner : TypeId) (name : String) :
    Exec Value := do
  match (← get).slot? object (owner, name) with
  | some value => return value
  | none => raise (.noSuchField (model.qualifiedName object.type) name)

def copied (typed : Typed) : Exec Typed := do
  match typed.value with
  | .null => return typed
  | .list place _ =>
      let (value, store) := (← get).newList ((← get).listItems place)
      set store
      return { typed with value := value }
  | _ => raise (mismatch (.list (.named Code.objectType)) typed.type)

/-- A list as a view that cannot be changed. -/
def frozen (typed : Typed) : Exec Typed :=
  match typed.value with
  | .null => return typed
  | .list place _ => return { typed with value := .list place true }
  | _ => raise (mismatch (.list (.named Code.objectType)) typed.type)

def callOn (model : Model) (invoke : Invoker) (target : Typed) (name : String)
    (arguments : List Typed) : Exec Typed := do
  let (object, type) ← settled (receiver model target name)
  let binding ← settled (resolve model type name (arguments.map Typed.type) false)
  invoke (some object) (dispatch model object.type binding) arguments

def callOwn (model : Model) (invoke : Invoker) (frame : Frame) (name : String)
    (arguments : List Typed) : Exec Typed := do
  match frame.this with
  | some object =>
      let binding ← settled (resolve model frame.owner name (arguments.map Typed.type) false)
      invoke (some object) (dispatch model object.type binding) arguments
  | none =>
      let binding ← settled (resolve model frame.owner name (arguments.map Typed.type) true)
      invoke none binding arguments

def ownObject (frame : Frame) : Except Fault Object :=
  match frame.this with
  | some object => .ok object
  | none => .error .noReceiver

def callSuper (model : Model) (invoke : Invoker) (frame : Frame) (object : Object)
    (name : String) (arguments : List Typed) : Exec Typed := do
  match model.superclass? frame.owner with
  | none => raise (.noSuchMethod ("super of " ++ model.qualifiedName frame.owner) name)
  | some parent =>
      let binding ← settled (resolve model parent name (arguments.map Typed.type) false)
      invoke (some object) binding arguments

mutual

/-- The value of an expression. Arguments come before the receiver of a call. -/
def evaluate (model : Model) (powers : Powers) (frame : Frame) : Expression → Exec Typed
  | .null => return ⟨.null, none⟩
  | .bool value => return ⟨.bool value, some (.primitive .bool)⟩
  | .int value => return ⟨.int value, some (.primitive .int)⟩
  | .string value => return ⟨.text value, some (.primitive .string)⟩
  | .ident name =>
      match frame.local? name with
      | some typed => return typed
      | none => raise (.unknownVariable name)
  | .this => do
      let object ← settled (ownObject frame)
      return ⟨.object object, some (model.typeRef frame.owner)⟩
  | .field target name => do
      let target ← evaluate model powers frame target
      let (object, type) ← settled (receiver model target name)
      let owner ← settled (fieldOwner model type name)
      let value ← readSlot model object owner name
      return ⟨value, some (← settled (fieldType model owner name))⟩
  | .new type =>
      match type.className? with
      | none => raise (.unsupported (.creation type))
      | some name => do powers.create (← settled (findClass model name))
  | .call .this method arguments => do
      let arguments ← evaluateAll model powers frame arguments
      callOwn model powers.invoke frame method arguments
  | .call target method arguments => do
      let arguments ← evaluateAll model powers frame arguments
      let target ← evaluate model powers frame target
      callOn model powers.invoke target method arguments
  | .superCall method arguments => do
      let object ← settled (ownObject frame)
      let arguments ← evaluateAll model powers frame arguments
      callSuper model powers.invoke frame object method arguments
  | .copyList list => do copied (← evaluate model powers frame list)
  | .readOnlyList list => do frozen (← evaluate model powers frame list)

/-- The values of several expressions, in order. -/
def evaluateAll (model : Model) (powers : Powers) (frame : Frame) :
    List Expression → Exec (List Typed)
  | [] => return []
  | first :: rest => do
      let first ← evaluate model powers frame first
      return first :: (← evaluateAll model powers frame rest)

end

def assign (model : Model) (powers : Powers) (frame : Frame) (target : Expression)
    (value : Typed) : Exec Unit := do
  match target with
  | .field target name =>
      let target ← evaluate model powers frame target
      let (object, type) ← settled (receiver model target name)
      let owner ← settled (fieldOwner model type name)
      let declared ← settled (fieldType model owner name)
      if accepts model declared value.type then
        modify (fun store => store.write object (owner, name) value.value)
      else
        raise (mismatch declared value.type)
  | other => raise (.unsupported (.assignment other.outline))

/-- Runs statements up to one that returns, and gives the value that it returns. -/
def execute (model : Model) (powers : Powers) (frame : Frame) :
    List Statement → Exec (Option Typed)
  | [] => return none
  | .assign target value :: rest => do
      let value ← evaluate model powers frame value
      assign model powers frame target value
      execute model powers frame rest
  | .return (some value) :: _ => do return some (← evaluate model powers frame value)
  | .return none :: _ => return none
  | .evaluate value :: rest => do
      let _ ← evaluate model powers frame value
      execute model powers frame rest

/-- Arguments of which the last are gathered into an array, if the binding says so. -/
def packed (binding : Binding) (arguments : List Typed) : Exec (List Typed) := do
  match binding.isPacked, binding.method.parameters.getLast? with
  | true, some parameter =>
      let fixed := binding.method.parameters.length - 1
      let (value, store) := (← get).newArray ((arguments.drop fixed).map Typed.value)
      set store
      return arguments.take fixed ++ [⟨value, some (binding.method.erase parameter.type)⟩]
  | _, _ => return arguments

/-- The parameters of a method with the values of the arguments, the last one first. -/
def parameterValues (method : Method) (arguments : List Typed) : List (String × Typed) :=
  ((method.parameters.zip arguments).map (fun entry =>
    (entry.1.name, ⟨entry.2.value, some (method.erase entry.1.type)⟩))).reverse

/-- The types that a call gives to type parameters: those of the arguments for parameters that
are of a type parameter themselves, the last one first. -/
def inferredTypes (method : Method) (arguments : List Typed) : List (String × TypeRef) :=
  ((method.parameters.zip arguments).filterMap (fun entry =>
    match entry.1.type with
    | .var name => some (name, entry.2.type.getD (method.erase entry.1.type))
    | _ => none)).reverse

def resultType (method : Method) (arguments : List Typed) (declared : TypeRef) : TypeRef :=
  match declared with
  | .var name =>
      (Keyed.value? (inferredTypes method arguments) name).getD (method.erase declared)
  | other => other

def runMethod (model : Model) (powers : Powers) : Invoker := fun this binding arguments => do
  let method := binding.method
  let arguments ← packed binding arguments
  let frame : Frame := ⟨this, binding.owner, parameterValues method arguments⟩
  let returned ← execute model powers frame method.body
  match method.returns, returned with
  | none, _ => return ⟨.null, some .unit⟩
  | some _, none => raise (.unsupported (.missingResult method.name))
  | some declared, some result =>
      if accepts model (method.erase declared) result.type then
        return ⟨result.value, some (resultType method arguments declared)⟩
      else
        raise (mismatch (method.erase declared) result.type)

def defaultValue : TypeRef → Value
  | .primitive .int | .primitive .long | .primitive .byte => .int 0
  | .primitive .float | .primitive .double => .float .zero
  | .primitive .bool => .bool false
  | .primitive .char => .char '\x00'
  | _ => .null

def initialValue (model : Model) (powers : Powers) (frame : Frame) (field : Code.Field) :
    Exec Value :=
  match field.initializer with
  | some initializer => do return (← evaluate model powers frame initializer).value
  | none => return defaultValue field.type

def instanceFields (model : Model) (type : TypeId) : List (TypeId × Code.Field) :=
  (model.supertypes type).flatMap (fun owner =>
    match model.get? owner with
    | none => []
    | some declaration =>
        (declaration.fields.filter (fun field => !field.isStatic)).map (fun field =>
          (owner, field)))

/-- Makes an object whose fields have their initial values. -/
def newInstance (model : Model) (powers : Powers) : Creator := fun type => do
  match model.get? type with
  | none => raise (.unknownType (model.qualifiedName type))
  | some declaration =>
      if declaration.header.isAbstract then
        raise (.abstractInstantiation declaration.qualifiedName)
      else
        let frame : Frame := ⟨none, type, []⟩
        let slots ← (instanceFields model type).mapM (fun entry => do
          return ((entry.1, entry.2.name), ← initialValue model powers frame entry.2))
        let (object, store) := (← get).newObject type slots
        set store
        return ⟨.object object, some (model.typeRef type)⟩

/-- Makes an object, with at most a number of further objects pending inside each other. -/
def create (model : Model) (invoke : Invoker) : Nat → Creator
  | 0, type => throw (.divergence (model.qualifiedName type))
  | pending + 1, type => newInstance model ⟨invoke, create model invoke pending⟩ type

/-- Calls a method, with at most a number of calls pending inside each other. -/
def invoke (model : Model) : Nat → Invoker
  | 0, _, _, _ => raise .stackOverflow
  | depth + 1, this, binding, arguments =>
      runMethod model ⟨invoke model depth, create model (invoke model depth) model.size⟩
        this binding arguments

/-- How many calls may be pending. -/
def maximalDepth : Nat := 256

def instantiate (model : Model) (name : String) : Exec Typed := do
  create model (invoke model maximalDepth) model.size (← settled (findClass model name))

def callStatic (model : Model) (name method : String) (arguments : List Typed) :
    Exec Typed := do
  let type ← settled (findClass model name)
  let binding ← settled (resolve model type method (arguments.map Typed.type) true)
  invoke model maximalDepth none binding arguments

def call (model : Model) (target : Typed) (method : String) (arguments : List Typed) :
    Exec Typed :=
  callOn model (invoke model maximalDepth) target method arguments

/-- What a field of an object holds, looked up from the class of the object upward. -/
def fieldValue (model : Model) (target : Typed) (name : String) : Exec Value := do
  match target.value with
  | .object object =>
      let owner ← settled (fieldOwner model object.type name)
      readSlot model object owner name
  | _ => raise (.notAnObject name)

def appendItem (place : Nat) (isReadOnly : Bool) (item : Value) : Exec Nat := do
  if isReadOnly then
    raise .readOnlyList
  else
    modify (fun store => store.append place item)
    return ((← get).listItems place).length

end BuilderSynthesis.Eval
