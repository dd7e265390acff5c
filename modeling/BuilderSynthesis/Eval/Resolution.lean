import BuilderSynthesis.Code.Model
import BuilderSynthesis.Eval.Fault

/-!
Contract: which method a call means.

A call is bound by static types, the way a compiler does it: of the methods of a
type and its superclasses, without those whose signature a nearer type repeats,
the ones that take the arguments apply, first without and then with gathering
arguments into an array; of those that apply one must be at least as specific as
all others. The class of the receiver decides only which override of that method
runs.
-/

namespace BuilderSynthesis.Eval

open BuilderSynthesis.Code (Method Model TypeId TypeRef)
open BuilderSynthesis.Schema (Primitive)

/-- Whether a number of one type becomes one of another without being asked to. -/
def widens : Primitive → Primitive → Bool
  | .byte, .int | .byte, .long | .byte, .float | .byte, .double => true
  | .char, .int | .char, .long | .char, .float | .char, .double => true
  | .int, .long | .int, .float | .int, .double => true
  | .long, .float | .long, .double => true
  | .float, .double => true
  | _, _ => false

/-- Whether a class, by name, is another or one of its subclasses. -/
def isSubclass (model : Model) (sub sup : String) : Bool :=
  match model.lookup sub, model.lookup sup with
  | some sub, some sup => model.isSubtype sub sup
  | _, _ => false

def isAssignable (model : Model) : TypeRef → TypeRef → Bool
  | .primitive source, .primitive target => source == target || widens source target
  | .named source, .named target =>
      source == target || target == Code.objectType || isSubclass model source target
  | source, .named target => target == Code.objectType && source.isReference
  | .array source, .array target =>
      source == target ||
        (source.isReference && target.isReference && isAssignable model source target)
  | source, target => source == target

/-- Whether a value with a static type, or the null literal, can stand for one of a type. -/
def accepts (model : Model) (target : TypeRef) : Option TypeRef → Bool
  | none => target.isReference
  | some source => isAssignable model source target

/-- A method with the type that declares it. -/
structure Candidate where
  owner : TypeId
  method : Method
deriving Repr

/-- A method that a call means. -/
structure Binding where
  owner : TypeId
  method : Method
  /-- Whether the last arguments are gathered into an array. -/
  isPacked : Bool
deriving Repr

def declaredCandidates (model : Model) (name : String) (isStatic : Bool) (owner : TypeId) :
    List Candidate :=
  match model.get? owner with
  | none => []
  | some declaration =>
      (declaration.methods.filter (fun method =>
        method.name == name && method.isStatic == isStatic)).map (Candidate.mk owner)

/-- Candidates without those whose signature an earlier one has. -/
def withoutHidden : List Candidate → List Candidate → List Candidate
  | seen, [] => seen
  | seen, candidate :: rest =>
      if seen.any (fun other =>
          other.method.erasedParameters == candidate.method.erasedParameters) then
        withoutHidden seen rest
      else
        withoutHidden (seen ++ [candidate]) rest

/-- The methods that a call on a type can mean. -/
def candidates (model : Model) (type : TypeId) (name : String) (isStatic : Bool) :
    List Candidate :=
  withoutHidden [] ((model.supertypes type).flatMap (declaredCandidates model name isStatic))

def acceptsAll (model : Model) : List TypeRef → List (Option TypeRef) → Bool
  | [], [] => true
  | parameter :: parameters, argument :: arguments =>
      accepts model parameter argument && acceptsAll model parameters arguments
  | _, _ => false

def appliesPlainly (model : Model) (arguments : List (Option TypeRef)) (method : Method) :
    Bool :=
  acceptsAll model method.erasedParameters arguments

/-- Whether a method takes arguments if the last ones are gathered into an array. -/
def appliesPacked (model : Model) (arguments : List (Option TypeRef)) (method : Method) :
    Bool :=
  let parameters := method.erasedParameters
  method.isVariadic && parameters.length ≤ arguments.length + 1 &&
    match parameters.getLast?.bind TypeRef.element? with
    | none => false
    | some element =>
        acceptsAll model parameters.dropLast (arguments.take (parameters.length - 1)) &&
          (arguments.drop (parameters.length - 1)).all (accepts model element)

def isAsSpecific (model : Model) (method other : Method) : Bool :=
  acceptsAll model other.erasedParameters (method.erasedParameters.map some)

def mostSpecific? (model : Model) (applicable : List Candidate) : Option Candidate :=
  applicable.find? (fun candidate =>
    applicable.all (fun other => isAsSpecific model candidate.method other.method))

def callText (name : String) (arguments : List (Option TypeRef)) : String :=
  let texts := arguments.map (fun type => (type.map TypeRef.text).getD "null")
  name ++ "(" ++ String.intercalate ", " texts ++ ")"

/-- The method that a call on a type means. -/
def resolve (model : Model) (type : TypeId) (name : String)
    (arguments : List (Option TypeRef)) (isStatic : Bool) : Except Fault Binding :=
  let found := candidates model type name isStatic
  let choose := fun (applicable : List Candidate) (isPacked : Bool) =>
    match mostSpecific? model applicable with
    | some candidate => Except.ok ⟨candidate.owner, candidate.method, isPacked⟩
    | none =>
        Except.error (Fault.ambiguous (model.qualifiedName type) (callText name arguments))
  match found.filter (fun candidate => appliesPlainly model arguments candidate.method) with
  | first :: others => choose (first :: others) false
  | [] =>
      match found.filter (fun candidate => appliesPacked model arguments candidate.method) with
      | first :: others => choose (first :: others) true
      | [] =>
          .error (.noSuchMethod (model.qualifiedName type) (callText name arguments))

def overrides (binding : Binding) (method : Method) : Bool :=
  method.name == binding.method.name && !method.isStatic &&
    method.erasedParameters == binding.method.erasedParameters

/-- The nearest override of the bound method in types from the class of a receiver up to the
type that declares the method. -/
def overrideIn? (model : Model) (binding : Binding) : List TypeId → Option Binding
  | [] => none
  | owner :: rest =>
      if owner = binding.owner then
        none
      else
        match (model.get? owner).bind (fun declaration =>
            declaration.methods.find? (overrides binding)) with
        | some method => some ⟨owner, method, binding.isPacked⟩
        | none => overrideIn? model binding rest

/-- The method that runs for a receiver of a class. -/
def dispatch (model : Model) (type : TypeId) (binding : Binding) : Binding :=
  (overrideIn? model binding (model.supertypes type)).getD binding

/-- The nearest type, from a type upward, that declares a field that is not static. -/
def fieldOwner? (model : Model) (type : TypeId) (name : String) : Option TypeId :=
  (model.supertypes type).find? (fun owner =>
    match (model.get? owner).bind (fun declaration => declaration.field? name) with
    | some field => !field.isStatic
    | none => false)

/-- The nearest type that declares a field, or the fault that there is none. -/
def fieldOwner (model : Model) (type : TypeId) (name : String) : Except Fault TypeId :=
  match fieldOwner? model type name with
  | some owner => .ok owner
  | none => .error (.noSuchField (model.qualifiedName type) name)

def fieldType (model : Model) (owner : TypeId) (name : String) : Except Fault TypeRef :=
  match (model.get? owner).bind (fun declaration => declaration.field? name) with
  | some field => .ok field.type
  | none => .error (.noSuchField (model.qualifiedName owner) name)

end BuilderSynthesis.Eval
