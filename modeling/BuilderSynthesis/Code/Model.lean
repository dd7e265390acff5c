import BuilderSynthesis.Code.Declaration
import BuilderSynthesis.Text.Segment

/-!
Contract: the declared types of a program, and requests to declare more.

A type is known by its position, which never changes, and found by its qualified
name; the type declared last under a name is the one that is found. A request
either gives a model with the declaration or a conflict, and a refused request
has no effect.

Does not own: whether links to superclasses are free of cycles. A walk along them
takes at most as many steps as there are types.
-/

namespace BuilderSynthesis.Code

inductive Conflict where
  | type (name : String)
  | nestedType (outer name : String)
  | field (owner name : String)
  | method (owner signature : String)
  /-- The request is about a position that holds no type. -/
  | unknownType (id : TypeId)
deriving DecidableEq, Repr

def Conflict.message : Conflict → String
  | .type name => "type '" ++ name ++ "' is already declared"
  | .nestedType outer name =>
      "'" ++ outer ++ "' already contains nested type '" ++ name ++ "'"
  | .field owner name => "'" ++ owner ++ "' already declares field '" ++ name ++ "'"
  | .method owner signature =>
      "'" ++ owner ++ "' already declares method '" ++ signature ++ "'"
  | .unknownType id => "no type has position " ++ toString id

structure Model where
  /-- The types in the order of their declaration. -/
  types : List Declaration := []
  /-- Where the type of a qualified name is, for the latest declaration first. -/
  index : List (String × TypeId) := []
deriving Repr, Inhabited

namespace Model

def size (model : Model) : Nat :=
  model.types.length

def get? (model : Model) (id : TypeId) : Option Declaration :=
  model.types[id]?

def lookup (model : Model) (name : String) : Option TypeId :=
  Keyed.value? model.index name

/-- A model with one more type, at the position that was the size. -/
def insert (model : Model) (declaration : Declaration) : Model :=
  ⟨model.types ++ [declaration], (declaration.qualifiedName, model.size) :: model.index⟩

theorem size_insert (model : Model) (declaration : Declaration) :
    (model.insert declaration).size = model.size + 1 := by
  simp [size, insert]

theorem get?_insert_of_lt (model : Model) (declaration : Declaration) {id : TypeId}
    (known : id < model.size) : (model.insert declaration).get? id = model.get? id :=
  List.getElem?_append_left known

theorem get?_insert_size (model : Model) (declaration : Declaration) :
    (model.insert declaration).get? model.size = some declaration := by
  simp [get?, insert, size]

def update (model : Model) (id : TypeId) (change : Declaration → Declaration) : Model :=
  { model with types := model.types.modify id change }

theorem size_update (model : Model) (id : TypeId) (change : Declaration → Declaration) :
    (model.update id change).size = model.size := by
  simp [size, update]

theorem get?_update (model : Model) (id : TypeId) (change : Declaration → Declaration)
    (other : TypeId) :
    (model.update id change).get? other =
      if other = id then (model.get? other).map change else model.get? other := by
  by_cases same : other = id
  · simp [get?, update, same]
  · simp [get?, update, same, Ne.symm same]

def declareClass (model : Model) (qualifiedName : String) (header : Header) :
    Except Conflict (TypeId × Model) :=
  match model.lookup qualifiedName with
  | some _ => .error (.type qualifiedName)
  | none =>
      .ok (model.size, model.insert {
        header := header
        qualifiedName := qualifiedName
        package := Text.beforeLastDot? qualifiedName })

def declareNested (model : Model) (outer : TypeId) (header : Header) :
    Except Conflict (TypeId × Model) :=
  match model.get? outer with
  | none => .error (.unknownType outer)
  | some parent =>
      match parent.nested? header.name with
      | some _ => .error (.nestedType parent.qualifiedName header.name)
      | none =>
          let inserted := model.insert {
            header := header
            qualifiedName := parent.qualifiedName ++ "." ++ header.name
            package := parent.package
            outer := some outer }
          .ok (model.size, inserted.update outer (fun declaration =>
            { declaration with nested := declaration.nested ++ [(header.name, model.size)] }))

def declareField (model : Model) (owner : TypeId) (field : Field) : Except Conflict Model :=
  match model.get? owner with
  | none => .error (.unknownType owner)
  | some declaration =>
      match declaration.field? field.name with
      | some _ => .error (.field declaration.qualifiedName field.name)
      | none =>
          .ok (model.update owner (fun declaration =>
            { declaration with fields := declaration.fields ++ [field] }))

def declareMethod (model : Model) (owner : TypeId) (method : Method) :
    Except Conflict Model :=
  match model.get? owner with
  | none => .error (.unknownType owner)
  | some declaration =>
      if declaration.methods.any (fun other => other.sameSignature method) then
        .error (.method declaration.qualifiedName method.signature)
      else
        .ok (model.update owner (fun declaration =>
          { declaration with methods := declaration.methods ++ [method] }))

def setSuperclass (model : Model) (id superclass : TypeId) : Model :=
  model.update id (fun declaration => { declaration with superclass := some superclass })

def superclass? (model : Model) (id : TypeId) : Option TypeId :=
  (model.get? id).bind Declaration.superclass

def qualifiedName (model : Model) (id : TypeId) : String :=
  match model.get? id with
  | none => ""
  | some declaration => declaration.qualifiedName

def typeRef (model : Model) (id : TypeId) : TypeRef :=
  .named (model.qualifiedName id)

/-- The chain of superclasses that starts at a type, up to a number of steps. -/
def chain (model : Model) : Nat → Option TypeId → List TypeId
  | 0, _ => []
  | _ + 1, none => []
  | steps + 1, some id => id :: model.chain steps (model.superclass? id)

/-- A type and its superclasses, nearest first; at most as many as there are types, so that a
cycle ends as well. -/
def supertypes (model : Model) (id : TypeId) : List TypeId :=
  model.chain model.size (some id)

def isSubtype (model : Model) (sub sup : TypeId) : Bool :=
  (model.supertypes sub).contains sup

/-- Positions and types in the order of declaration. -/
def entries (model : Model) : List (TypeId × Declaration) :=
  model.types.zipIdx.map Prod.swap

def topLevel (model : Model) : List (TypeId × Declaration) :=
  model.entries.filter (fun entry => entry.2.isTopLevel)

end Model

end BuilderSynthesis.Code
