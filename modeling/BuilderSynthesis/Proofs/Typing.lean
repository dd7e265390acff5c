import BuilderSynthesis.Proofs.Guarantee
import BuilderSynthesis.Proofs.Subtyping

/-!
Contract: when the objects of a program are of the classes that static types say.

A value with a static type is sound if it is no object, or the type is no declared class, or the
object is of the class or of a subclass. The machine checks what is stored in fields and what
methods give against the declared types, but three things it takes for granted: that a type is
found by its name, that initial values fit their fields, and that an object that a method gives
for a type parameter is the argument whose type the result has. The last two can be told from
the text of a program if initial values are constants or new objects, and if methods give for a
type parameter only null or a parameter.

Owns: `Sound`, `SoundStore` and `Faithful`, what the machine takes for granted.
-/

namespace BuilderSynthesis.Eval

open BuilderSynthesis.Code (Expression Method Model Statement TypeId TypeRef)

/-! ### Sound values and stores -/

/-- An object is of the class that a type is, if the type is a declared class. -/
def Fits (model : Model) (value : Value) (type : TypeRef) : Prop :=
  ∀ object className id, value = .object object → type = .named className →
    model.lookup className = some id → model.isSubtype object.type id = true

/-- A value is what its static type says. -/
def Sound (model : Model) (typed : Typed) : Prop :=
  ∀ type, typed.type = some type → Fits model typed.value type

/-- A value is sound, and an object has a static type. -/
structure Honest (model : Model) (typed : Typed) : Prop where
  sound : Sound model typed
  hasType : ∀ object, typed.value = .object object → typed.type ≠ none

/-- The fields of all objects hold what their declared types say. -/
def SoundStore (model : Model) (store : Store) : Prop :=
  ∀ object owner name value declared, store.slot? object (owner, name) = some value →
    fieldType model owner name = .ok declared → Fits model value declared

def typeParameter? : TypeRef → Option String
  | .var name => some name
  | _ => none

/-- The argument that decides the type of a result of a type parameter: the last one whose
parameter is of the type parameter. -/
def deciding? (method : Method) (arguments : List Typed) (name : String) : Option Typed :=
  Keyed.value? ((method.parameters.zip arguments).filterMap (fun entry =>
    (typeParameter? entry.1.type).map (fun parameter => (parameter, entry.2)))).reverse name

/-- Initial values fit the fields that start with them. -/
def Initialized (model : Model) : Prop :=
  ∀ type owner field initializer, (owner, field) ∈ instanceFields model type →
    field.initializer = some initializer → ∀ depth pending store typed after,
      (evaluate model ⟨invoke model depth, create model (invoke model depth) pending⟩
        ⟨none, type, []⟩ initializer).run store = (.ok typed, after) →
      accepts model field.type typed.type = true

/-- An object that a method gives for a type parameter is the argument that decides its type. -/
def HandsBack (model : Model) : Prop :=
  ∀ owner method name, Declares model owner method → method.returns = some (.var name) →
    ∀ depth this isPacked arguments store result after,
      (execute model (powersWith model depth) (frameOf this ⟨owner, method, isPacked⟩ arguments)
        method.body).run store = (.ok (some result), after) →
      ∀ argument, deciding? method arguments name = some argument →
        ∀ object, result.value = .object object → argument.value = .object object

/-- What the machine takes for granted. -/
structure Faithful (model : Model) : Prop where
  /-- A type is found by its name. -/
  named : ∀ id < model.size, model.lookup (model.qualifiedName id) = some id
  /-- The class above all classes is not declared. -/
  rootless : model.lookup Code.objectType = none
  initialized : Initialized model
  handsBack : HandsBack model

variable {model : Model}

theorem fits_of_plain {value : Value} (plain : ∀ object, value ≠ .object object)
    (type : TypeRef) : Fits model value type :=
  fun object _ _ same => absurd same (plain object)

theorem fits_of_className?_none {type : TypeRef} (unnamed : type.className? = none)
    (value : Value) : Fits model value type := by
  rintro object className id - rfl
  cases unnamed

theorem honest_of_plain {typed : Typed} (plain : ∀ object, typed.value ≠ .object object) :
    Honest model typed :=
  ⟨fun type _ => fits_of_plain plain type, fun object same => absurd same (plain object)⟩

theorem honest_of_fits {value : Value} {type : TypeRef} (fits : Fits model value type) :
    Honest model ⟨value, some type⟩ :=
  ⟨fun _ same => Option.some.inj same ▸ fits, fun _ _ => Option.some_ne_none type⟩

theorem eq_var_of_typeParameter? {type : TypeRef} {name : String}
    (isVar : typeParameter? type = some name) : type = .var name := by
  cases type with
  | var other => exact congrArg TypeRef.var (Option.some.inj isVar)
  | _ => cases isVar

theorem defaultValue_plain (type : TypeRef) (object : Object) :
    defaultValue type ≠ .object object := by
  unfold defaultValue
  split <;> exact Value.noConfusion

/-! ### Initial values -/

theorem exists_of_instanceFields {type owner : TypeId} {field : Code.Field}
    (member : (owner, field) ∈ instanceFields model type) :
    model.isSubtype type owner = true ∧
      ∃ declaration, model.get? owner = some declaration ∧ field ∈ declaration.fields := by
  obtain ⟨other, above, declared⟩ := List.mem_flatMap.1 member
  cases known : model.get? other with
  | none => simp [known] at declared
  | some declaration =>
      simp only [known, List.mem_map, List.mem_filter, Prod.mk.injEq] at declared
      obtain ⟨same, ⟨here, -⟩, rfl, rfl⟩ := declared
      exact ⟨(Model.mem_supertypes_iff _ _).1 above, declaration, known, here⟩

def startType? (model : Model) : Expression → Option (Option TypeRef)
  | .null => some none
  | .bool _ => some (some (.primitive .bool))
  | .int _ => some (some (.primitive .int))
  | .string _ => some (some (.primitive .string))
  | .new (.named className) => (model.lookup className).map fun type => some (model.typeRef type)
  | _ => none

/-- An object is made with its class as its static type. -/
theorem guarantees_create_type (invoke : Invoker) (pending : Nat) (type : TypeId) :
    Guarantees (fun _ => True) (fun _ => True)
      (fun typed => typed.type = some (model.typeRef type)) (create model invoke pending type) := by
  cases pending with
  | zero => exact guarantees_throw trivial
  | succ pending =>
      exact guarantees_newInstance (fun _ => trivial) (fun _ _ => True)
        (fun _ _ _ _ _ => guarantees_anything fun _ => trivial) fun _ _ _ _ _ _ => ⟨trivial, rfl⟩

theorem guarantees_startType {expression : Expression} {type : Option TypeRef}
    (starts : startType? model expression = some type) (invoke : Invoker) (pending : Nat)
    (frame : Frame) :
    Guarantees (fun _ => True) (fun _ => True) (fun typed => typed.type = type)
      (evaluate model ⟨invoke, create model invoke pending⟩ frame expression) := by
  cases expression with
  | null => exact guarantees_pure (Option.some.inj starts)
  | bool value => exact guarantees_pure (Option.some.inj starts)
  | int value => exact guarantees_pure (Option.some.inj starts)
  | string value => exact guarantees_pure (Option.some.inj starts)
  | new made =>
      cases made with
      | named className =>
          obtain ⟨id, found, rfl⟩ := Option.map_eq_some_iff.1 starts
          unfold evaluate
          refine (guarantees_settled (fun _ => trivial) _).bind fun other same => ?_
          obtain rfl := Option.some.inj (found.symm.trans (lookup_of_findClass same))
          exact guarantees_create_type invoke pending id
      | _ => cases starts
  | _ => cases starts

/-- Constants and new objects fit fields that take their types. -/
theorem initialized_of_startType
    (fit : ∀ owner declaration field initializer, model.get? owner = some declaration →
      field ∈ declaration.fields → field.initializer = some initializer →
      ∃ start, startType? model initializer = some start ∧
        accepts model field.type start = true) : Initialized model := by
  intro type owner field initializer member given depth pending store typed after run
  obtain ⟨-, declaration, known, here⟩ := exists_of_instanceFields member
  obtain ⟨start, starts, accepted⟩ := fit owner declaration field initializer known here given
  have same := (guarantees_startType starts (invoke model depth) pending ⟨none, type, []⟩).value
    trivial run
  rw [same.2]
  exact accepted

/-! ### Results of a type parameter -/

/-- A value that is returned for a type parameter is null or the last parameter of that type
parameter, which has its name for itself. -/
def ReturnsParameter (method : Method) (name : String) : Prop :=
  ∀ value, .return (some value) ∈ method.body → value = .null ∨
    ∃ earlier parameter later, method.parameters = earlier ++ parameter :: later ∧
      parameter.type = .var name ∧ value = .ident parameter.name ∧
      (∀ other ∈ earlier, other.name ≠ parameter.name) ∧
      ∀ other ∈ later, other.name ≠ parameter.name ∧ other.type ≠ .var name

/-- A value is that of an expression that a statement returns. -/
def IsReturned (model : Model) (powers : Powers) (frame : Frame) (body : List Statement)
    (result : Typed) : Prop :=
  ∃ value store after, .return (some value) ∈ body ∧
    (evaluate model powers frame value).run store = (.ok result, after)

theorem guarantees_isReturned {powers : Powers} {frame : Frame} (body : List Statement) :
    Guarantees (fun _ => True) (fun _ => True)
      (fun returned => ∀ result, returned = some result →
        IsReturned model powers frame body result)
      (execute model powers frame body) := by
  have anything : ∀ {α : Type} (computation : Exec α),
      Guarantees (fun _ => True) (fun _ => True) (fun _ => True) computation := fun _ =>
    guarantees_anything fun _ => trivial
  induction body with
  | nil => exact guarantees_pure fun _ same => absurd same.symm (Option.some_ne_none _)
  | cons statement rest inductionHypothesis =>
      have later : Guarantees (fun _ => True) (fun _ => True)
          (fun returned => ∀ result, returned = some result →
            IsReturned model powers frame (statement :: rest) result)
          (execute model powers frame rest) := by
        refine inductionHypothesis.mono fun returned found result same => ?_
        obtain ⟨value, store, after, member, run⟩ := found result same
        exact ⟨value, store, after, List.mem_cons_of_mem statement member, run⟩
      cases statement with
      | assign target value =>
          unfold execute
          exact (anything _).bind fun _ _ => (anything _).bind fun _ _ => later
      | evaluate value =>
          unfold execute
          exact (anything _).bind fun _ _ => later
      | «return» value =>
          cases value with
          | none => exact guarantees_pure fun _ same => absurd same.symm (Option.some_ne_none _)
          | some value =>
              unfold execute
              refine (anything _).given.bind fun typed given => ?_
              obtain ⟨-, store, after, run⟩ := given
              exact guarantees_pure fun result same =>
                ⟨value, store, after, List.mem_cons_self, Option.some.inj same ▸ run⟩

/-- Of entries from two lists side by side, the last one that has a key has its value. -/
theorem value?_zip_of_last [DecidableEq κ] {convert : α × β → Option (κ × γ)}
    {earlier later : List α} {front rest : List β} (lengths : earlier.length = front.length)
    {item : α} {own : β} {key : κ} {result : γ} (here : convert (item, own) = some (key, result))
    (behind : ∀ other ∈ later, ∀ value entry, convert (other, value) = some entry →
      entry.1 ≠ key) :
    Keyed.value? (((earlier ++ item :: later).zip (front ++ own :: rest)).filterMap
      convert).reverse key = some result := by
  have absent : Keyed.value? ((later.zip rest).filterMap convert).reverse key = none := by
    refine (Keyed.value?_eq_none_iff _ _).2 fun listed => ?_
    obtain ⟨entry, member, same⟩ := List.mem_map.1 listed
    obtain ⟨⟨other, value⟩, paired, given⟩ := List.mem_filterMap.1 (List.mem_reverse.1 member)
    exact behind other (List.of_mem_zip paired).1 value entry given same
  rw [List.zip_append lengths, List.zip_cons_cons, List.filterMap_append,
    List.filterMap_cons_some here, List.reverse_append, List.reverse_cons, List.append_assoc,
    Keyed.value?_append, absent, Option.none_or, List.singleton_append, Keyed.value?, if_pos rfl]

/-- A parameter that has its name for itself has no value if it has no argument. -/
theorem lt_length_of_parameterValues {method : Method} {earlier later : List Code.Parameter}
    {parameter : Code.Parameter} (parameters : method.parameters = earlier ++ parameter :: later)
    (before : ∀ other ∈ earlier, other.name ≠ parameter.name) {arguments : List Typed}
    {typed : Typed}
    (found : Keyed.value? (parameterValues method arguments) parameter.name = some typed) :
    earlier.length < arguments.length := by
  by_contra short
  obtain ⟨⟨other, argument⟩, paired, same⟩ :=
    List.mem_map.1 (List.mem_reverse.1 (Keyed.mem_of_value? found))
  rw [parameters, List.zip_eq_zip_take_min] at paired
  have early := (List.of_mem_zip paired).1
  rw [List.take_append_of_le_length (by omega)] at early
  exact before other (List.mem_of_mem_take early) (Prod.mk.inj same).1

/-- The value of a parameter that has its name for itself and is the last of a type parameter is
the argument that decides the type. -/
theorem value_of_last {method : Method} {name : String} {earlier later : List Code.Parameter}
    {parameter : Code.Parameter} (parameters : method.parameters = earlier ++ parameter :: later)
    (ofType : parameter.type = .var name)
    (before : ∀ other ∈ earlier, other.name ≠ parameter.name)
    (behind : ∀ other ∈ later, other.name ≠ parameter.name ∧ other.type ≠ .var name)
    {arguments : List Typed} {typed argument : Typed}
    (found : Keyed.value? (parameterValues method arguments) parameter.name = some typed)
    (decides : deciding? method arguments name = some argument) :
    typed.value = argument.value := by
  have long := lt_length_of_parameterValues parameters before found
  have lengths : earlier.length = (arguments.take earlier.length).length := by
    rw [List.length_take]
    omega
  have split : arguments = arguments.take earlier.length ++
      arguments[earlier.length] :: arguments.drop (earlier.length + 1) := by
    rw [← List.drop_eq_getElem_cons long, List.take_append_drop]
  have isNamed : typed = ⟨arguments[earlier.length].value, some (method.erase parameter.type)⟩ := by
    unfold parameterValues at found
    rw [parameters, split, ← List.filterMap_eq_map, value?_zip_of_last lengths (by rfl)]
      at found
    · exact (Option.some.inj found).symm
    · rintro other member _ _ ⟨⟩
      exact (behind other member).1
  have isDeciding : argument = arguments[earlier.length] := by
    unfold deciding? at decides
    rw [parameters, split, value?_zip_of_last lengths (by rw [ofType]; rfl)] at decides
    · exact (Option.some.inj decides).symm
    · intro other member _ entry given same
      obtain ⟨written, isVar, rfl⟩ := Option.map_eq_some_iff.1 given
      exact (behind other member).2 (same ▸ eq_var_of_typeParameter? isVar)
  rw [isNamed, isDeciding]

theorem handsBack_of_returnsParameter
    (returns : ∀ owner method name, Declares model owner method →
      method.returns = some (.var name) → ReturnsParameter method name) : HandsBack model := by
  intro owner method name declares isGeneric depth this isPacked arguments store result after run
    argument decides object isObject
  obtain ⟨value, between, _, member, evaluated⟩ :=
    ((guarantees_isReturned method.body).value trivial run).2 result rfl
  rcases returns owner method name declares isGeneric value member with
    rfl | ⟨earlier, parameter, later, parameters, ofType, rfl, before, behind⟩
  · obtain rfl := Except.ok.inj (Prod.mk.inj evaluated).1
    cases isObject
  · unfold evaluate at evaluated
    split at evaluated
    · rename_i typed found
      obtain rfl := Except.ok.inj (Prod.mk.inj evaluated).1
      rw [← value_of_last parameters ofType before behind found decides]
      exact isObject
    · cases evaluated

end BuilderSynthesis.Eval
