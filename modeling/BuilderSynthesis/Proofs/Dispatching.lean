import BuilderSynthesis.Proofs.Guarantee
import BuilderSynthesis.Proofs.Identity

/-!
Contract: which static type the result of a call has.

A call is bound by static types, and the class of the receiver decides which override runs. The
result has the type that the override declares for it, with type parameters inferred from the
arguments: so two receivers of one static type may give results of different static types, and
do so exactly if the methods that run for them differ in that type.

Owns: `callType`, the type of the result of a bound method; `call_types_of_overrides`.
-/

namespace BuilderSynthesis.Eval

open BuilderSynthesis.Code (Method Model TypeId TypeRef)

/-! ### The type of a result -/

def gatheredTypes (binding : Binding) (types : List (Option TypeRef)) : List (Option TypeRef) :=
  match binding.isPacked, binding.method.parameters.getLast? with
  | true, some parameter =>
      types.take (binding.method.parameters.length - 1) ++
        [some (binding.method.erase parameter.type)]
  | _, _ => types

/-- The type that a method declares for its result, for arguments of some types. -/
def callType (binding : Binding) (types : List (Option TypeRef)) : TypeRef :=
  match binding.method.returns with
  | none => .unit
  | some declared =>
      resultType binding.method ((gatheredTypes binding types).map (Typed.mk .null)) declared

theorem map_type_gathered (binding : Binding) (arguments : List Typed) (place : Nat) :
    (gathered binding arguments place).map Typed.type =
      gatheredTypes binding (arguments.map Typed.type) := by
  unfold gathered gatheredTypes
  cases binding.isPacked with
  | false => rfl
  | true =>
      cases binding.method.parameters.getLast? with
      | none => rfl
      | some parameter => simp only [List.map_append, List.map_take, List.map_cons, List.map_nil]

theorem resultType_gathered (binding : Binding) (arguments : List Typed) (place : Nat)
    {declared : TypeRef} (returns : binding.method.returns = some declared) :
    resultType binding.method (gathered binding arguments place) declared =
      callType binding (arguments.map Typed.type) := by
  unfold callType
  rw [returns]
  apply resultType_congr
  rw [map_type_gathered, List.map_map]
  exact (List.map_id _).symm

/-- What a method gives has the type that the method declares for its result. -/
theorem guarantees_callType (model : Model) (depth : Nat) (this : Option Object)
    (binding : Binding) (arguments : List Typed) :
    Guarantees (fun _ => True) (fun _ => True)
      (fun result => result.type = some (callType binding (arguments.map Typed.type)))
      (invoke model depth this binding arguments) := by
  cases depth with
  | zero => exact guarantees_raise (fun _ => trivial) _ _
  | succ depth =>
      rw [invoke_succ]
      refine guarantees_runMethod (fun _ => trivial) (fun _ _ => True)
        (fun _ _ _ => trivial) (fun _ => guarantees_anything fun _ _ _ => trivial) ?_ ?_
      · intro returns
        unfold callType
        rw [returns]
      · intro place declared result returns _ _
        exact congrArg some (resultType_gathered binding arguments place returns)

/-! ### Overrides -/

/-- The overrides of a method in a class and above it declare the same type for the result. -/
def KeepsType (model : Model) (binding : Binding) (types : List (Option TypeRef))
    (type : TypeId) : Prop :=
  ∀ owner ∈ model.supertypes type, ∀ declaration, model.get? owner = some declaration →
    ∀ method ∈ declaration.methods, overrides binding method = true →
      callType ⟨owner, method, binding.isPacked⟩ types = callType binding types

theorem callType_dispatch {model : Model} {binding : Binding} {types : List (Option TypeRef)}
    {type : TypeId} (keeps : KeepsType model binding types type) :
    callType (dispatch model type binding) types = callType binding types := by
  unfold KeepsType at keeps
  unfold dispatch
  generalize model.supertypes type = owners at keeps ⊢
  induction owners with
  | nil => rfl
  | cons owner rest inductionHypothesis =>
      obtain ⟨here, above⟩ := List.forall_mem_cons.1 keeps
      rw [overrideIn?]
      split
      · rfl
      · split
        · rename_i method found
          obtain ⟨declaration, known, first⟩ := Option.bind_eq_some_iff.1 found
          exact here declaration known method (List.mem_of_find?_eq_some first)
            (List.find?_some first)
        · exact inductionHypothesis above

theorem receiver_of_declared {model : Model} {className member : String} {type other : TypeId}
    (declared : model.lookup className = some type) {value : Value} {object : Object}
    (received : receiver model ⟨value, some (.named className)⟩ member = .ok (object, other)) :
    value = .object object ∧ other = type := by
  cases value with
  | object own =>
      obtain ⟨rfl, rfl⟩ := Prod.mk.inj (Except.ok.inj received)
      exact ⟨rfl, by simp [TypeRef.className?, declared]⟩
  | _ => simp [receiver] at received

/-- What a call binds, and the type of its result by the method that runs. -/
theorem call_type {model : Model} {target result : Typed} {method : String}
    {arguments : List Typed} {store after : Store}
    (run : (call model target method arguments).run store = (.ok result, after)) :
    ∃ object type binding, receiver model target method = .ok (object, type) ∧
      resolve model type method (arguments.map Typed.type) false = .ok binding ∧
      result.type = some (callType (dispatch model object.type binding)
        (arguments.map Typed.type)) := by
  have guarantees : Guarantees (fun _ => True) (fun _ => True)
      (fun result => ∃ object type binding, receiver model target method = .ok (object, type) ∧
        resolve model type method (arguments.map Typed.type) false = .ok binding ∧
        result.type = some (callType (dispatch model object.type binding)
          (arguments.map Typed.type))) (call model target method arguments) :=
    guarantees_callOn (fun _ => trivial) fun object type binding received resolved =>
      (guarantees_callType model maximalDepth (some object) (dispatch model object.type binding)
        arguments).mono fun _ typed => ⟨object, type, binding, received, resolved, typed⟩
  exact (guarantees.value trivial run).2

/-- Two receivers of one declared type are bound to one method. The results have the types of the
methods that run for the classes of the receivers, and both that of the bound method if no
override changes it. -/
theorem call_types_of_overrides {model : Model} {className method : String} {type : TypeId}
    (declared : model.lookup className = some type) {left right : Value}
    {leftArguments rightArguments : List Typed}
    (sameTypes : leftArguments.map Typed.type = rightArguments.map Typed.type)
    {leftStore leftAfter rightStore rightAfter : Store} {leftResult rightResult : Typed}
    (leftRun : (call model ⟨left, some (.named className)⟩ method leftArguments).run leftStore =
      (.ok leftResult, leftAfter))
    (rightRun : (call model ⟨right, some (.named className)⟩ method rightArguments).run rightStore =
      (.ok rightResult, rightAfter)) :
    ∃ leftObject rightObject binding, left = .object leftObject ∧ right = .object rightObject ∧
      resolve model type method (leftArguments.map Typed.type) false = .ok binding ∧
      leftResult.type = some (callType (dispatch model leftObject.type binding)
        (leftArguments.map Typed.type)) ∧
      rightResult.type = some (callType (dispatch model rightObject.type binding)
        (leftArguments.map Typed.type)) ∧
      (KeepsType model binding (leftArguments.map Typed.type) leftObject.type →
        KeepsType model binding (leftArguments.map Typed.type) rightObject.type →
        leftResult.type = some (callType binding (leftArguments.map Typed.type)) ∧
          rightResult.type = leftResult.type) := by
  obtain ⟨leftObject, leftType, binding, leftReceived, resolved, leftTyped⟩ := call_type leftRun
  obtain ⟨rightObject, rightType, other, rightReceived, resolvedToo, rightTyped⟩ :=
    call_type rightRun
  obtain ⟨rfl, rfl⟩ := receiver_of_declared declared leftReceived
  obtain ⟨rfl, rfl⟩ := receiver_of_declared declared rightReceived
  rw [← sameTypes] at resolvedToo rightTyped
  obtain rfl := Except.ok.inj (resolved.symm.trans resolvedToo)
  refine ⟨leftObject, rightObject, binding, rfl, rfl, resolved, leftTyped, rightTyped, ?_⟩
  intro keepsLeft keepsRight
  rw [callType_dispatch keepsLeft] at leftTyped
  rw [callType_dispatch keepsRight] at rightTyped
  exact ⟨leftTyped, rightTyped.trans leftTyped.symm⟩

/-- A class whose method gives the receiver, and a subclass in which the method says that it
gives one of the subclass. -/
def narrowing : List Code.Request :=
  [.topLevel "zoo.Animal" { name := "Animal" },
    .topLevel "zoo.Dog" { name := "Dog" },
    .superclass 1 0,
    .method 0 (itself "zoo.Animal"),
    .method 1 (itself "zoo.Dog")]
where
  itself (className : String) : Method :=
    { name := "self", returns := some (.named className), body := [.return (some .this)] }

theorem reached_narrowing : Model.Reached (narrowing.foldl Model.serve {}) :=
  Model.steps_foldl_serve (by decide)

theorem acyclic_narrowing : Walk.Acyclic (narrowing.foldl Model.serve {}).superclass? := by
  refine Walk.acyclic_of_descending fun type other link => ?_
  match type, link with
  | 1, link => exact Option.some.inj link ▸ Nat.one_pos

/-- The method on an object of a class of these, as an animal. -/
def selfOf (type : TypeId) : Exec Typed :=
  call (narrowing.foldl Model.serve {}) ⟨.object ⟨0, type⟩, some (.named "zoo.Animal")⟩ "self" []

theorem self_of_animal :
    (selfOf 0).run {} = (.ok ⟨.object ⟨0, 0⟩, some (.named "zoo.Animal")⟩, {}) := by rfl

theorem self_of_dog :
    (selfOf 1).run {} = (.ok ⟨.object ⟨0, 1⟩, some (.named "zoo.Dog")⟩, {}) := by rfl

theorem narrowing_call_types :
    Model.lookup (narrowing.foldl Model.serve {}) "zoo.Animal" = some 0 ∧
      (selfOf 0).run {} = (.ok ⟨.object ⟨0, 0⟩, some (.named "zoo.Animal")⟩, {}) ∧
      (selfOf 1).run {} = (.ok ⟨.object ⟨0, 1⟩, some (.named "zoo.Dog")⟩, {}) ∧
      ∃ binding, resolve (narrowing.foldl Model.serve {}) 0 "self" [] false = .ok binding ∧
        callType (dispatch (narrowing.foldl Model.serve {}) 0 binding) [] = .named "zoo.Animal" ∧
        callType (dispatch (narrowing.foldl Model.serve {}) 1 binding) [] = .named "zoo.Dog" := by
  have known : Model.lookup (narrowing.foldl Model.serve {}) "zoo.Animal" = some 0 := by decide
  refine ⟨known, self_of_animal, self_of_dog, ?_⟩
  obtain ⟨animal, dog, binding, isAnimal, isDog, resolved, animalTyped, dogTyped, -⟩ :=
    call_types_of_overrides known rfl self_of_animal self_of_dog
  obtain rfl := Value.object.inj isAnimal
  obtain rfl := Value.object.inj isDog
  exact ⟨binding, resolved, (Option.some.inj animalTyped).symm, (Option.some.inj dogTyped).symm⟩

/-- The class of a receiver shows in the type of a result, if an override narrows it. -/
theorem not_every_result_has_the_bound_type :
    ¬ ∀ model : Model, model.Reached → Walk.Acyclic model.superclass? →
      ∀ (type : TypeRef) (left right : Value) (method : String)
        (leftArguments rightArguments : List Typed)
        (leftStore leftAfter rightStore rightAfter : Store) (leftResult rightResult : Typed),
        leftArguments.map Typed.type = rightArguments.map Typed.type →
        (call model ⟨left, some type⟩ method leftArguments).run leftStore =
          (.ok leftResult, leftAfter) →
        (call model ⟨right, some type⟩ method rightArguments).run rightStore =
          (.ok rightResult, rightAfter) →
        leftResult.type = rightResult.type := by
  intro always
  have same := always _ reached_narrowing acyclic_narrowing _ _ _ _ _ _ _ _ _ _ _ _ rfl
    self_of_animal self_of_dog
  exact absurd same (by decide)

end BuilderSynthesis.Eval
