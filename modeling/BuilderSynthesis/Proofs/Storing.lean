import BuilderSynthesis.Proofs.Binding
import BuilderSynthesis.Proofs.Execution
import BuilderSynthesis.Proofs.Members

/-!
Contract: what a setter that is bound does when it runs.

A setter stores what it makes of its argument, which under the defensive policy is a copy of a
list, in a field as the type that declares the setter sees it. A setter that leaves the storing
to the superclass hands its argument on. Both return the object that they run on.

Owns: `intake`, what is made of an argument; `yields_storing`, `faults_storing` and
`yields_delegating`.

Does not own: which setter a call is bound to.
-/

namespace BuilderSynthesis.Run.Synthesis

open Eval (Store Value)
open Schema (Field Policy)

/-- What a setter makes of the value of its parameter: what it stores, and the store with the copy
that it takes of a list. -/
def intake (policy : Policy) (field : Field) (value : Value) (store : Store) :
    Option (Value × Store) :=
  if policy = .defensive ∧ field.cardinality = .list then
    match value with
    | .null => some (.null, store)
    | .list place _ => some (store.newList (store.listItems place))
    | _ => none
  else some (value, store)

end BuilderSynthesis.Run.Synthesis

namespace BuilderSynthesis.Builder

open Code (Expression Method Model TypeId TypeRef)
open Eval (Binding Faults Object Store Typed Value Yields)
open Run.Synthesis (intake)
open Schema (Field Policy)

def annotatedSetter (policy : Policy) (builder : TypeRef) (field : Field)
    (annotations : List String) : Method :=
  { setterOf policy builder (Property.ofField field) with annotations := annotations }

theorem setterOf_eq_annotated (policy : Policy) (builder : TypeRef) (field : Field) :
    setterOf policy builder (Property.ofField field) = annotatedSetter policy builder field [] :=
  rfl

theorem overriding_eq_annotated (policy : Policy) (builder : TypeRef) (field : Field) :
    overriding (setterOf policy builder (Property.ofField field)) =
      annotatedSetter policy builder field ["Override"] :=
  rfl

def storedExpression (policy : Policy) (field : Field) : Expression :=
  if policy = .defensive ∧ field.cardinality = .list then .copyList (.ident field.name)
  else .ident field.name

section

variable {policy : Policy} {field : Field}

theorem body_annotatedSetter (builder : TypeRef) (annotations : List String) :
    (annotatedSetter policy builder field annotations).body =
      [.assign (.ownField field.name) (storedExpression policy field), .return (some .this)] := by
  obtain ⟨name, element, cardinality, isStatic, doc⟩ := field
  cases policy <;> cases cardinality <;> rfl

/-! ### The argument -/

variable {method : Method}
  (parameters : method.parameters =
    [(Handling.ofProperty policy (Property.ofField field)).parameter (Property.ofField field)])

include parameters

theorem parameterValues_setter (argument : Typed) :
    Eval.parameterValues method [argument] =
      [(field.name, ⟨argument.value, some (.ofField field.element field.cardinality)⟩)] := by
  have named : ((Handling.ofProperty policy (Property.ofField field)).parameter
      (Property.ofField field)).name = field.name := by
    obtain ⟨name, element, cardinality, isStatic, doc⟩ := field
    cases cardinality <;> rfl
  unfold Eval.parameterValues
  rw [parameters]
  simp only [List.zip_cons_cons, List.zip_nil_right, List.map_cons, List.map_nil,
    List.reverse_singleton, named, type_parameter, erase_ofField]

theorem local_setter (this : Option Object) (owner : TypeId) (isPacked : Bool)
    (argument : Typed) :
    (Eval.frameOf this ⟨owner, method, isPacked⟩ [argument]).local? field.name =
      some ⟨argument.value, some (.ofField field.element field.cardinality)⟩ := by
  unfold Eval.Frame.local?
  show Keyed.value? (Eval.parameterValues method [argument]) field.name = _
  rw [parameterValues_setter parameters, Keyed.value?, if_pos rfl]

omit parameters

/-- The value that is stored, in the frame of a setter. -/
theorem yields_stored {model : Model} {powers : Eval.Powers} {frame : Eval.Frame}
    {argument : Typed} (parameter : frame.local? field.name =
      some ⟨argument.value, some (.ofField field.element field.cardinality)⟩)
    {store after : Store} {value : Value}
    (taken : intake policy field argument.value store = some (value, after)) :
    Yields (Eval.evaluate model powers frame (storedExpression policy field)) store
      ⟨value, some (.ofField field.element field.cardinality)⟩ after := by
  have ident := @Eval.yields_ident model powers frame _ _ parameter store
  unfold intake at taken
  unfold storedExpression
  by_cases copies : policy = .defensive ∧ field.cardinality = .list
  · rw [if_pos copies] at taken ⊢
    unfold Eval.evaluate
    apply ident.bind
    generalize argument.value = given at taken ⊢
    cases given with
    | null =>
        obtain ⟨rfl, rfl⟩ := Prod.mk.inj (Option.some.inj taken)
        exact Eval.yields_copied_null _ store
    | list place isReadOnly =>
        obtain ⟨rfl, rfl⟩ := Prod.mk.inj (Option.some.inj taken)
        exact Eval.yields_copied_list _ place isReadOnly store
    | _ => cases taken
  · rw [if_neg copies] at taken ⊢
    obtain ⟨rfl, rfl⟩ := Prod.mk.inj (Option.some.inj taken)
    exact ident

theorem faults_stored {model : Model} {powers : Eval.Powers} {frame : Eval.Frame}
    {argument : Typed} (parameter : frame.local? field.name =
      some ⟨argument.value, some (.ofField field.element field.cardinality)⟩)
    {store : Store} (refused : intake policy field argument.value store = none) :
    Faults (Eval.evaluate model powers frame (storedExpression policy field)) store := by
  have ident := @Eval.yields_ident model powers frame _ _ parameter store
  unfold intake at refused
  unfold storedExpression
  by_cases copies : policy = .defensive ∧ field.cardinality = .list
  · rw [if_pos copies] at refused ⊢
    unfold Eval.evaluate
    apply ident.bind_faults
    generalize argument.value = given at refused ⊢
    cases given with
    | null => cases refused
    | list place isReadOnly => cases refused
    | _ => exact Eval.faults_raise _ store
  · rw [if_neg copies] at refused
    cases refused

end

/-! ### Setters that run -/

section

variable {model : Model} {policy : Policy} {field : Field} {name : String} {owner : TypeId}
  {object : Object} {argument : Typed} {depth : Nat}

theorem faults_storing {annotations : List String} {store : Store}
    (refused : intake policy field argument.value store = none) :
    Faults (Eval.invoke model (depth + 1) (some object)
        ⟨owner, annotatedSetter policy (.named name) field annotations, false⟩ [argument])
      store := by
  let method := annotatedSetter policy (.named name) field annotations
  let powers := Eval.powersWith model depth
  have parameter := @local_setter policy field method rfl (some object) owner false argument
  have stored := @faults_stored policy field model powers _ argument parameter _ refused
  have executed : Faults (Eval.execute model powers
      (Eval.frameOf (some object) ⟨owner, method, false⟩ [argument]) method.body) store := by
    rw [body_annotatedSetter]
    exact Eval.faults_execute_assign stored _
  rw [Eval.invoke_succ]
  exact Eval.faults_runMethod (Eval.yields_packed_plain rfl [argument] store) executed

variable (typed : model.typeRef owner = .named name)

include typed

/-- A setter stores what it takes and returns the object that it runs on. -/
theorem yields_storing {annotations : List String} {holder : TypeId}
    (found : model.lookup name = some owner)
    (owned : Eval.fieldOwner model owner field.name = .ok holder)
    (known : Eval.fieldType model holder field.name =
      .ok (.ofField field.element field.cardinality))
    {isPacked : Bool} {given : List Typed} {store middle after : Store} {value : Value}
    (gathered : Yields (Eval.packed
        ⟨owner, annotatedSetter policy (.named name) field annotations, isPacked⟩ given) store
      [argument] middle)
    (taken : intake policy field argument.value middle = some (value, after)) :
    Yields (Eval.invoke model (depth + 1) (some object)
        ⟨owner, annotatedSetter policy (.named name) field annotations, isPacked⟩ given) store
      ⟨.object object, some (.named name)⟩
      (after.write object (holder, field.name) value) := by
  let method := annotatedSetter policy (.named name) field annotations
  let powers := Eval.powersWith model depth
  let frame := Eval.frameOf (some object) ⟨owner, method, isPacked⟩ [argument]
  have this : ∀ store, Yields (Eval.evaluate model powers frame .this) store
      ⟨.object object, some (.named name)⟩ store := by
    intro store
    rw [← typed]
    exact Eval.yields_this rfl store
  have parameter := @local_setter policy field method rfl (some object) owner isPacked argument
  have stored := @yields_stored policy field model powers frame argument parameter _ _ _ taken
  have assigned : Yields (Eval.assign model powers frame (.ownField field.name)
      ⟨value, some (.ofField field.element field.cardinality)⟩) after ⟨⟩
      (after.write object (holder, field.name) value) :=
    Eval.yields_assign (this after) (Eval.receiver_object found object field.name) owned known
      (Eval.accepts_self model _)
  have executed : Yields (Eval.execute model powers frame method.body) middle
      (some ⟨.object object, some (.named name)⟩)
      (after.write object (holder, field.name) value) := by
    rw [body_annotatedSetter]
    exact Eval.yields_execute_assign stored assigned (Eval.yields_execute_return (this _))
  rw [Eval.invoke_succ]
  exact Eval.yields_runMethod gathered executed rfl (Eval.accepts_self model _)

/-- A setter that leaves the storing to the superclass does what the setter there does, and
returns the object that it runs on. -/
theorem yields_delegating {parent : TypeId} {binding : Binding}
    (above : model.superclass? owner = some parent)
    (resolved : Eval.resolve model parent (setterName field.name)
      [some (.ofField field.element field.cardinality)] false = .ok binding)
    {store after : Store} {result : Typed}
    (invoked : Yields (Eval.invoke model depth (some object) binding
      [⟨argument.value, some (.ofField field.element field.cardinality)⟩]) store result after) :
    Yields (Eval.invoke model (depth + 1) (some object)
        ⟨owner, overriding (delegating (Property.ofField field)
          (setterOf policy (.named name) (Property.ofField field))), false⟩ [argument]) store
      ⟨.object object, some (.named name)⟩ after := by
  let method := overriding (delegating (Property.ofField field)
    (setterOf policy (.named name) (Property.ofField field)))
  let powers := Eval.powersWith model depth
  let frame := Eval.frameOf (some object) ⟨owner, method, false⟩ [argument]
  have this : Yields (Eval.evaluate model powers frame .this) after
      ⟨.object object, some (.named name)⟩ after := by
    rw [← typed]
    exact Eval.yields_this rfl after
  have parameter := @local_setter policy field method rfl (some object) owner false argument
  have handed : Yields (Eval.evaluate model powers frame
      (.superCall (setterName field.name) [.ident field.name])) store result after :=
    Eval.yields_superCall rfl
      (Eval.yields_evaluateAll_single (Eval.yields_ident parameter store)) above resolved invoked
  have executed : Yields (Eval.execute model powers frame method.body) store
      (some ⟨.object object, some (.named name)⟩) after :=
    Eval.yields_execute_evaluate handed (Eval.yields_execute_return this)
  rw [Eval.invoke_succ]
  exact Eval.yields_runMethod (Eval.yields_packed_plain rfl [argument] store) executed rfl
    (Eval.accepts_self model _)

end

end BuilderSynthesis.Builder
