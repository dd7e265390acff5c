import BuilderSynthesis.Eval.Machine
import Mathlib.Data.List.GetD

/-!
Contract: what single computations of the machine give and leave behind.

`Yields` says that a computation on a store gives a value and leaves a store, `Faults` that
it gives none and leaves the store as it was. Each construct of the machine has one lemma
that derives what it yields from what its parts yield.

Does not own: which methods calls are bound to, and what generated methods do.
-/

namespace BuilderSynthesis.Eval

open BuilderSynthesis.Code (Expression Method Model Statement TypeId TypeRef)

/-! ### Stores -/

theorem getD_append_singleton (list : List α) (item default : α) (place : Nat) :
    (list ++ [item]).getD place default =
      if place = list.length then item else list.getD place default := by
  rcases Nat.lt_trichotomy place list.length with earlier | same | later
  · rw [if_neg (Nat.ne_of_lt earlier), List.getD_append _ _ _ _ earlier]
  · rw [if_pos same, same, List.getD_append_right _ _ _ _ (Nat.le_refl _), Nat.sub_self]
    rfl
  · rw [if_neg (Nat.ne_of_gt later), List.getD_eq_default _ _ (Nat.le_of_lt later),
      List.getD_eq_default]
    rw [List.length_append]
    exact later

namespace Store

theorem slot?_write (store : Store) {object : Object} (known : object.place < store.objects.length)
    (slot : Slot) (value : Value) (other : Object) (wanted : Slot) :
    (store.write object slot value).slot? other wanted =
      if other.place = object.place ∧ wanted = slot then some value
      else store.slot? other wanted := by
  unfold slot? write
  by_cases place : other.place = object.place
  · have present : store.objects[object.place]? = some store.objects[object.place] :=
      List.getElem?_eq_getElem known
    rw [place, List.getD_eq_getElem?_getD, List.getElem?_modify_eq, present,
      List.getD_eq_getElem?_getD, present]
    simp only [Option.map_eq_map, Option.map_some, Option.getD_some, true_and]
    exact Keyed.value?_put _ slot value wanted
  · have different : ¬ object.place = other.place := fun same => place same.symm
    rw [if_neg (fun both => place both.1), List.getD_eq_getElem?_getD,
      List.getElem?_modify_ne _ _ different, List.getD_eq_getElem?_getD]

theorem write_of_length_le {store : Store} {object : Object}
    (unknown : store.objects.length ≤ object.place) (slot : Slot) (value : Value) :
    store.write object slot value = store := by
  unfold write
  rw [List.modify_eq_self unknown]

theorem length_objects_write (store : Store) (object : Object) (slot : Slot) (value : Value) :
    (store.write object slot value).objects.length = store.objects.length := by
  simp [write]

theorem length_objects_newObject (store : Store) (type : TypeId) (slots : Instance) :
    (store.newObject type slots).2.objects.length = store.objects.length + 1 := by
  simp [newObject]

theorem slot?_newObject (store : Store) (type : TypeId) (slots : Instance) (object : Object)
    (slot : Slot) :
    (store.newObject type slots).2.slot? object slot =
      if object.place = store.objects.length then Keyed.value? slots slot
      else store.slot? object slot := by
  unfold slot? newObject
  rw [getD_append_singleton]
  split <;> rfl

theorem listItems_newList (store : Store) (items : List Value) (place : Nat) :
    (store.newList items).2.listItems place =
      if place = store.lists.length then items else store.listItems place :=
  getD_append_singleton store.lists items [] place

end Store

/-! ### Computations -/

/-- A computation on a store gives a value and leaves a store. -/
def Yields (computation : Exec α) (before : Store) (value : α) (after : Store) : Prop :=
  computation.run before = (.ok value, after)

/-- A computation on a store gives no value and leaves the store as it was. -/
def Faults (computation : Exec α) (store : Store) : Prop :=
  ∃ failure, computation.run store = (.error failure, store)

theorem run_bind (first : Exec α) (next : α → Exec β) (store : Store) :
    (first >>= next).run store =
      match first.run store with
      | (.ok value, after) => (next value).run after
      | (.error failure, after) => (.error failure, after) := by
  change (match first store with
    | (outcome, after) => ExceptT.bindCont next outcome after) = _
  change _ = match first store with
    | (.ok value, after) => (next value).run after
    | (.error failure, after) => (.error failure, after)
  rcases first store with ⟨outcome, after⟩
  cases outcome <;> rfl

theorem yields_pure (value : α) (store : Store) : Yields (pure value) store value store := rfl

theorem Yields.bind {first : Exec α} {next : α → Exec β} {before middle after : Store} {value : α}
    {result : β} (one : Yields first before value middle)
    (two : Yields (next value) middle result after) :
    Yields (first >>= next) before result after := by
  unfold Yields at one
  unfold Yields
  rw [run_bind, one]
  exact two

theorem Faults.bind {first : Exec α} {store : Store} (faults : Faults first store)
    (next : α → Exec β) : Faults (first >>= next) store := by
  obtain ⟨failure, run⟩ := faults
  refine ⟨failure, ?_⟩
  rw [run_bind, run]

theorem Yields.bind_faults {first : Exec α} {next : α → Exec β} {store : Store} {value : α}
    (one : Yields first store value store) (two : Faults (next value) store) :
    Faults (first >>= next) store := by
  obtain ⟨failure, run⟩ := two
  unfold Yields at one
  refine ⟨failure, ?_⟩
  rw [run_bind, one]
  exact run

theorem yields_settled {result : Except Fault α} {value : α} (success : result = .ok value)
    (store : Store) : Yields (settled result) store value store := by
  rw [success]
  rfl

theorem faults_settled {result : Except Fault α} {fault : Fault} (failure : result = .error fault)
    (store : Store) : Faults (settled result : Exec α) store := by
  rw [failure]
  exact ⟨_, rfl⟩

theorem faults_raise (fault : Fault) (store : Store) : Faults (raise fault : Exec α) store :=
  ⟨_, rfl⟩

theorem yields_get (store : Store) : Yields (get : Exec Store) store store store := rfl

theorem yields_set (store after : Store) : Yields (set after : Exec PUnit) store ⟨⟩ after := rfl

theorem yields_modify (change : Store → Store) (store : Store) :
    Yields (modify change : Exec PUnit) store ⟨⟩ (change store) := rfl

/-! ### Slots and lists -/

theorem yields_readSlot {model : Model} {object : Object} {owner : TypeId} {name : String}
    {store : Store} {value : Value} (found : store.slot? object (owner, name) = some value) :
    Yields (readSlot model object owner name) store value store := by
  unfold readSlot
  apply (yields_get store).bind
  rw [found]
  exact yields_pure value store

theorem faults_readSlot (model : Model) {object : Object} {owner : TypeId} {name : String}
    {store : Store} (absent : store.slot? object (owner, name) = none) :
    Faults (readSlot model object owner name) store := by
  unfold readSlot
  apply (yields_get store).bind_faults
  rw [absent]
  exact faults_raise _ store

/-- Reading a field of an object gives what one of its slots holds, if anything. -/
theorem fieldValue_cases (model : Model) (object : Object) (type : Option TypeRef) (name : String)
    (store : Store) :
    Faults (fieldValue model ⟨.object object, type⟩ name) store ∨
      ∃ slot value, store.slot? object slot = some value ∧
        Yields (fieldValue model ⟨.object object, type⟩ name) store value store := by
  cases owner : fieldOwner model object.type name with
  | error fault => exact .inl ((faults_settled owner store).bind _)
  | ok found =>
      have settled := yields_settled owner store
      cases slot : store.slot? object (found, name) with
      | none =>
          refine .inl ?_
          apply settled.bind_faults
          exact faults_readSlot model slot
      | some value =>
          refine .inr ⟨(found, name), value, slot, ?_⟩
          apply settled.bind
          exact yields_readSlot slot

theorem yields_copied_null (type : Option TypeRef) (store : Store) :
    Yields (copied ⟨.null, type⟩) store ⟨.null, type⟩ store := rfl

theorem yields_copied_list (type : Option TypeRef) (place : Nat) (isReadOnly : Bool)
    (store : Store) :
    Yields (copied ⟨.list place isReadOnly, type⟩) store
      ⟨(store.newList (store.listItems place)).1, type⟩
      (store.newList (store.listItems place)).2 := rfl

theorem yields_frozen_null (type : Option TypeRef) (store : Store) :
    Yields (frozen ⟨.null, type⟩) store ⟨.null, type⟩ store := rfl

theorem yields_frozen_list (type : Option TypeRef) (place : Nat) (isReadOnly : Bool)
    (store : Store) :
    Yields (frozen ⟨.list place isReadOnly, type⟩) store ⟨.list place true, type⟩ store := rfl

/-! ### Expressions -/

section

variable {model : Model} {powers : Powers} {frame : Frame}

theorem receiver_object {name : String} {type : TypeId} (found : model.lookup name = some type)
    (object : Object) (member : String) :
    receiver model ⟨.object object, some (.named name)⟩ member = .ok (object, type) := by
  show Except.ok (object, (((some (TypeRef.named name)).bind TypeRef.className?).bind
    model.lookup).getD object.type) = _
  rw [Option.bind_some, show TypeRef.className? (.named name) = some name from rfl,
    Option.bind_some, found, Option.getD_some]

theorem yields_this {object : Object} (here : frame.this = some object) (store : Store) :
    Yields (evaluate model powers frame .this) store
      ⟨.object object, some (model.typeRef frame.owner)⟩ store := by
  unfold evaluate
  have own : ownObject frame = .ok object := by
    unfold ownObject
    rw [here]
  exact (yields_settled own store).bind (yields_pure _ store)

theorem yields_ident {name : String} {typed : Typed} (found : frame.local? name = some typed)
    (store : Store) : Yields (evaluate model powers frame (.ident name)) store typed store := by
  unfold evaluate
  rw [found]
  exact yields_pure typed store

theorem yields_field {target : Expression} {name : String} {store middle : Store}
    {typed : Typed} {object : Object} {type owner : TypeId} {value : Value} {declared : TypeRef}
    (evaluated : Yields (evaluate model powers frame target) store typed middle)
    (received : receiver model typed name = .ok (object, type))
    (owned : fieldOwner model type name = .ok owner)
    (slot : middle.slot? object (owner, name) = some value)
    (known : fieldType model owner name = .ok declared) :
    Yields (evaluate model powers frame (.field target name)) store ⟨value, some declared⟩
      middle := by
  unfold evaluate
  apply evaluated.bind
  apply (yields_settled received middle).bind
  apply (yields_settled owned middle).bind
  apply (yields_readSlot slot).bind
  exact (yields_settled known middle).bind (yields_pure _ middle)

theorem yields_new {name : String} {type : TypeId} (found : findClass model name = .ok type)
    {store after : Store} {typed : Typed}
    (created : Yields (powers.create type) store typed after) :
    Yields (evaluate model powers frame (.new (.named name))) store typed after := by
  unfold evaluate
  exact (yields_settled found store).bind created

theorem yields_evaluateAll_single {argument : Expression} {store after : Store} {typed : Typed}
    (evaluated : Yields (evaluate model powers frame argument) store typed after) :
    Yields (evaluateAll model powers frame [argument]) store [typed] after := by
  unfold evaluateAll evaluateAll
  apply evaluated.bind
  exact (yields_pure [] after).bind (yields_pure _ after)

/-- A call without a written receiver runs the override that the receiver has. -/
theorem yields_call_this {object : Object} (here : frame.this = some object) {method : String}
    {arguments : List Expression} {values : List Typed} {binding : Binding} {result : Typed}
    {store middle after : Store}
    (evaluated : Yields (evaluateAll model powers frame arguments) store values middle)
    (resolved : resolve model frame.owner method (values.map Typed.type) false = .ok binding)
    (invoked : Yields (powers.invoke (some object) (dispatch model object.type binding) values)
      middle result after) :
    Yields (evaluate model powers frame (.call .this method arguments)) store result after := by
  unfold evaluate
  apply evaluated.bind
  unfold callOwn
  rw [here]
  exact (yields_settled resolved middle).bind invoked

/-- A call of a superclass runs the method as the superclass has it. -/
theorem yields_superCall {object : Object} (here : frame.this = some object) {method : String}
    {arguments : List Expression} {values : List Typed} {parent : TypeId} {binding : Binding}
    {result : Typed} {store middle after : Store}
    (evaluated : Yields (evaluateAll model powers frame arguments) store values middle)
    (above : model.superclass? frame.owner = some parent)
    (resolved : resolve model parent method (values.map Typed.type) false = .ok binding)
    (invoked : Yields (powers.invoke (some object) binding values) middle result after) :
    Yields (evaluate model powers frame (.superCall method arguments)) store result after := by
  have own : ownObject frame = .ok object := by
    unfold ownObject
    rw [here]
  unfold evaluate
  apply (yields_settled own store).bind
  apply evaluated.bind
  unfold callSuper
  rw [above]
  exact (yields_settled resolved middle).bind invoked

/-! ### Statements -/

theorem yields_assign {target : Expression} {name : String} {store middle : Store}
    {typed value : Typed} {object : Object} {type owner : TypeId} {declared : TypeRef}
    (evaluated : Yields (evaluate model powers frame target) store typed middle)
    (received : receiver model typed name = .ok (object, type))
    (owned : fieldOwner model type name = .ok owner)
    (known : fieldType model owner name = .ok declared)
    (fits : accepts model declared value.type = true) :
    Yields (assign model powers frame (.field target name) value) store ⟨⟩
      (middle.write object (owner, name) value.value) := by
  unfold assign
  apply evaluated.bind
  apply (yields_settled received middle).bind
  apply (yields_settled owned middle).bind
  apply (yields_settled known middle).bind
  rw [fits]
  exact yields_modify _ middle

theorem yields_execute_assign {target value : Expression} {rest : List Statement}
    {store middle later after : Store} {typed : Typed} {result : Option Typed}
    (evaluated : Yields (evaluate model powers frame value) store typed middle)
    (assigned : Yields (assign model powers frame target typed) middle ⟨⟩ later)
    (continued : Yields (execute model powers frame rest) later result after) :
    Yields (execute model powers frame (.assign target value :: rest)) store result after := by
  unfold execute
  exact evaluated.bind (assigned.bind continued)

theorem faults_execute_assign {target value : Expression} {store : Store}
    (evaluated : Faults (evaluate model powers frame value) store) (rest : List Statement) :
    Faults (execute model powers frame (.assign target value :: rest)) store := by
  unfold execute
  exact evaluated.bind _

theorem yields_execute_return {value : Expression} {rest : List Statement} {store after : Store}
    {typed : Typed} (evaluated : Yields (evaluate model powers frame value) store typed after) :
    Yields (execute model powers frame (.return (some value) :: rest)) store (some typed)
      after := by
  unfold execute
  exact evaluated.bind (yields_pure _ after)

theorem yields_execute_evaluate {value : Expression} {rest : List Statement}
    {store middle after : Store} {typed : Typed} {result : Option Typed}
    (evaluated : Yields (evaluate model powers frame value) store typed middle)
    (continued : Yields (execute model powers frame rest) middle result after) :
    Yields (execute model powers frame (.evaluate value :: rest)) store result after := by
  unfold execute
  exact evaluated.bind continued

/-! ### Calls -/

theorem yields_packed_plain {binding : Binding} (plain : binding.isPacked = false)
    (arguments : List Typed) (store : Store) :
    Yields (packed binding arguments) store arguments store := by
  unfold packed
  rw [plain]
  exact yields_pure arguments store

/-- What a method can fall back on while a number of further calls may be pending. -/
def powersWith (model : Model) (depth : Nat) : Powers :=
  ⟨invoke model depth, create model (invoke model depth) model.size⟩

theorem invoke_succ (model : Model) (depth : Nat) (this : Option Object) (binding : Binding)
    (arguments : List Typed) :
    invoke model (depth + 1) this binding arguments =
      runMethod model (powersWith model depth) this binding arguments := rfl

def frameOf (this : Option Object) (binding : Binding) (arguments : List Typed) : Frame :=
  ⟨this, binding.owner, parameterValues binding.method arguments⟩

theorem yields_runMethod {this : Option Object} {binding : Binding}
    {given arguments : List Typed} {store middle after : Store} {declared : TypeRef}
    {result : Typed} (gathered : Yields (packed binding given) store arguments middle)
    (executed : Yields (execute model powers (frameOf this binding arguments)
      binding.method.body) middle (some result) after)
    (returns : binding.method.returns = some declared)
    (fits : accepts model (binding.method.erase declared) result.type = true) :
    Yields (runMethod model powers this binding given) store
      ⟨result.value, some (resultType binding.method arguments declared)⟩ after := by
  unfold runMethod
  apply gathered.bind
  apply executed.bind
  rw [returns]
  simp only [fits, if_true]
  exact yields_pure _ after

theorem faults_runMethod {this : Option Object} {binding : Binding} {given arguments : List Typed}
    {store : Store} (gathered : Yields (packed binding given) store arguments store)
    (executed : Faults (execute model powers (frameOf this binding arguments)
      binding.method.body) store) :
    Faults (runMethod model powers this binding given) store := by
  unfold runMethod
  apply gathered.bind_faults
  exact executed.bind _

end

end BuilderSynthesis.Eval
