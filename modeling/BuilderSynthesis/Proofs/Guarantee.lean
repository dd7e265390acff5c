import BuilderSynthesis.Proofs.Execution

/-!
Contract: what holds of every run of the machine, whether it gives a value or not.

`Guarantees` is a judgement on a computation for all stores of a kind: the store stays of that
kind, a value is good, and a failure is one that is allowed. What the single constructs
guarantee, collected in `Discipline`, all expressions and statements do.

Does not own: which kinds of stores and values there are.
-/

namespace BuilderSynthesis.Eval

open BuilderSynthesis.Code (Expression Method Model Statement TypeId TypeRef)

/-! ### Computations -/

/-- On every store of a kind, a computation leaves one of that kind, with a good value or an
allowed failure. -/
def Guarantees (kept : Store → Prop) (allowed : Failure → Prop) (good : α → Prop)
    (computation : Exec α) : Prop :=
  ∀ store, kept store → kept (computation.run store).2 ∧
    match (computation.run store).1 with
    | .ok value => good value
    | .error failure => allowed failure

section

variable {kept : Store → Prop} {allowed : Failure → Prop}

theorem Guarantees.value {good : α → Prop} {computation : Exec α}
    (guarantees : Guarantees kept allowed good computation) {store after : Store} {value : α}
    (before : kept store) (run : computation.run store = (.ok value, after)) :
    kept after ∧ good value := by
  have all := guarantees store before
  rwa [run] at all

theorem Guarantees.failure {good : α → Prop} {computation : Exec α}
    (guarantees : Guarantees kept allowed good computation) {store after : Store}
    {failure : Failure} (before : kept store)
    (run : computation.run store = (.error failure, after)) : kept after ∧ allowed failure := by
  have all := guarantees store before
  rwa [run] at all

theorem Guarantees.mono {good better : α → Prop} {computation : Exec α}
    (guarantees : Guarantees kept allowed better computation)
    (enough : ∀ value, better value → good value) :
    Guarantees kept allowed good computation := by
  intro store before
  obtain ⟨after, outcome⟩ := guarantees store before
  refine ⟨after, ?_⟩
  cases result : (computation.run store).1 with
  | ok value =>
      rw [result] at outcome
      exact enough value outcome
  | error failure => rwa [result] at outcome

/-- A value that a computation gives is one that it gives on some store. -/
theorem Guarantees.given {good : α → Prop} {computation : Exec α}
    (guarantees : Guarantees kept allowed good computation) :
    Guarantees kept allowed
      (fun value => good value ∧ ∃ store after, computation.run store = (.ok value, after))
      computation := by
  intro store before
  obtain ⟨kept, outcome⟩ := guarantees store before
  refine ⟨kept, ?_⟩
  rcases run : computation.run store with ⟨result, after⟩
  rw [run] at outcome
  cases result with
  | ok value => exact ⟨outcome, store, after, run⟩
  | error failure => exact outcome

/-- Nothing is asked of stores and failures, and everything is good. -/
theorem guarantees_anything {good : α → Prop} {computation : Exec α}
    (all : ∀ value, good value) :
    Guarantees (fun _ => True) (fun _ => True) good computation := by
  intro store _
  refine ⟨trivial, ?_⟩
  cases (computation.run store).1 with
  | ok value => exact all value
  | error failure => trivial

theorem guarantees_pure {good : α → Prop} {value : α} (here : good value) :
    Guarantees kept allowed good (pure value) :=
  fun _ before => ⟨before, here⟩

theorem Guarantees.bind {middle : α → Prop} {good : β → Prop} {first : Exec α}
    {next : α → Exec β} (one : Guarantees kept allowed middle first)
    (two : ∀ value, middle value → Guarantees kept allowed good (next value)) :
    Guarantees kept allowed good (first >>= next) := by
  intro store before
  obtain ⟨between, outcome⟩ := one store before
  rw [run_bind]
  rcases run : first.run store with ⟨result, after⟩
  rw [run] at between outcome
  cases result with
  | ok value => exact two value outcome after between
  | error failure => exact ⟨between, outcome⟩

theorem guarantees_throw {good : α → Prop} {failure : Failure} (here : allowed failure) :
    Guarantees kept allowed good (throw failure : Exec α) :=
  fun _ before => ⟨before, here⟩

theorem guarantees_get : Guarantees kept allowed kept (get : Exec Store) :=
  fun _ before => ⟨before, before⟩

theorem guarantees_set {store : Store} (after : kept store) :
    Guarantees kept allowed (fun _ => True) (set store : Exec PUnit) :=
  fun _ _ => ⟨after, trivial⟩

theorem guarantees_modify {change : Store → Store}
    (keeps : ∀ store, kept store → kept (change store)) :
    Guarantees kept allowed (fun _ => True) (modify change : Exec PUnit) :=
  fun store before => ⟨keeps store before, trivial⟩

/-- Items that are converted in order give values that fit them. -/
theorem guarantees_mapM {fits : β → α → Prop} {convert : α → Exec β} {list : List α}
    (each : ∀ item ∈ list, Guarantees kept allowed (fun result => fits result item)
      (convert item)) :
    Guarantees kept allowed (fun results => List.Forall₂ fits results list)
      (list.mapM convert) := by
  induction list with
  | nil =>
      rw [List.mapM_nil]
      exact guarantees_pure .nil
  | cons item rest inductionHypothesis =>
      rw [List.forall_mem_cons] at each
      rw [List.mapM_cons]
      exact each.1.bind fun first here => (inductionHypothesis each.2).bind fun others there =>
        guarantees_pure (.cons here there)

section

variable (faults : ∀ fault, allowed (.fault fault))

include faults

theorem guarantees_raise (good : α → Prop) (fault : Fault) :
    Guarantees kept allowed good (raise fault : Exec α) :=
  guarantees_throw (faults fault)

/-- What does not depend on the store gives a value that is known or a fault. -/
theorem guarantees_settled (result : Except Fault α) :
    Guarantees kept allowed (fun value => result = .ok value) (settled result) := by
  cases result with
  | ok value => exact guarantees_pure rfl
  | error fault => exact guarantees_throw (faults fault)

end

end

theorem this_of_ownObject {frame : Frame} {object : Object}
    (own : ownObject frame = .ok object) : frame.this = some object := by
  unfold ownObject at own
  cases here : frame.this with
  | none => simp [here] at own
  | some other => simpa [here] using own

theorem lookup_of_findClass {model : Model} {name : String} {type : TypeId}
    (found : findClass model name = .ok type) : model.lookup name = some type := by
  unfold findClass at found
  cases there : model.lookup name with
  | none => simp [there] at found
  | some other => simpa [there] using found

theorem evaluate_call {model : Model} {powers : Powers} {frame : Frame} {target : Expression}
    {method : String} {arguments : List Expression} (written : target ≠ .this) :
    evaluate model powers frame (.call target method arguments) = (do
      let arguments ← evaluateAll model powers frame arguments
      let target ← evaluate model powers frame target
      callOn model powers.invoke target method arguments) := by
  rw [evaluate]
  exact written

/-! ### Expressions and statements -/

/-- What the constructs guarantee of which expressions and statements consist. -/
structure Discipline (model : Model) (invoke : Invoker) (frame : Frame) (kept : Store → Prop)
    (allowed : Failure → Prop) (good : Typed → Prop) : Prop where
  faults : ∀ fault, allowed (.fault fault)
  /-- What is no object is good, the null literal included. -/
  plain : ∀ typed : Typed, (∀ object, typed.value ≠ .object object) → good typed
  parameter : ∀ name typed, frame.local? name = some typed → good typed
  this : ∀ object, frame.this = some object →
    good ⟨.object object, some (model.typeRef frame.owner)⟩
  field : ∀ store object type owner name declared value, kept store →
    fieldOwner model type name = .ok owner → fieldType model owner name = .ok declared →
    store.slot? object (owner, name) = some value → good ⟨value, some declared⟩
  newList : ∀ store items, kept store → kept (store.newList items).2
  write : ∀ store target object type owner name declared value, kept store → good target →
    receiver model target name = .ok (object, type) → fieldOwner model type name = .ok owner →
    fieldType model owner name = .ok declared → good value →
    accepts model declared value.type = true →
    kept (store.write object (owner, name) value.value)
  callOn : ∀ target name arguments, good target → (∀ argument ∈ arguments, good argument) →
    Guarantees kept allowed good (callOn model invoke target name arguments)
  callOwn : ∀ name arguments, (∀ argument ∈ arguments, good argument) →
    Guarantees kept allowed good (callOwn model invoke frame name arguments)
  callSuper : ∀ object name arguments, frame.this = some object →
    (∀ argument ∈ arguments, good argument) →
    Guarantees kept allowed good (callSuper model invoke frame object name arguments)

section

variable {model : Model} {powers : Powers} {frame : Frame} {kept : Store → Prop}
  {allowed : Failure → Prop} {good : Typed → Prop}
  (discipline : Discipline model powers.invoke frame kept allowed good)

include discipline

theorem Discipline.readField {target : Typed} {name : String} :
    Guarantees kept allowed good (do
      let (object, type) ← settled (receiver model target name)
      let owner ← settled (fieldOwner model type name)
      let value ← readSlot model object owner name
      return ⟨value, some (← settled (fieldType model owner name))⟩) := by
  have settles : ∀ {α : Type} (result : Except Fault α),
      Guarantees kept allowed (fun value => result = .ok value) (settled result) :=
    guarantees_settled discipline.faults
  refine (settles _).bind fun (object, type) _ => (settles _).bind fun owner owned => ?_
  have slot : Guarantees kept allowed
      (fun value => ∃ store, kept store ∧ store.slot? object (owner, name) = some value)
      (readSlot model object owner name) := by
    unfold readSlot
    refine guarantees_get.bind fun store before => ?_
    cases found : store.slot? object (owner, name) with
    | some value => exact guarantees_pure ⟨store, before, found⟩
    | none => exact guarantees_raise discipline.faults _ _
  refine slot.bind fun value ⟨store, before, found⟩ => (settles _).bind fun declared known => ?_
  exact guarantees_pure
    (discipline.field store object type owner name declared value before owned known found)

theorem Discipline.copied {list : Typed} (here : good list) :
    Guarantees kept allowed good (copied list) := by
  unfold Eval.copied
  split
  · exact guarantees_pure here
  · refine guarantees_get.bind fun store before => guarantees_get.bind fun again _ => ?_
    refine (guarantees_set (discipline.newList _ _ before)).bind fun _ _ => guarantees_pure ?_
    exact discipline.plain _ fun _ => Value.noConfusion
  · exact guarantees_raise discipline.faults _ _

theorem Discipline.frozen {list : Typed} (here : good list) :
    Guarantees kept allowed good (frozen list) := by
  unfold Eval.frozen
  split
  · exact guarantees_pure here
  · exact guarantees_pure (discipline.plain _ fun _ => Value.noConfusion)
  · exact guarantees_raise discipline.faults _ _

/-- The objects that an expression makes are made as promised. -/
def Makes (model : Model) (create : Creator) (kept : Store → Prop) (allowed : Failure → Prop)
    (good : Typed → Prop) (expressions : List Expression) : Prop :=
  ∀ className type, .new (.named className) ∈ expressions → model.lookup className = some type →
    Guarantees kept allowed good (create type)

end

section

variable {model : Model} {powers : Powers} {frame : Frame} {kept : Store → Prop}
  {allowed : Failure → Prop} {good : Typed → Prop}

mutual

theorem guarantees_evaluate
    (discipline : Discipline model powers.invoke frame kept allowed good) :
    (expression : Expression) → Makes model powers.create kept allowed good expression.within →
    Guarantees kept allowed good (evaluate model powers frame expression)
  | .null, _ => guarantees_pure (discipline.plain _ fun _ => Value.noConfusion)
  | .bool _, _ => guarantees_pure (discipline.plain _ fun _ => Value.noConfusion)
  | .int _, _ => guarantees_pure (discipline.plain _ fun _ => Value.noConfusion)
  | .string _, _ => guarantees_pure (discipline.plain _ fun _ => Value.noConfusion)
  | .ident name, _ => by
      unfold evaluate
      cases found : frame.local? name with
      | some typed => exact guarantees_pure (discipline.parameter name typed found)
      | none => exact guarantees_raise discipline.faults _ _
  | .this, _ => by
      unfold evaluate
      refine (guarantees_settled discipline.faults _).bind fun object own => guarantees_pure ?_
      exact discipline.this object (this_of_ownObject own)
  | .field target name, makes => by
      unfold evaluate
      exact (guarantees_evaluate discipline target fun className type member =>
        makes className type (List.mem_cons_of_mem _ member)).bind fun _ _ => discipline.readField
  | .new type, makes => by
      unfold evaluate
      cases type with
      | named className =>
          refine (guarantees_settled discipline.faults _).bind fun id found => ?_
          exact makes className id List.mem_cons_self (lookup_of_findClass found)
      | _ => exact guarantees_raise discipline.faults _ _
  | .call target method arguments, makes => by
      have given := guarantees_evaluateAll discipline arguments fun className type member =>
        makes className type (List.mem_cons_of_mem _ (List.mem_append_right _ member))
      have received := guarantees_evaluate discipline target fun className type member =>
        makes className type (List.mem_cons_of_mem _ (List.mem_append_left _ member))
      rcases eq_or_ne target .this with rfl | written
      · unfold evaluate
        exact given.bind fun values here => discipline.callOwn method values here
      · rw [evaluate_call written]
        exact given.bind fun values here => received.bind fun typed there =>
          discipline.callOn typed method values there here
  | .superCall method arguments, makes => by
      unfold evaluate
      refine (guarantees_settled discipline.faults _).bind fun object own => ?_
      have given := guarantees_evaluateAll discipline arguments fun className type member =>
        makes className type (List.mem_cons_of_mem _ member)
      exact given.bind fun values here =>
        discipline.callSuper object method values (this_of_ownObject own) here
  | .copyList list, makes => by
      unfold evaluate
      exact (guarantees_evaluate discipline list fun className type member =>
        makes className type (List.mem_cons_of_mem _ member)).bind fun _ here =>
          discipline.copied here
  | .readOnlyList list, makes => by
      unfold evaluate
      exact (guarantees_evaluate discipline list fun className type member =>
        makes className type (List.mem_cons_of_mem _ member)).bind fun _ here =>
          discipline.frozen here

theorem guarantees_evaluateAll
    (discipline : Discipline model powers.invoke frame kept allowed good) :
    (expressions : List Expression) →
    Makes model powers.create kept allowed good (Expression.withinAll expressions) →
    Guarantees kept allowed (fun values => ∀ value ∈ values, good value)
      (evaluateAll model powers frame expressions)
  | [], _ => guarantees_pure fun _ impossible => nomatch impossible
  | first :: rest, makes => by
      unfold evaluateAll
      have one := guarantees_evaluate discipline first fun className type member =>
        makes className type (List.mem_append_left _ member)
      have others := guarantees_evaluateAll discipline rest fun className type member =>
        makes className type (List.mem_append_right _ member)
      exact one.bind fun value here => others.bind fun values there =>
        guarantees_pure (List.forall_mem_cons.2 ⟨here, there⟩)

end

variable (discipline : Discipline model powers.invoke frame kept allowed good)
  (makes : ∀ className type, model.lookup className = some type →
    Guarantees kept allowed good (powers.create type))

include discipline makes

theorem guarantees_assign (target : Expression) {value : Typed} (here : good value) :
    Guarantees kept allowed (fun _ => True) (assign model powers frame target value) := by
  have settles : ∀ {α : Type} (result : Except Fault α),
      Guarantees kept allowed (fun value => result = .ok value) (settled result) :=
    guarantees_settled discipline.faults
  unfold assign
  cases target with
  | field target name =>
      refine (guarantees_evaluate discipline target fun className type _ =>
        makes className type).bind fun typed there => ?_
      refine (settles _).bind fun (object, type) received => ?_
      refine (settles _).bind fun owner owned => (settles _).bind fun declared known => ?_
      split
      · rename_i fits
        exact guarantees_modify fun store before => discipline.write store typed object type owner
          name declared value before there received owned known here fits
      · exact guarantees_raise discipline.faults _ _
  | _ => exact guarantees_raise discipline.faults _ _

theorem guarantees_execute (body : List Statement) :
    Guarantees kept allowed (fun result => ∀ typed, result = some typed → good typed)
      (execute model powers frame body) := by
  have evaluates : ∀ expression,
      Guarantees kept allowed good (evaluate model powers frame expression) := fun expression =>
    guarantees_evaluate discipline expression fun className type _ => makes className type
  induction body with
  | nil => exact guarantees_pure fun _ impossible => nomatch impossible
  | cons statement rest inductionHypothesis =>
      cases statement with
      | assign target value =>
          unfold execute
          exact (evaluates value).bind fun typed here =>
            (guarantees_assign discipline makes target here).bind fun _ _ => inductionHypothesis
      | evaluate value =>
          unfold execute
          exact (evaluates value).bind fun _ _ => inductionHypothesis
      | «return» value =>
          cases value with
          | none => exact guarantees_pure fun _ impossible => nomatch impossible
          | some value =>
              unfold execute
              exact (evaluates value).bind fun typed here => guarantees_pure
                fun other same => Option.some.inj same ▸ here

end

/-! ### Calls and objects -/

/-- The arguments that a method runs with, if gathered ones are at a place of the store. -/
def gathered (binding : Binding) (arguments : List Typed) (place : Nat) : List Typed :=
  match binding.isPacked, binding.method.parameters.getLast? with
  | true, some parameter =>
      arguments.take (binding.method.parameters.length - 1) ++
        [⟨.array place, some (binding.method.erase parameter.type)⟩]
  | _, _ => arguments

theorem filterMap_zip_congr {convert : α × Typed → Option β}
    (byTypes : ∀ item left right, left.type = right.type →
      convert (item, left) = convert (item, right))
    {items : List α} {left right : List Typed}
    (same : left.map Typed.type = right.map Typed.type) :
    (items.zip left).filterMap convert = (items.zip right).filterMap convert := by
  induction items generalizing left right with
  | nil => rfl
  | cons item rest inductionHypothesis =>
      cases left with
      | nil => rw [List.map_eq_nil_iff.1 same.symm]
      | cons one others =>
          obtain ⟨two, further, rfl, typed, later⟩ := List.map_eq_cons_iff.1 same.symm
          rw [List.zip_cons_cons, List.zip_cons_cons, List.filterMap_cons, List.filterMap_cons,
            byTypes item one two typed.symm, inductionHypothesis later.symm]

/-- Only the types of the arguments count. -/
theorem resultType_congr (method : Method) {left right : List Typed}
    (same : left.map Typed.type = right.map Typed.type) (declared : TypeRef) :
    resultType method left declared = resultType method right declared := by
  have inferred : inferredTypes method left = inferredTypes method right := by
    unfold inferredTypes
    rw [filterMap_zip_congr (fun item one two typed => by simp only [typed]) same]
  unfold resultType
  rw [inferred]

section

variable {model : Model} {kept : Store → Prop} {allowed : Failure → Prop} {good : Typed → Prop}

theorem guarantees_packed (binding : Binding) (arguments : List Typed)
    (newArray : ∀ store items, kept store → kept (store.newArray items).2) :
    Guarantees kept allowed (fun given => ∃ place, given = gathered binding arguments place)
      (packed binding arguments) := by
  unfold packed gathered
  cases binding.isPacked with
  | false => exact guarantees_pure ⟨0, rfl⟩
  | true =>
      cases binding.method.parameters.getLast? with
      | none => exact guarantees_pure ⟨0, rfl⟩
      | some parameter =>
          refine guarantees_get.bind fun store before => ?_
          refine (guarantees_set (newArray _ _ before)).bind fun _ _ => ?_
          exact guarantees_pure ⟨store.arrays.length, rfl⟩

variable (faults : ∀ fault, allowed (.fault fault))

include faults

theorem guarantees_callOn {invoke : Invoker} {target : Typed} {name : String}
    {arguments : List Typed}
    (invoked : ∀ object type binding, receiver model target name = .ok (object, type) →
      resolve model type name (arguments.map Typed.type) false = .ok binding →
      Guarantees kept allowed good
        (invoke (some object) (dispatch model object.type binding) arguments)) :
    Guarantees kept allowed good (callOn model invoke target name arguments) := by
  unfold callOn
  refine (guarantees_settled faults _).bind fun (object, type) received => ?_
  exact (guarantees_settled faults _).bind fun binding resolved =>
    invoked object type binding received resolved

theorem guarantees_callOwn {invoke : Invoker} {frame : Frame} {name : String}
    {arguments : List Typed}
    (ofObject : ∀ object binding, frame.this = some object →
      resolve model frame.owner name (arguments.map Typed.type) false = .ok binding →
      Guarantees kept allowed good
        (invoke (some object) (dispatch model object.type binding) arguments))
    (ofType : ∀ binding, frame.this = none →
      resolve model frame.owner name (arguments.map Typed.type) true = .ok binding →
      Guarantees kept allowed good (invoke none binding arguments)) :
    Guarantees kept allowed good (callOwn model invoke frame name arguments) := by
  unfold callOwn
  cases here : frame.this with
  | some object =>
      exact (guarantees_settled faults _).bind fun binding resolved =>
        ofObject object binding here resolved
  | none =>
      exact (guarantees_settled faults _).bind fun binding resolved =>
        ofType binding here resolved

theorem guarantees_callSuper {invoke : Invoker} {frame : Frame} {object : Object} {name : String}
    {arguments : List Typed}
    (invoked : ∀ parent binding, model.superclass? frame.owner = some parent →
      resolve model parent name (arguments.map Typed.type) false = .ok binding →
      Guarantees kept allowed good (invoke (some object) binding arguments)) :
    Guarantees kept allowed good (callSuper model invoke frame object name arguments) := by
  unfold callSuper
  cases above : model.superclass? frame.owner with
  | none => exact guarantees_raise faults _ _
  | some parent =>
      exact (guarantees_settled faults _).bind fun binding resolved =>
        invoked parent binding above resolved

/-- A method gives no value of a type, or one that fits the declared type of its result. -/
theorem guarantees_runMethod (inside : Nat → Typed → Prop) {powers : Powers}
    {this : Option Object} {binding : Binding} {arguments : List Typed}
    (newArray : ∀ store items, kept store → kept (store.newArray items).2)
    (executed : ∀ place,
      Guarantees kept allowed (fun result => ∀ typed, result = some typed → inside place typed)
        (execute model powers (frameOf this binding (gathered binding arguments place))
          binding.method.body))
    (nothing : binding.method.returns = none → good ⟨.null, some .unit⟩)
    (something : ∀ place declared result, binding.method.returns = some declared →
      inside place result → accepts model (binding.method.erase declared) result.type = true →
      good ⟨result.value,
        some (resultType binding.method (gathered binding arguments place) declared)⟩) :
    Guarantees kept allowed good (runMethod model powers this binding arguments) := by
  unfold runMethod
  refine (guarantees_packed binding arguments newArray).bind fun given ⟨place, same⟩ => ?_
  subst same
  refine (executed place).bind fun returned here => ?_
  split
  · rename_i returns
    exact guarantees_pure (nothing returns)
  · exact guarantees_raise faults _ _
  · rename_i declared result returns
    split
    · rename_i fits
      exact guarantees_pure (something place declared result returns (here result rfl) fits)
    · exact guarantees_raise faults _ _

/-- An object is made of values for its slots that fit together. -/
theorem guarantees_newInstance (fits : Slot × Value → TypeId × Code.Field → Prop)
    {powers : Powers} {type : TypeId}
    (initial : ∀ declaration, model.get? type = some declaration →
      declaration.header.isAbstract = false → ∀ entry ∈ instanceFields model type,
      Guarantees kept allowed (fun value => fits ((entry.1, entry.2.name), value) entry)
        (initialValue model powers ⟨none, type, []⟩ entry.2))
    (made : ∀ store declaration slots, kept store → model.get? type = some declaration →
      List.Forall₂ fits slots (instanceFields model type) →
      kept (store.newObject type slots).2 ∧
        good ⟨.object (store.newObject type slots).1, some (model.typeRef type)⟩) :
    Guarantees kept allowed good (newInstance model powers type) := by
  unfold newInstance
  cases known : model.get? type with
  | none => exact guarantees_raise faults _ _
  | some declaration =>
      dsimp only
      split
      · exact guarantees_raise faults _ _
      · rename_i concrete
        have slots : Guarantees kept allowed
            (fun slots => List.Forall₂ fits slots (instanceFields model type))
            ((instanceFields model type).mapM (fun entry => do
              return ((entry.1, entry.2.name),
                ← initialValue model powers ⟨none, type, []⟩ entry.2))) :=
          guarantees_mapM fun entry member =>
            (initial declaration known (Bool.eq_false_iff.2 concrete) entry member).bind
              fun value here => guarantees_pure here
        refine slots.bind fun slots here => ?_
        refine guarantees_get.bind fun store before => ?_
        obtain ⟨after, object⟩ := made store declaration slots before known here
        exact (guarantees_set after).bind fun _ _ => guarantees_pure object

end

end BuilderSynthesis.Eval
