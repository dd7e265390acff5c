import BuilderSynthesis.Proofs.Ending
import BuilderSynthesis.Proofs.Typing

/-!
Contract: that runs of the machine keep values and stores sound.

Where what the machine takes for granted is true, every construct gives a sound value if its parts
do, a call is of a method that the class of the receiver has or inherits, and the parameters of a
method have values that fit them. So a task that starts from sound values on a sound store leaves
a sound store, and its value is sound. An inferred type can be wrong for a method that hands back
another argument than the one from which the type was inferred.

Owns: `sound_run`.
-/

namespace BuilderSynthesis.Eval

open BuilderSynthesis.Code (Method Model TypeId TypeRef)

variable {model : Model}

/-! ### Stores -/

theorem slot?_write_cases {store : Store} {object other : Object} {slot wanted : Slot}
    {value found : Value} (held : (store.write object slot value).slot? other wanted = some found) :
    (wanted = slot ∧ found = value) ∨ store.slot? other wanted = some found := by
  by_cases known : object.place < store.objects.length
  · rw [Store.slot?_write store known] at held
    split at held
    · rename_i here
      exact .inl ⟨here.2, (Option.some.inj held).symm⟩
    · exact .inr held
  · rw [Store.write_of_length_le (Nat.le_of_not_lt known)] at held
    exact .inr held

theorem SoundStore.write {store : Store} (before : SoundStore model store) (object : Object)
    {owner : TypeId} {name : String} {declared : TypeRef} {value : Value}
    (known : fieldType model owner name = .ok declared) (fits : Fits model value declared) :
    SoundStore model (store.write object (owner, name) value) := by
  intro other type wanted found expected held knownToo
  rcases slot?_write_cases held with ⟨same, rfl⟩ | old
  · obtain ⟨rfl, rfl⟩ := Prod.mk.inj same
    obtain rfl := Except.ok.inj (known.symm.trans knownToo)
    exact fits
  · exact before other type wanted found expected old knownToo

/-- The declared type of a field of an object is that with which its owner declares it. -/
theorem fieldType_of_instanceFields (orderly : model.Orderly) {type owner : TypeId}
    {field : Code.Field} (member : (owner, field) ∈ instanceFields model type) :
    fieldType model owner field.name = .ok field.type := by
  obtain ⟨-, declaration, known, here⟩ := exists_of_instanceFields member
  have first : declaration.field? field.name = some field := by
    unfold Code.Declaration.field?
    refine Lists.find?_eq_of_unique here (beq_self_eq_true _) fun another there equal => ?_
    exact List.inj_on_of_nodup_map (orderly owner declaration known).1 there here
      (beq_iff_eq.1 equal)
  unfold fieldType
  rw [known, Option.bind_some, first]

theorem SoundStore.newObject (orderly : model.Orderly) {store : Store}
    (before : SoundStore model store) {type : TypeId} {slots : Instance}
    (fit : List.Forall₂ (fun (slot : Slot × Value) entry =>
      slot.1 = (entry.1, entry.2.name) ∧ Fits model slot.2 entry.2.type)
      slots (instanceFields model type)) :
    SoundStore model (store.newObject type slots).2 := by
  intro object owner name value declared held known
  rw [Store.slot?_newObject] at held
  split at held
  · obtain ⟨position, within, same⟩ := List.getElem_of_mem (Keyed.mem_of_value? held)
    obtain ⟨lengths, entries⟩ := List.forall₂_iff_get.1 fit
    obtain ⟨key, fits⟩ := entries position within (lengths ▸ within)
    rw [List.get_eq_getElem, same] at key fits
    obtain ⟨rfl, rfl⟩ := Prod.mk.inj key
    have there := fieldType_of_instanceFields orderly (List.get_mem (instanceFields model type)
      ⟨position, lengths ▸ within⟩)
    rw [known, Except.ok.injEq] at there
    exact there ▸ fits
  · exact before object owner name value declared held known

section

variable (acyclic : Walk.Acyclic model.superclass?) (orderly : model.Orderly)

include acyclic orderly

/-- What may stand for a type and is sound fits the type. -/
theorem fits_of_accepts (rootless : model.lookup Code.objectType = none) {typed : Typed}
    {type : TypeRef} (honest : Honest model typed)
    (accepted : accepts model type typed.type = true) : Fits model typed.value type := by
  intro object className id isObject isClass found
  subst isClass
  have declared : className ≠ Code.objectType := by
    rintro rfl
    rw [rootless] at found
    cases found
  cases static : typed.type with
  | none => exact absurd static (honest.hasType object isObject)
  | some source =>
      rw [static, accepts] at accepted
      cases source with
      | named other =>
          simp only [isAssignable, Bool.or_eq_true, beq_iff_eq] at accepted
          rcases accepted with (same | root) | below
          · exact honest.sound _ static object className id isObject (congrArg _ same) found
          · exact absurd root declared
          · unfold isSubclass at below
            cases there : model.lookup other with
            | none => simp [there] at below
            | some sub =>
                simp only [there, found] at below
                have first := honest.sound _ static object other sub isObject rfl there
                exact Model.isSubtype_trans acyclic orderly first below
      | _ => simp [isAssignable, declared] at accepted

/-- The methods of the type in which a call looks are above the class of the receiver. -/
theorem isSubtype_of_receiver {target : Typed} (sound : Sound model target) {member : String}
    {object : Object} {type owner : TypeId}
    (received : receiver model target member = .ok (object, type))
    (above : model.isSubtype type owner = true) : model.isSubtype object.type owner = true := by
  unfold receiver at received
  split at received
  · rename_i own isObject
    obtain ⟨rfl, rfl⟩ := Prod.mk.inj (Except.ok.inj received)
    cases static : target.type.bind TypeRef.className? with
    | none => simpa [static] using above
    | some className =>
        cases found : model.lookup className with
        | none => simpa [static, found] using above
        | some id =>
            obtain ⟨named, typed, isClass⟩ := Option.bind_eq_some_iff.1 static
            simp only [static, found, Option.bind_some, Option.getD_some] at above
            cases named with
            | named other =>
                have fits := sound _ typed own other id isObject rfl
                obtain rfl := Option.some.inj isClass
                exact Model.isSubtype_trans acyclic orderly (fits found) above
            | _ => cases isClass
  · cases received
  · cases received

end

/-! ### Calls -/

/-- What is known of a method that runs. -/
structure Callable (model : Model) (this : Option Object) (binding : Binding)
    (arguments : List Typed) : Prop where
  receiver : ∀ object, this = some object → model.isSubtype object.type binding.owner = true
  declared : Declares model binding.owner binding.method
  accepted : Accepted model binding (arguments.map Typed.type)
  honest : ∀ argument ∈ arguments, Honest model argument

theorem zip_append_singleton {items : List α} {item : α} (last : items.getLast? = some item)
    {values : List β} (lengths : items.dropLast.length = values.length) (value : β) :
    items.zip (values ++ [value]) = items.dropLast.zip values ++ [(item, value)] :=
  calc items.zip (values ++ [value])
    _ = (items.dropLast ++ [item]).zip (values ++ [value]) := by
      rw [List.dropLast_append_getLast? item last]
    _ = _ := List.zip_append lengths

/-- The type of a result of a type parameter is that of the argument that decides it. -/
theorem resultType_var (method : Method) (arguments : List Typed) (name : String) :
    resultType method arguments (.var name) =
      ((deciding? method arguments name).bind Typed.type).getD (method.erase (.var name)) := by
  have inferred : inferredTypes method arguments =
      (((method.parameters.zip arguments).filterMap (fun entry =>
        (typeParameter? entry.1.type).map fun parameter => (parameter, entry.2))).reverse).map
          (fun entry => (entry.1, entry.2.type.getD (method.erase (.var entry.1)))) := by
    unfold inferredTypes
    rw [List.map_reverse, List.map_filterMap]
    congr 2
    funext entry
    cases written : entry.1.type <;> rfl
  unfold resultType deciding?
  dsimp only
  rw [inferred, Keyed.value?_map (fun parameter (argument : Typed) =>
    argument.type.getD (method.erase (.var parameter)))]
  cases Keyed.value? _ name <;> rfl

/-- An object of a type is sound as one of a type above it. -/
theorem honest_object (faithful : Faithful model) {object : Object} (owner : TypeId)
    (known : owner < model.size)
    (below : model.isSubtype object.type owner = true) :
    Honest model ⟨.object object, some (model.typeRef owner)⟩ := by
  apply honest_of_fits
  rintro other className id ⟨⟩ ⟨⟩ found
  obtain rfl := Option.some.inj (found.symm.trans (faithful.named owner known))
  exact below

theorem honest_gathered {binding : Binding} {arguments : List Typed}
    (honest : ∀ argument ∈ arguments, Honest model argument) (place : Nat) :
    ∀ argument ∈ gathered binding arguments place, Honest model argument := by
  unfold gathered
  split
  · intro argument member
    rcases List.mem_append.1 member with early | last
    · exact honest argument (List.mem_of_mem_take early)
    · rw [List.mem_singleton.1 last]
      exact honest_of_plain fun _ => Value.noConfusion
  · exact honest

section

variable (acyclic : Walk.Acyclic model.superclass?) (orderly : model.Orderly)
  (faithful : Faithful model)

include acyclic orderly faithful

/-- Arguments that parameters take have values that fit the parameters. -/
theorem fit_of_acceptsAll {method : Method} {parameters : List Code.Parameter}
    {arguments : List Typed} (honest : ∀ argument ∈ arguments, Honest model argument)
    (accepted : acceptsAll model (parameters.map fun parameter => method.erase parameter.type)
      (arguments.map Typed.type) = true) :
    List.Forall₂ (fun parameter (argument : Typed) =>
      Fits model argument.value (method.erase parameter.type)) parameters arguments := by
  rw [acceptsAll_iff, List.forall₂_map_left_iff, List.forall₂_map_right_iff,
    List.forall₂_iff_zip] at accepted
  refine List.forall₂_iff_zip.2 ⟨accepted.1, fun {parameter argument} member => ?_⟩
  exact fits_of_accepts acyclic orderly faithful.rootless
    (honest argument (List.of_mem_zip member).2) (accepted.2 member)

/-- The parameters of a method that runs have values that fit them. -/
theorem Callable.fit {this : Option Object} {binding : Binding} {arguments : List Typed}
    (callable : Callable model this binding arguments) (place : Nat) :
    ∀ entry ∈ binding.method.parameters.zip (gathered binding arguments place),
      Fits model entry.2.value (binding.method.erase entry.1.type) := by
  have accepted := callable.accepted
  unfold Accepted at accepted
  unfold gathered
  cases packed : binding.isPacked with
  | false =>
      rw [packed] at accepted
      have fit := fit_of_acceptsAll acyclic orderly faithful callable.honest accepted
      exact fun entry member => (List.forall₂_iff_zip.1 fit).2 member
  | true =>
      cases last : binding.method.parameters.getLast? with
      | none =>
          rw [List.getLast?_eq_none_iff.1 last]
          exact fun entry impossible => nomatch impossible
      | some parameter =>
          rw [packed, if_pos rfl, Method.erasedParameters, ← List.map_dropLast, ← List.map_take]
            at accepted
          have fixed := List.forall₂_iff_zip.1 (fit_of_acceptsAll acyclic orderly faithful
            (fun argument early => callable.honest argument (List.mem_of_mem_take early)) accepted)
          intro entry member
          dsimp only at member
          rw [zip_append_singleton last fixed.1] at member
          rcases List.mem_append.1 member with early | late
          · exact fixed.2 early
          · rw [List.mem_singleton.1 late]
            exact fits_of_plain (fun _ => Value.noConfusion) _

/-- The parameters of a running method are sound. -/
theorem Callable.locals {this : Option Object} {binding : Binding} {arguments : List Typed}
    (callable : Callable model this binding arguments) (place : Nat) {name : String} {typed : Typed}
    (found : (frameOf this binding (gathered binding arguments place)).local? name = some typed) :
    Honest model typed := by
  have member := List.mem_reverse.1 (Keyed.mem_of_value? found)
  obtain ⟨entry, listed, same⟩ := List.mem_map.1 member
  obtain rfl := (Prod.mk.inj same).2
  exact honest_of_fits (callable.fit acyclic orderly faithful place entry listed)

/-- What a method gives is sound for the type that its result has. -/
theorem honest_result {owner : TypeId} {method : Method} (declares : Declares model owner method)
    {declared : TypeRef} (returns : method.returns = some declared) {arguments : List Typed}
    (given : ∀ argument ∈ arguments, Honest model argument) {result : Typed}
    (honest : Honest model result)
    (accepted : accepts model (method.erase declared) result.type = true) {depth : Nat}
    {this : Option Object} {isPacked : Bool} {store after : Store}
    (run : (execute model (powersWith model depth)
      (frameOf this ⟨owner, method, isPacked⟩ arguments) method.body).run store =
        (.ok (some result), after)) :
    Honest model ⟨result.value, some (resultType method arguments declared)⟩ := by
  have erased := fits_of_accepts acyclic orderly faithful.rootless honest accepted
  apply honest_of_fits
  cases declared with
  | named className => exact erased
  | var name =>
      rw [resultType_var]
      cases decides : deciding? method arguments name with
      | none => exact erased
      | some argument =>
          have member : argument ∈ arguments := by
            have listed := List.mem_reverse.1 (Keyed.mem_of_value? decides)
            obtain ⟨entry, paired, same⟩ := List.mem_filterMap.1 listed
            have inside := (List.of_mem_zip (show (entry.1, entry.2) ∈ _ from paired)).2
            obtain ⟨parameter, -, pair⟩ := Option.map_eq_some_iff.1 same
            exact (Prod.mk.inj pair).2 ▸ inside
          intro object className id isObject isClass found
          have same := faithful.handsBack owner method name declares returns depth this isPacked
            arguments store result after run argument decides object isObject
          obtain ⟨sound, hasType⟩ := given argument member
          cases typed : argument.type with
          | none => exact absurd typed (hasType object same)
          | some type =>
              simp only [Option.bind_some, typed, Option.getD_some] at isClass
              exact sound type typed object className id same isClass found
  | _ => exact fits_of_className?_none rfl _

/-! ### Runs -/

/-- A computation keeps the store sound and gives a sound value. -/
abbrev StaysSound (model : Model) : Exec Typed → Prop :=
  Guarantees (SoundStore model) (fun _ => True) (Honest model)

/-- What the constructs do is sound if calls are. -/
theorem discipline_sound {invoke : Invoker}
    (invoked : ∀ this binding arguments, Callable model this binding arguments →
      StaysSound model (invoke this binding arguments))
    (frame : Frame) (known : frame.owner < model.size)
    (below : ∀ object, frame.this = some object →
      model.isSubtype object.type frame.owner = true)
    (locals : ∀ name typed, frame.local? name = some typed → Honest model typed) :
    Discipline model invoke frame (SoundStore model) (fun _ => True) (Honest model) where
  faults _ := trivial
  plain _ := honest_of_plain
  parameter := locals
  this object here := honest_object faithful _ known (below object here)
  field store object type owner name declared value before _ known held :=
    honest_of_fits (before object owner name value declared held known)
  newList _ _ before := before
  write store target object type owner name declared value before _ _ _ known honest accepted :=
    before.write object known
      (fits_of_accepts acyclic orderly faithful.rootless honest accepted)
  callOn target name arguments honest given := by
    refine guarantees_callOn (fun _ => trivial) fun object type binding received resolved => ?_
    obtain ⟨above, declares, accepted⟩ := declares_of_resolve resolved
    obtain ⟨dispatched, declaresToo, acceptedToo⟩ := declares_dispatch
      (isSubtype_of_receiver acyclic orderly honest.sound received above) declares accepted
    exact invoked _ _ _ ⟨fun _ same => Option.some.inj same ▸ dispatched, declaresToo,
      acceptedToo, given⟩
  callOwn name arguments given := by
    refine guarantees_callOwn (fun _ => trivial) (fun object binding here resolved => ?_)
      fun binding _ resolved => ?_
    · obtain ⟨above, declares, accepted⟩ := declares_of_resolve resolved
      obtain ⟨dispatched, declaresToo, acceptedToo⟩ := declares_dispatch
        (Model.isSubtype_trans acyclic orderly (below object here) above) declares accepted
      exact invoked _ _ _ ⟨fun _ same => Option.some.inj same ▸ dispatched, declaresToo,
        acceptedToo, given⟩
    · obtain ⟨-, declares, accepted⟩ := declares_of_resolve resolved
      exact invoked _ _ _ ⟨fun _ impossible => (nomatch impossible), declares, accepted, given⟩
  callSuper object name arguments here given := by
    refine guarantees_callSuper (fun _ => trivial) fun parent binding above resolved => ?_
    obtain ⟨further, declares, accepted⟩ := declares_of_resolve resolved
    have upward := Model.isSubtype_trans acyclic orderly
      (Model.isSubtype_trans acyclic orderly (below object here)
        (Model.isSubtype_superclass acyclic orderly above)) further
    exact invoked _ _ _ ⟨fun _ same => Option.some.inj same ▸ upward, declares, accepted, given⟩

/-- Objects are made with fields that hold what their types say. -/
theorem create_sound (depth : Nat)
    (invoked : ∀ this binding arguments, Callable model this binding arguments →
      StaysSound model (invoke model depth this binding arguments))
    (pending : Nat) (type : TypeId) :
    StaysSound model (create model (invoke model depth) pending type) := by
  induction pending generalizing type with
  | zero => exact guarantees_throw trivial
  | succ pending inductionHypothesis =>
      refine guarantees_newInstance (fun _ => trivial)
        (fun slot entry => slot.1 = (entry.1, entry.2.name) ∧ Fits model slot.2 entry.2.type)
        (fun _ _ _ entry member => ?_)
        fun store declaration slots before known fit => ⟨before.newObject orderly fit,
          honest_object faithful _ (Model.get?_eq_some_lt known)
            (Model.isSubtype_self (Model.get?_eq_some_lt known))⟩
      obtain ⟨owner, field⟩ := entry
      obtain ⟨above, declaration, known, -⟩ := exists_of_instanceFields member
      unfold initialValue
      cases given : field.initializer with
      | none =>
          refine guarantees_pure ⟨rfl, fits_of_plain (fun object => ?_) _⟩
          exact defaultValue_plain field.type object
      | some initializer =>
          have discipline := discipline_sound acyclic orderly faithful invoked ⟨none, type, []⟩
            (Model.lt_of_isSubtype orderly above (Model.get?_eq_some_lt known))
            (fun _ impossible => nomatch impossible) (fun _ _ impossible => nomatch impossible)
          have evaluated : StaysSound model
              (evaluate model ⟨invoke model depth, create model (invoke model depth) pending⟩
                ⟨none, type, []⟩ initializer) :=
            guarantees_evaluate discipline initializer fun _ other _ _ => inductionHypothesis other
          refine evaluated.given.bind fun typed ⟨honest, store, after, run⟩ =>
            guarantees_pure ⟨rfl, ?_⟩
          exact fits_of_accepts acyclic orderly faithful.rootless honest
            (faithful.initialized type owner field initializer member given depth pending store
              typed after run)

/-- A call that starts with sound values on a sound store stays sound. -/
theorem invoke_sound (depth : Nat) {this : Option Object} {binding : Binding}
    {arguments : List Typed} (callable : Callable model this binding arguments) :
    StaysSound model (invoke model depth this binding arguments) := by
  induction depth generalizing this binding arguments with
  | zero => exact guarantees_raise (fun _ => trivial) _ _
  | succ depth inductionHypothesis =>
      rw [invoke_succ]
      have created := create_sound acyclic orderly faithful depth
        fun _ _ _ => inductionHypothesis
      obtain ⟨declaration, known, -⟩ := callable.declared
      refine guarantees_runMethod (fun _ => trivial)
        (fun place typed => Honest model typed ∧ ∃ store after,
          (execute model (powersWith model depth)
            (frameOf this binding (gathered binding arguments place)) binding.method.body).run
              store = (.ok (some typed), after))
        (fun _ _ before => before) (fun place => ?_)
        (fun _ => honest_of_plain fun _ => Value.noConfusion)
        fun place declared result returns ⟨honest, store, after, run⟩ accepted => ?_
      · have discipline := discipline_sound acyclic orderly faithful
          (fun _ _ _ => inductionHypothesis)
          (frameOf this binding (gathered binding arguments place))
          (Model.get?_eq_some_lt known) callable.receiver
          fun _ _ => callable.locals acyclic orderly faithful place
        have executed : Guarantees (SoundStore model) (fun _ => True)
            (fun result => ∀ typed, result = some typed → Honest model typed)
            (execute model (powersWith model depth)
              (frameOf this binding (gathered binding arguments place)) binding.method.body) :=
          guarantees_execute discipline (fun _ type _ => created model.size type) _
        refine executed.given.mono fun value ⟨honest, store, after, run⟩ typed same => ?_
        subst same
        exact ⟨honest typed rfl, store, after, run⟩
      · exact honest_result acyclic orderly faithful callable.declared returns
          (honest_gathered callable.honest place) honest accepted run

end

/-- What a task starts from is sound, and an object among the arguments has a static type. -/
def Task.StartsSound (model : Model) : Task → Prop
  | .instantiate _ => True
  | .callStatic _ _ arguments => ∀ argument ∈ arguments, Honest model argument
  | .call target _ arguments =>
      Sound model target ∧ ∀ argument ∈ arguments, Honest model argument

/-- A task that starts from sound values on a sound store leaves a sound store, even if it fails,
and a value that it gives is sound. -/
theorem sound_run (reached : model.Reached) (acyclic : Walk.Acyclic model.superclass?)
    (faithful : Faithful model) {task : Task} (starts : task.StartsSound model) {store : Store}
    (before : SoundStore model store) :
    SoundStore model ((task.run model).run store).2 ∧
      ∀ typed, ((task.run model).run store).1 = .ok typed → Honest model typed := by
  have orderly := reached.orderly
  have calls : ∀ this binding arguments, Callable model this binding arguments →
      StaysSound model (invoke model maximalDepth this binding arguments) := fun _ _ _ =>
    invoke_sound acyclic orderly faithful maximalDepth
  have settles : ∀ {α : Type} (result : Except Fault α), Guarantees (SoundStore model)
      (fun _ => True) (fun value => result = .ok value) (settled result) :=
    guarantees_settled fun _ => trivial
  have stays : StaysSound model (task.run model) := by
    cases task with
    | instantiate className =>
        exact (settles _).bind fun type _ =>
          create_sound acyclic orderly faithful maximalDepth calls model.size type
    | callStatic className method arguments =>
        refine (settles _).bind fun type _ => (settles _).bind fun binding resolved => ?_
        obtain ⟨-, declares, accepted⟩ := declares_of_resolve resolved
        exact calls _ _ _ ⟨fun _ impossible => (nomatch impossible), declares, accepted, starts⟩
    | call target method arguments =>
        refine guarantees_callOn (fun _ => trivial) fun object type binding received resolved => ?_
        obtain ⟨above, declares, accepted⟩ := declares_of_resolve resolved
        obtain ⟨dispatched, declaresToo, acceptedToo⟩ := declares_dispatch
          (isSubtype_of_receiver acyclic orderly starts.1 received above) declares accepted
        exact calls _ _ _ ⟨fun _ same => Option.some.inj same ▸ dispatched, declaresToo,
          acceptedToo, starts.2⟩
  obtain ⟨after, outcome⟩ := stays store before
  refine ⟨after, fun typed given => ?_⟩
  rwa [given] at outcome

theorem soundStore_of_null {store : Store}
    (null : ∀ fields ∈ store.objects, ∀ entry ∈ fields, entry.2 = .null) :
    SoundStore model store := by
  intro object owner name value declared held _
  have member := Keyed.mem_of_value? held
  rw [List.getD_eq_getElem?_getD] at member
  cases there : store.objects[object.place]? with
  | none =>
      rw [there] at member
      cases member
  | some fields =>
      rw [there, Option.getD_some] at member
      refine fits_of_plain (fun other same => ?_) declared
      cases same.symm.trans (null fields (List.mem_of_getElem? there) _ member)

/-- A kennel starts with a dog, and keeps the animal that it is given and gives back. -/
def keeping : List Code.Request :=
  [.topLevel "zoo.Animal" { name := "Animal" },
    .topLevel "zoo.Dog" { name := "Dog" },
    .superclass 1 0,
    .topLevel "zoo.Kennel" { name := "Kennel" },
    .field 2
      { name := "guest"
        type := .named "zoo.Animal"
        initializer := some (.new (.named "zoo.Dog")) },
    .method 2
      { name := "keep"
        typeParameters := [⟨"T", [.named "zoo.Animal"]⟩]
        parameters := [{ name := "animal", type := .var "T" }]
        returns := some (.var "T")
        body := [.assign (.ownField "guest") (.ident "animal"), .return (some (.ident "animal"))] }]

/-- A kennel without a guest keeps a dog. -/
def keepDog : Task :=
  .call ⟨.object ⟨0, 2⟩, some (.named "zoo.Kennel")⟩ "keep"
    [⟨.object ⟨1, 1⟩, some (.named "zoo.Dog")⟩]

def beforeKeeping : Store :=
  { objects := [[((2, "guest"), .null)], []] }

theorem faithful_keeping : Faithful (keeping.foldl Model.serve {}) where
  named := by decide
  rootless := by decide
  initialized := by
    refine initialized_of_startType fun owner declaration field initializer known member given => ?_
    have small := Model.get?_eq_some_lt known
    match owner, small with
    | 0, _ =>
        cases known
        cases member
    | 1, _ =>
        cases known
        cases member
    | 2, _ =>
        cases known
        obtain rfl := List.mem_singleton.1 member
        cases given
        exact ⟨_, rfl, by decide⟩
  handsBack := by
    refine handsBack_of_returnsParameter fun owner method name declares returns => ?_
    obtain ⟨declaration, known, member⟩ := declares
    have small := Model.get?_eq_some_lt known
    match owner, small with
    | 0, _ =>
        cases known
        cases member
    | 1, _ =>
        cases known
        cases member
    | 2, _ =>
        cases known
        obtain rfl := List.mem_singleton.1 member
        cases returns
        intro value given
        simp only [List.mem_cons, List.not_mem_nil, or_false, reduceCtorEq, false_or] at given
        cases given
        refine .inr ⟨[], _, [], rfl, rfl, rfl, ?_, ?_⟩
        · exact fun _ impossible => nomatch impossible
        · exact fun _ impossible => nomatch impossible

theorem keeping_sound_run :
    Model.Reached (keeping.foldl Model.serve {}) ∧
      Walk.Acyclic (keeping.foldl Model.serve {}).superclass? ∧
      Faithful (keeping.foldl Model.serve {}) ∧
      keepDog.StartsSound (keeping.foldl Model.serve {}) ∧
      SoundStore (keeping.foldl Model.serve {}) beforeKeeping ∧
      SoundStore (keeping.foldl Model.serve {})
        ((keepDog.run (keeping.foldl Model.serve {})).run beforeKeeping).2 ∧
      Honest (keeping.foldl Model.serve {}) ⟨.object ⟨1, 1⟩, some (.named "zoo.Dog")⟩ := by
  have reached : Model.Reached (keeping.foldl Model.serve {}) :=
    Model.steps_foldl_serve (by decide)
  have acyclic : Walk.Acyclic (keeping.foldl Model.serve {}).superclass? := by
    refine Walk.acyclic_of_descending fun type other link => ?_
    have small := (reached.orderly.bounded type other link).1
    match type, small with
    | 0, _ => cases link
    | 1, _ => exact Option.some.inj link ▸ Nat.one_pos
    | 2, _ => cases link
  have starts : keepDog.StartsSound (keeping.foldl Model.serve {}) := by
    refine ⟨(honest_object faithful_keeping 2 (by decide) (by decide)).sound, ?_⟩
    intro argument member
    obtain rfl := List.mem_singleton.1 member
    exact honest_object faithful_keeping 1 (by decide) (by decide)
  have before : SoundStore (keeping.foldl Model.serve {}) beforeKeeping :=
    soundStore_of_null (by decide)
  have stays := sound_run reached acyclic faithful_keeping starts before
  exact ⟨reached, acyclic, faithful_keeping, starts, before, stays.1, stays.2 _ (by rfl)⟩

/-! ### A result that is another argument -/

/-- Dogs and cats are animals, and an animal gives the first of two that are of one type. -/
def choosing : List Code.Request :=
  [.topLevel "zoo.Animal" { name := "Animal" },
    .topLevel "zoo.Dog" { name := "Dog" },
    .topLevel "zoo.Cat" { name := "Cat" },
    .superclass 1 0,
    .superclass 2 0,
    .method 0
      { name := "first"
        typeParameters := [⟨"T", [.named "zoo.Animal"]⟩]
        parameters := [{ name := "one", type := .var "T" }, { name := "two", type := .var "T" }]
        returns := some (.var "T")
        body := [.return (some (.ident "one"))] }]

/-- The type of the result is inferred from the last argument, also if the result is the first. -/
theorem not_every_run_is_sound :
    ¬ ∀ model : Model, model.Reached → Walk.Acyclic model.superclass? →
      ∀ (target : Typed) (method : String) (arguments : List Typed) (store after : Store)
        (result : Typed), Sound model target → (∀ argument ∈ arguments, Sound model argument) →
        SoundStore model store →
        (call model target method arguments).run store = (.ok result, after) →
        Sound model result ∧ SoundStore model after := by
  intro always
  have reached : Model.Reached (choosing.foldl Model.serve {}) :=
    Model.steps_foldl_serve (by decide)
  have acyclic : Walk.Acyclic (choosing.foldl Model.serve {}).superclass? := by
    refine Walk.acyclic_of_descending fun type other link => ?_
    have small := (reached.orderly.bounded type other link).1
    match type, small with
    | 0, _ => cases link
    | 1, _ => exact Option.some.inj link ▸ Nat.one_pos
    | 2, _ => exact Option.some.inj link ▸ Nat.two_pos
  have own : ∀ {place type : Nat} {className : String},
      Model.lookup (choosing.foldl Model.serve {}) className = some type →
      Model.isSubtype (choosing.foldl Model.serve {}) type type = true →
      Sound (choosing.foldl Model.serve {}) ⟨.object ⟨place, type⟩, some (.named className)⟩ := by
    intro place type className known self named same object other id isObject isClass found
    obtain rfl := Value.object.inj isObject
    obtain rfl := TypeRef.named.inj ((Option.some.inj same).trans isClass)
    exact Option.some.inj (known.symm.trans found) ▸ self
  -- A dog and a cat are given, and the dog comes back as a cat.
  have run : (call (choosing.foldl Model.serve {})
      ⟨.object ⟨0, 0⟩, some (.named "zoo.Animal")⟩ "first"
      [⟨.object ⟨1, 1⟩, some (.named "zoo.Dog")⟩, ⟨.object ⟨2, 2⟩, some (.named "zoo.Cat")⟩]).run
        { objects := [[], [], []] } =
      (.ok ⟨.object ⟨1, 1⟩, some (.named "zoo.Cat")⟩, { objects := [[], [], []] }) := by rfl
  have arguments : ∀ argument ∈ ([⟨.object ⟨1, 1⟩, some (.named "zoo.Dog")⟩,
      ⟨.object ⟨2, 2⟩, some (.named "zoo.Cat")⟩] : List Typed),
      Sound (choosing.foldl Model.serve {}) argument :=
    List.forall_mem_cons.2 ⟨own (by decide) (by decide),
      List.forall_mem_singleton.2 (own (by decide) (by decide))⟩
  have before : SoundStore (choosing.foldl Model.serve {}) { objects := [[], [], []] } :=
    soundStore_of_null (by decide)
  have sound := (always _ reached acyclic _ _ _ _ _ _ (own (by decide) (by decide)) arguments
    before run).1
  have below := sound _ rfl ⟨1, 1⟩ "zoo.Cat" 2 rfl rfl (by decide)
  exact absurd below (by decide)

end BuilderSynthesis.Eval
