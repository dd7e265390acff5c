import BuilderSynthesis.Proofs.Identity
import BuilderSynthesis.Proofs.Relocation
import Mathlib.Data.Finset.Card
import Mathlib.Data.Finset.Range
import Mathlib.Order.Monotone.Basic

/-!
Contract: which runs of the machine end.

Calls are pending to a fixed depth, so methods that call each other without end are cut off. The
objects that initial values of fields make are not counted. The machine allows as many of them to
be pending inside each other as there are types, and takes a run that needs more for one without
end. This is exact: an answer is the same with more room, and no room is enough for a run that has
no answer with this much. There is always an answer if no object of a class takes another object
of that class first.

Owns: `Ends` and `ends_iff`; `Requires`, which objects take others first; `ends_without_circles`.
-/

namespace BuilderSynthesis.Eval

open BuilderSynthesis.Code (Expression Model Statement TypeId TypeRef)
open Relation (TransGen)

/-! ### Machines with room for pending objects -/

/-- Calls a method, with at most a number of calls pending inside each other, and in each of them
at most a number of objects. -/
def invokeWithin (model : Model) (room : Nat) : Nat → Invoker
  | 0, _, _, _ => raise .stackOverflow
  | depth + 1, this, binding, arguments =>
      runMethod model
        ⟨invokeWithin model room depth, create model (invokeWithin model room depth) room⟩
        this binding arguments

/-- What a program asks of a machine. -/
inductive Task where
  | instantiate (className : String)
  | callStatic (className method : String) (arguments : List Typed)
  | call (target : Typed) (method : String) (arguments : List Typed)

namespace Task

def run (model : Model) : Task → Exec Typed
  | .instantiate className => Eval.instantiate model className
  | .callStatic className method arguments => Eval.callStatic model className method arguments
  | .call target method arguments => Eval.call model target method arguments

/-- What a machine does that calls methods and makes objects in some way. -/
def runWith (model : Model) (powers : Powers) : Task → Exec Typed
  | .instantiate className => do powers.create (← settled (findClass model className))
  | .callStatic className method arguments => do
      let type ← settled (findClass model className)
      let binding ← settled (resolve model type method (arguments.map Typed.type) true)
      powers.invoke none binding arguments
  | .call target method arguments => callOn model powers.invoke target method arguments

/-- What a machine does that allows a number of objects to be pending inside each other. -/
def runWithin (model : Model) (room : Nat) : Task → Exec Typed :=
  runWith model
    ⟨invokeWithin model room maximalDepth, create model (invokeWithin model room maximalDepth) room⟩

end Task

theorem invokeWithin_size (model : Model) (depth : Nat) :
    invokeWithin model model.size depth = invoke model depth := by
  induction depth with
  | zero => rfl
  | succ depth inductionHypothesis =>
      funext this binding arguments
      rw [invokeWithin, inductionHypothesis]
      rfl

theorem Task.run_eq (model : Model) (task : Task) :
    task.run model = task.runWith model (powersWith model maximalDepth) := by
  cases task <;> rfl

/-- The machine allows as many objects as there are types. -/
theorem Task.runWithin_size (model : Model) (task : Task) :
    task.runWithin model model.size = task.run model := by
  rw [runWithin, invokeWithin_size, run_eq]
  rfl

/-- A value or a fault that the machine reports. -/
def IsAnswer (outcome : Except Failure Typed) : Prop :=
  (∃ typed, outcome = .ok typed) ∨ ∃ fault, outcome = .error (.fault fault)

/-- A task ends with an answer, which is the same however many more objects may be pending. -/
def Ends (model : Model) (task : Task) (store : Store) : Prop :=
  ∃ enough outcome after, IsAnswer outcome ∧
    ∀ room, enough ≤ room → (task.runWithin model room).run store = (outcome, after)

/-! ### More room -/

section

variable {model : Model} {stores : Store → Store → Prop} {values : Value → Value → Prop}

/-- An object that is made is made alike with more room. -/
theorem foretells_create (like : Likeness stores values) {invoke invokeToo : Invoker}
    (invoked : InvokersAlike stores values invoke invokeToo) {room more : Nat}
    (enough : room ≤ more) (type : TypeId) :
    Foretells stores (TypedAlike values) (create model invoke room type)
      (create model invokeToo more type) := by
  induction room generalizing more type with
  | zero => exact foretells_of_divergence _ _ _
  | succ room inductionHypothesis =>
      obtain ⟨less, rfl⟩ : ∃ less, more = less + 1 := ⟨more - 1, by omega⟩
      exact foretells_newInstance like invoked
        (fun _ other _ => inductionHypothesis (Nat.le_of_succ_le_succ enough) other) type

theorem invokersAlike_of_le (like : Likeness stores values) {room more : Nat}
    (enough : room ≤ more) (depth : Nat) :
    InvokersAlike stores values (invokeWithin model room depth)
      (invokeWithin model more depth) := by
  induction depth with
  | zero => exact fun _ _ _ _ _ _ _ => foretells_raise _ _
  | succ depth inductionHypothesis =>
      exact foretells_runMethod like inductionHypothesis fun _ type _ =>
        foretells_create like inductionHypothesis enough type

end

/-! ### More room than there are types

Whether an object of a class can be made does not depend on the store, since its fields start with
what is made for them. If more room lets more classes be made, this starts with the first step of
room, and it goes on with every further one: once a step lets no class more be made, no later one
does, and there are not more such steps than types. -/

section

variable {model : Model} (indexed : model.Indexed)

section

open Classical in
/-- The types of which an object can be made on the empty store with some room. -/
noncomputable def makeable (model : Model) (invoke : Invoker) (room : Nat) : Finset TypeId :=
  (Finset.range model.size).filter fun type => Halts (create model invoke room type) {}

theorem mem_makeable_iff (model : Model) (invoke : Invoker) (room : Nat) (type : TypeId) :
    type ∈ makeable model invoke room ↔
      type < model.size ∧ Halts (create model invoke room type) {} := by
  classical
  unfold makeable
  rw [Finset.mem_filter, Finset.mem_range]

theorem card_makeable_le (model : Model) (invoke : Invoker) (room : Nat) :
    (makeable model invoke room).card ≤ model.size := by
  classical
  exact (Finset.card_filter_le _ _).trans_eq (Finset.card_range _)

include indexed in
theorem lt_size_of_lookup {className : String} {type : TypeId}
    (found : model.lookup className = some type) : type < model.size := by
  obtain ⟨declaration, known, -⟩ := Model.get?_of_lookup indexed found
  exact Model.get?_eq_some_lt known

variable {invoke : Invoker}
  (invoked : ∀ {stores : Store → Store → Prop} {values : Value → Value → Prop},
    Likeness stores values → InvokersAlike stores values invoke invoke)

include invoked

theorem halts_create {room more : Nat} (enough : room ≤ more) {type : TypeId} {store : Store}
    (halts : Halts (create model invoke room type) store) (other : Store) :
    Halts (create model invoke more type) other :=
  (foretells_create (likeness_moved store other) (invoked (likeness_moved store other)) enough
    type).halts (movedStore_self store other) halts

/-- If more room lets no class more be made, still more room does not either. -/
theorem halts_create_of_stable {room : Nat}
    (stable : ∀ className type, model.lookup className = some type →
      Halts (create model invoke (room + 1) type) {} → Halts (create model invoke room type) {})
    {type : TypeId} (halts : Halts (create model invoke (room + 2) type) {}) :
    Halts (create model invoke (room + 1) type) {} := by
  refine (foretells_newInstance likeness_eq (invoked likeness_eq) ?_ type).halts rfl halts
  intro className other found
  refine Foretells.turn ?_ fun before beforeToo _ ends => ?_
  · exact (foretells_create alike_eq.back (invoked alike_eq.back) (Nat.le_succ room) other).mono
      fun _ _ same => same.flip
  · exact halts_create invoked (Nat.le_refl _)
      (stable className other found (halts_create invoked (Nat.le_refl _) ends {})) beforeToo

theorem makeable_mono {room more : Nat} (enough : room ≤ more) :
    makeable model invoke room ⊆ makeable model invoke more := by
  intro type member
  obtain ⟨known, ends⟩ := (mem_makeable_iff _ _ _ _).1 member
  exact (mem_makeable_iff _ _ _ _).2 ⟨known, halts_create invoked enough ends {}⟩

include indexed

theorem makeable_stabilizes {room : Nat}
    (same : (makeable model invoke room).card = (makeable model invoke (room + 1)).card) :
    (makeable model invoke (room + 1)).card = (makeable model invoke (room + 2)).card := by
  have equal := Finset.eq_of_subset_of_card_le (makeable_mono invoked (Nat.le_succ room)) same.ge
  refine congrArg Finset.card
    (Finset.Subset.antisymm (makeable_mono invoked (Nat.le_succ _)) fun type member => ?_)
  obtain ⟨known, ends⟩ := (mem_makeable_iff _ _ _ _).1 member
  refine (mem_makeable_iff _ _ _ _).2 ⟨known, halts_create_of_stable invoked ?_ ends⟩
  intro className other found further
  have there := (mem_makeable_iff _ _ _ _).2 ⟨lt_size_of_lookup indexed found, further⟩
  rw [← equal] at there
  exact ((mem_makeable_iff _ _ _ _).1 there).2

/-- With as much room as there are types, every class can be made that can be made at all. -/
theorem halts_create_size {className : String} {type : TypeId}
    (found : model.lookup className = some type) {room : Nat} {store : Store}
    (halts : Halts (create model invoke room type) store) (other : Store) :
    Halts (create model invoke model.size type) other := by
  have enough : model.size ≤ max room model.size := Nat.le_max_right _ _
  have cards : (makeable model invoke (max room model.size)).card =
      (makeable model invoke model.size).card :=
    Nat.stabilises_of_monotone (fun _ _ more => Finset.card_le_card (makeable_mono invoked more))
      (card_makeable_le model invoke) (fun _ => makeable_stabilizes indexed invoked) enough
  have equal := Finset.eq_of_subset_of_card_le (makeable_mono invoked enough) cards.le
  have there := (mem_makeable_iff _ _ _ _).2 ⟨lt_size_of_lookup indexed found,
    halts_create invoked (Nat.le_max_left room model.size) halts {}⟩
  rw [← equal] at there
  exact halts_create invoked (Nat.le_refl _) ((mem_makeable_iff _ _ _ _).1 there).2 other

end

theorem invokersAlike_self {stores : Store → Store → Prop} {values : Value → Value → Prop}
    (like : Likeness stores values) (depth : Nat) :
    InvokersAlike stores values (invoke model depth) (invoke model depth) := by
  rw [← invokeWithin_size]
  exact invokersAlike_of_le like (Nat.le_refl _) depth

variable {room : Nat} (enough : model.size ≤ room)

include indexed enough

theorem creatorsAlike_size {depth : Nat}
    (invoked : ∀ {stores : Store → Store → Prop} {values : Value → Value → Prop},
      Alike stores values →
      InvokersAlike stores values (invokeWithin model room depth) (invoke model depth))
    {stores : Store → Store → Prop} {values : Value → Value → Prop} (alike : Alike stores values) :
    CreatorsAlike model stores values (create model (invokeWithin model room depth) room)
      (create model (invoke model depth) model.size) := by
  intro className type found
  refine Foretells.turn ?_ fun before beforeToo _ ends => ?_
  · have back : InvokersAlike (flip stores) (flip values) (invoke model depth)
        (invokeWithin model room depth) := by
      rw [← invokeWithin_size]
      exact invokersAlike_of_le alike.back enough depth
    exact (foretells_create alike.back back enough type).mono fun _ _ same => same.flip
  · have moved := (foretells_create (likeness_moved before beforeToo)
      (invoked (alike_moved before beforeToo)) (Nat.le_refl room) type).halts
        (movedStore_self before beforeToo) ends
    exact halts_create_size indexed (fun like => invokersAlike_self like depth) found moved
      beforeToo

theorem invokersAlike_size (depth : Nat) {stores : Store → Store → Prop}
    {values : Value → Value → Prop} (alike : Alike stores values) :
    InvokersAlike stores values (invokeWithin model room depth) (invoke model depth) := by
  induction depth generalizing stores values with
  | zero => exact fun _ _ _ _ _ _ _ => foretells_raise _ _
  | succ depth inductionHypothesis =>
      exact foretells_runMethod alike.forth (inductionHypothesis alike)
        (creatorsAlike_size indexed enough inductionHypothesis alike)

end

/-! ### Answers -/

theorem foretells_runWith {model : Model} {powers powersToo : Powers}
    (invoked : InvokersAlike Eq Eq powers.invoke powersToo.invoke)
    (created : CreatorsAlike model Eq Eq powers.create powersToo.create) (task : Task) :
    Foretells Eq (TypedAlike Eq) (task.runWith model powers) (task.runWith model powersToo) := by
  have given : ∀ arguments : List Typed, List.Forall₂ (TypedAlike Eq) arguments arguments :=
    fun arguments => List.forall₂_same.2 fun _ _ => ⟨rfl, rfl⟩
  cases task with
  | instantiate className =>
      refine (foretells_settled _).bind fun type other found => ?_
      obtain ⟨found, rfl⟩ := found
      exact created className other (lookup_of_findClass found)
  | callStatic className method arguments =>
      refine (foretells_settled _).bind fun type other found => ?_
      obtain ⟨-, rfl⟩ := found
      refine (foretells_settled _).bind fun binding bindingToo resolved => ?_
      obtain ⟨-, rfl⟩ := resolved
      exact invoked _ _ _ _ _ .none (given arguments)
  | call target method arguments =>
      exact foretells_callOn invoked (given arguments) likeness_eq ⟨rfl, rfl⟩ method

theorem Foretells.run_eq {one two : Exec Typed}
    (foretells : Foretells Eq (TypedAlike Eq) one two) {store after : Store}
    {outcome : Except Failure Typed} (run : one.run store = (outcome, after))
    (answer : IsAnswer outcome) : two.run store = (outcome, after) := by
  obtain ⟨values, faults⟩ := foretells store store rfl
  obtain ⟨typed, rfl⟩ | ⟨fault, rfl⟩ := answer
  · obtain ⟨⟨value, type⟩, afterToo, runToo, ⟨rfl, rfl⟩, rfl⟩ := values typed after run
    exact runToo
  · obtain ⟨afterToo, runToo, rfl⟩ := faults fault after run
    exact runToo

/-- An answer stays the same with more room. -/
theorem runWithin_eq_of_le {model : Model} {room more : Nat} (enough : room ≤ more) {task : Task}
    {store after : Store} {outcome : Except Failure Typed}
    (run : (task.runWithin model room).run store = (outcome, after)) (answer : IsAnswer outcome) :
    (task.runWithin model more).run store = (outcome, after) := by
  have invoked : InvokersAlike Eq Eq (invokeWithin model room maximalDepth)
      (invokeWithin model more maximalDepth) :=
    invokersAlike_of_le likeness_eq enough maximalDepth
  have foretold : Foretells Eq (TypedAlike Eq) (task.runWithin model room)
      (task.runWithin model more) :=
    foretells_runWith invoked
      (fun _ type _ => foretells_create likeness_eq invoked enough type) task
  exact foretold.run_eq run answer

/-- An answer that some room is enough for is the answer of the machine. -/
theorem run_eq_of_runWithin {model : Model} (indexed : model.Indexed) {room : Nat} {task : Task}
    {store after : Store} {outcome : Except Failure Typed}
    (run : (task.runWithin model room).run store = (outcome, after)) (answer : IsAnswer outcome) :
    (task.run model).run store = (outcome, after) := by
  have enough : model.size ≤ max room model.size := Nat.le_max_right _ _
  have created := creatorsAlike_size indexed enough
    (fun alike => invokersAlike_size indexed enough maximalDepth alike) alike_eq
  have more := runWithin_eq_of_le (Nat.le_max_left room model.size) run answer
  rw [Task.run_eq]
  exact (foretells_runWith (invokersAlike_size indexed enough maximalDepth alike_eq) created
    task).run_eq more answer

/-- The machine gives an answer exactly if the task ends: what it takes for going on without end
does go on without end. -/
theorem ends_iff {model : Model} (reached : model.Reached) (task : Task) (store : Store) :
    Ends model task store ↔ IsAnswer ((task.run model).run store).1 := by
  have indexed := (Model.consistent_empty.steps reached).1.indexed
  constructor
  · rintro ⟨enough, outcome, after, answer, ends⟩
    rw [run_eq_of_runWithin indexed (ends enough (Nat.le_refl enough)) answer]
    exact answer
  · intro answer
    refine ⟨model.size, _, ((task.run model).run store).2, answer, fun room enough => ?_⟩
    exact runWithin_eq_of_le enough (by rw [Task.runWithin_size]; rfl) answer

/-! ### Objects that take others first -/

/-- Making an object of a class takes making one of another class. -/
def Requires (model : Model) (type other : TypeId) : Prop :=
  (∃ declaration, model.get? type = some declaration ∧ declaration.header.isAbstract = false) ∧
  ∃ entry ∈ instanceFields model type, ∃ initializer className,
    entry.2.initializer = some initializer ∧
    Expression.new (.named className) ∈ initializer.within ∧ model.lookup className = some other

/-- A number of pending objects is enough for making an object of a class. -/
def Ample (model : Model) : Nat → TypeId → Prop
  | 0, _ => False
  | room + 1, type => ∀ other, Requires model type other → Ample model room other

section

variable {model : Model}

/-- With all types pending there is none left to require: `pending` are the types that led to a
type, all different since no class requires itself. -/
theorem ample_of_pending (indexed : model.Indexed)
    (acyclic : ∀ type, ¬ TransGen (Requires model) type type) {room type : Nat}
    {pending : List Nat} (known : type < model.size) (distinct : pending.Nodup)
    (within : ∀ earlier ∈ pending, earlier < model.size)
    (leads : ∀ earlier ∈ pending, TransGen (Requires model) earlier type)
    (full : model.size ≤ pending.length + room) : Ample model room type := by
  have fresh : ∀ {type : Nat} {pending : List Nat},
      (∀ earlier ∈ pending, TransGen (Requires model) earlier type) → type ∉ pending :=
    fun leads member => acyclic _ (leads _ member)
  induction room generalizing type pending with
  | zero =>
      have all : type :: pending ⊆ List.range model.size := by
        intro other member
        rw [List.mem_range]
        rcases List.mem_cons.1 member with rfl | there
        · exact known
        · exact within other there
      have few := ((List.nodup_cons.2 ⟨fresh leads, distinct⟩).subperm all).length_le
      rw [List.length_cons, List.length_range] at few
      omega
  | succ room inductionHypothesis =>
      intro other requires
      obtain ⟨-, -, -, -, className, -, -, found⟩ := id requires
      apply inductionHypothesis (lt_size_of_lookup indexed found)
        (List.nodup_cons.2 ⟨fresh leads, distinct⟩)
      · exact List.forall_mem_cons.2 ⟨known, within⟩
      · exact List.forall_mem_cons.2
          ⟨.single requires, fun earlier member => (leads earlier member).tail requires⟩
      · rw [List.length_cons]
        omega

/-- Where no class requires itself, there are never more objects pending than there are types. -/
theorem ample_of_acyclic (indexed : model.Indexed)
    (acyclic : ∀ type, ¬ TransGen (Requires model) type type) {className : String} {type : TypeId}
    (found : model.lookup className = some type) : Ample model model.size type :=
  ample_of_pending indexed acyclic (lt_size_of_lookup indexed found) List.nodup_nil
    (fun _ impossible => nomatch impossible) (fun _ impossible => nomatch impossible)
    (Nat.le_add_left _ _)

end

/-! ### No failure but faults -/

/-- A failure that the machine reports. -/
def IsFault (failure : Failure) : Prop :=
  ∃ fault, failure = .fault fault

/-- A computation ends with a value or a fault. -/
def Settles (computation : Exec α) : Prop :=
  Guarantees (fun _ => True) IsFault (fun _ => True) computation

theorem isFault_fault (fault : Fault) : IsFault (.fault fault) := ⟨fault, rfl⟩

section

variable (model : Model) {invoke : Invoker}
  (invoked : ∀ this binding arguments, Settles (invoke this binding arguments))

include invoked

theorem discipline_settles (frame : Frame) :
    Discipline model invoke frame (fun _ => True) IsFault (fun _ => True) where
  faults := isFault_fault
  plain := fun _ _ => trivial
  parameter := fun _ _ _ => trivial
  this := fun _ _ => trivial
  field := fun _ _ _ _ _ _ _ _ _ _ _ => trivial
  newList := fun _ _ _ => trivial
  write := fun _ _ _ _ _ _ _ _ _ _ _ _ _ _ _ => trivial
  callOn := fun _ _ _ _ _ => guarantees_callOn isFault_fault fun _ _ _ _ _ => invoked _ _ _
  callOwn := fun _ _ _ => guarantees_callOwn isFault_fault (fun _ _ _ _ => invoked _ _ _)
    fun _ _ _ => invoked _ _ _
  callSuper := fun _ _ _ _ _ => guarantees_callSuper isFault_fault fun _ _ _ _ => invoked _ _ _

theorem settles_create {room : Nat} {type : TypeId} (ample : Ample model room type) :
    Settles (create model invoke room type) := by
  induction room generalizing type with
  | zero => exact ample.elim
  | succ room inductionHypothesis =>
      refine guarantees_newInstance isFault_fault (fun _ _ => True) ?_
        fun _ _ _ _ _ _ => ⟨trivial, trivial⟩
      intro declaration known concrete entry member
      unfold initialValue
      cases given : entry.2.initializer with
      | none => exact guarantees_pure trivial
      | some initializer =>
          have evaluated : Settles
              (evaluate model ⟨invoke, create model invoke room⟩ ⟨none, type, []⟩ initializer) :=
            guarantees_evaluate (discipline_settles model invoked _) initializer
              fun className other made found => inductionHypothesis (ample other
                ⟨⟨declaration, known, concrete⟩, entry, member, initializer, className, given,
                  made, found⟩)
          exact evaluated.bind fun _ _ => guarantees_pure trivial

end

/-! ### Tasks -/

section

variable {model : Model} (indexed : model.Indexed)
  (acyclic : ∀ type, ¬ TransGen (Requires model) type type)

include indexed acyclic

theorem settles_found (invoke : Invoker)
    (invoked : ∀ this binding arguments, Settles (invoke this binding arguments))
    {className : String} {type : TypeId} (found : model.lookup className = some type) :
    Settles (create model invoke model.size type) :=
  settles_create model invoked (ample_of_acyclic indexed acyclic found)

theorem settles_invoke (depth : Nat) (this : Option Object) (binding : Binding)
    (arguments : List Typed) : Settles (invoke model depth this binding arguments) := by
  induction depth generalizing this binding arguments with
  | zero => exact guarantees_raise isFault_fault _ _
  | succ depth inductionHypothesis =>
      rw [invoke_succ]
      refine guarantees_runMethod isFault_fault (fun _ _ => True) (fun _ _ _ => trivial)
        (fun place => ?_) (fun _ => trivial) fun _ _ _ _ _ _ => trivial
      have discipline := discipline_settles model inductionHypothesis
        (frameOf this binding (gathered binding arguments place))
      have created : ∀ className type, model.lookup className = some type →
          Settles ((powersWith model depth).create type) := fun _ _ found =>
        settles_found indexed acyclic _ inductionHypothesis found
      exact (guarantees_execute discipline created _).mono fun _ _ _ _ => trivial

theorem settles_run (task : Task) : Settles (task.run model) := by
  have calls := settles_invoke indexed acyclic maximalDepth
  cases task with
  | instantiate className =>
      exact (guarantees_settled isFault_fault _).bind fun type found =>
        settles_found indexed acyclic _ calls (lookup_of_findClass found)
  | callStatic className method arguments =>
      exact (guarantees_settled isFault_fault _).bind fun type _ =>
        (guarantees_settled isFault_fault _).bind fun binding _ => calls none binding arguments
  | call target method arguments =>
      exact guarantees_callOn isFault_fault fun _ _ _ _ _ => calls _ _ _

end

/-- Where no class takes an object of itself first, the machine answers every task, and would not
answer otherwise if more objects might be pending inside each other than there are types. -/
theorem ends_without_circles {model : Model} (reached : model.Reached)
    (acyclic : ∀ type, ¬ TransGen (Requires model) type type) (task : Task) (store : Store) :
    ∃ outcome after, IsAnswer outcome ∧ (task.run model).run store = (outcome, after) ∧
      ∀ room, model.size ≤ room → (task.runWithin model room).run store = (outcome, after) := by
  have indexed := (Model.consistent_empty.steps reached).1.indexed
  have settles := settles_run indexed acyclic task
  rcases run : (task.run model).run store with ⟨outcome, after⟩
  have answer : IsAnswer outcome := by
    cases outcome with
    | ok typed => exact .inl ⟨typed, rfl⟩
    | error failure =>
        obtain ⟨-, fault, rfl⟩ := settles.failure trivial run
        exact .inr ⟨fault, rfl⟩
  refine ⟨outcome, after, answer, rfl, fun room enough => runWithin_eq_of_le enough ?_ answer⟩
  rw [Task.runWithin_size, run]

/-- A field that starts with an object of a class. -/
def startingWith (name className : String) : Code.Field :=
  { name := name
    type := .named className
    initializer := some (.new (.named className)) }

/-- A class with a field that starts with an object of another class, and a method that calls
itself. -/
def spinning : List Code.Request :=
  [.topLevel "Wheel" { name := "Wheel" },
    .topLevel "Hub" { name := "Hub" },
    .field 0 (startingWith "hub" "Hub"),
    .method 0 { name := "spin", body := [.evaluate (.call .this "spin" [])] }]

/-- Wheels take a hub first, and nothing takes anything else. -/
theorem requires_spinning {type other : TypeId}
    (requires : Requires (spinning.foldl Model.serve {}) type other) : type = 0 ∧ other = 1 := by
  obtain ⟨⟨declaration, known, -⟩, entry, member, initializer, className, given, made, found⟩ :=
    requires
  have small := Model.get?_eq_some_lt known
  match type, small with
  | 0, _ =>
      obtain rfl := List.mem_singleton.1 member
      obtain rfl := Option.some.inj given
      obtain rfl := TypeRef.named.inj (Expression.new.inj (List.mem_singleton.1 made))
      exact ⟨rfl, (Option.some.inj found).symm⟩
  | 1, _ => cases member

theorem spinning_ends :
    Model.Reached (spinning.foldl Model.serve {}) ∧
      (∀ type, ¬ TransGen (Requires (spinning.foldl Model.serve {})) type type) ∧
      ∃ outcome after, IsAnswer outcome ∧
        (Task.run (spinning.foldl Model.serve {})
          (.call ⟨.object ⟨0, 0⟩, some (.named "Wheel")⟩ "spin" [])).run {} = (outcome, after) ∧
        ∀ room, 2 ≤ room → (Task.runWithin (spinning.foldl Model.serve {}) room
          (.call ⟨.object ⟨0, 0⟩, some (.named "Wheel")⟩ "spin" [])).run {} = (outcome, after) := by
  have reached : Model.Reached (spinning.foldl Model.serve {}) :=
    Model.steps_foldl_serve (by decide)
  have acyclic : ∀ type, ¬ TransGen (Requires (spinning.foldl Model.serve {})) type type := by
    intro type circle
    obtain ⟨next, first, -⟩ := TransGen.head'_iff.1 circle
    obtain ⟨previous, -, last⟩ := TransGen.tail'_iff.1 circle
    have start := (requires_spinning first).1
    have finish := (requires_spinning last).2
    rw [start] at finish
    cases finish
  exact ⟨reached, acyclic, ends_without_circles reached acyclic _ _⟩

/-! ### Objects that take an object of their own class first -/

/-- A class with a field that starts with an object of the class. -/
def circular : List Code.Request :=
  [.topLevel "Node" { name := "Node" }, .field 0 (startingWith "next" "Node")]

/-- A task need not end: an object may take another one of its own class first. -/
theorem not_every_task_ends :
    ¬ ∀ model : Model, model.Reached → ∀ task store, Ends model task store := by
  intro always
  have reached : Model.Reached (circular.foldl Model.serve {}) :=
    Model.steps_foldl_serve (by decide)
  have answer := (ends_iff reached _ _).1 (always _ reached (.instantiate "Node") {})
  have endless : ((Task.run (circular.foldl Model.serve {}) (.instantiate "Node")).run {}).1 =
      .error (.divergence "Node") := by rfl
  rw [endless] at answer
  obtain ⟨typed, same⟩ | ⟨fault, same⟩ := answer
  · cases same
  · cases same

end BuilderSynthesis.Eval
