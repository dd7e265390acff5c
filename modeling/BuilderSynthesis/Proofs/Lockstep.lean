import BuilderSynthesis.Proofs.Guarantee
import Mathlib.Data.List.Forall2

/-!
Contract: what a run of the machine says of another one.

A computation foretells another if the other comes to the same on every store that stands for its
own, unless it goes on without end itself. The machine sees no more of values and stores than
`Likeness` asks of two of them to agree on, so that each of its constructs foretells itself if its
parts do, and the makers of objects and the callers of methods that it falls back on.

Does not own: which values and stores stand for each other.
-/

namespace BuilderSynthesis.Keyed

theorem value?_alike [DecidableEq κ] {alike : α → β → Prop} {entries : List (κ × α)}
    {others : List (κ × β)}
    (same : List.Forall₂ (fun entry other => entry.1 = other.1 ∧ alike entry.2 other.2)
      entries others) (key : κ) :
    Option.Rel alike (value? entries key) (value? others key) := by
  induction same with
  | nil => exact .none
  | cons here _ inductionHypothesis =>
      unfold value?
      rw [here.1]
      split
      · exact .some here.2
      · exact inductionHypothesis

end BuilderSynthesis.Keyed

namespace BuilderSynthesis.Eval

open BuilderSynthesis.Code (Expression Method Model Statement TypeId TypeRef)

/-! ### Computations -/

/-- A computation, as long as it ends, ends as another one does on a like store. -/
def Foretells (stores : Store → Store → Prop) (matching : α → β → Prop) (one : Exec α)
    (two : Exec β) : Prop :=
  ∀ before beforeToo, stores before beforeToo →
    (∀ value after, one.run before = (.ok value, after) →
      ∃ other afterToo, two.run beforeToo = (.ok other, afterToo) ∧ matching value other ∧
        stores after afterToo) ∧
    ∀ fault after, one.run before = (.error (.fault fault), after) →
      ∃ afterToo, two.run beforeToo = (.error (.fault fault), afterToo) ∧ stores after afterToo

section

variable {stores : Store → Store → Prop}

theorem Foretells.mono {matching better : α → β → Prop} {one : Exec α} {two : Exec β}
    (foretells : Foretells stores better one two)
    (enough : ∀ value other, better value other → matching value other) :
    Foretells stores matching one two := by
  intro before beforeToo like
  obtain ⟨values, faults⟩ := foretells before beforeToo like
  refine ⟨fun value after run => ?_, faults⟩
  obtain ⟨other, afterToo, runToo, same, likeToo⟩ := values value after run
  exact ⟨other, afterToo, runToo, enough value other same, likeToo⟩

theorem foretells_pure {matching : α → β → Prop} {value : α} {other : β}
    (same : matching value other) : Foretells stores matching (pure value) (pure other) := by
  intro before beforeToo like
  constructor
  · rintro _ _ ⟨⟩
    exact ⟨other, beforeToo, rfl, same, like⟩
  · rintro _ _ ⟨⟩

theorem foretells_raise (matching : α → β → Prop) (fault : Fault) :
    Foretells stores matching (raise fault) (raise fault) := by
  intro before beforeToo like
  constructor
  · rintro _ _ ⟨⟩
  · rintro _ _ ⟨⟩
    exact ⟨beforeToo, rfl, like⟩

/-- What never ends foretells anything. -/
theorem foretells_of_divergence (matching : α → β → Prop) (type : String) (two : Exec β) :
    Foretells stores matching (throw (.divergence type)) two := by
  intro before beforeToo like
  constructor
  · rintro _ _ ⟨⟩
  · rintro _ _ ⟨⟩

theorem Foretells.bind {middle : α → β → Prop} {matching : γ → δ → Prop} {one : Exec α}
    {two : Exec β} {next : α → Exec γ} {nextToo : β → Exec δ}
    (first : Foretells stores middle one two)
    (second : ∀ value other, middle value other →
      Foretells stores matching (next value) (nextToo other)) :
    Foretells stores matching (one >>= next) (two >>= nextToo) := by
  intro before beforeToo like
  obtain ⟨values, faults⟩ := first before beforeToo like
  simp only [run_bind]
  rcases run : one.run before with ⟨outcome, between⟩
  cases outcome with
  | ok value =>
      obtain ⟨other, betweenToo, runToo, same, likeToo⟩ := values value between run
      rw [runToo]
      exact second value other same between betweenToo likeToo
  | error failure =>
      constructor
      · rintro _ _ ⟨⟩
      · rintro fault _ ⟨⟩
        obtain ⟨betweenToo, runToo, likeToo⟩ := faults fault between run
        exact ⟨betweenToo, by rw [runToo], likeToo⟩

theorem foretells_get : Foretells stores stores (get : Exec Store) get := by
  intro before beforeToo like
  constructor
  · rintro _ _ ⟨⟩
    exact ⟨beforeToo, beforeToo, rfl, like, like⟩
  · rintro _ _ ⟨⟩

theorem foretells_set {store other : Store} (like : stores store other) :
    Foretells stores (fun _ _ => True) (set store : Exec PUnit) (set other : Exec PUnit) := by
  intro before beforeToo _
  constructor
  · rintro _ _ ⟨⟩
    exact ⟨⟨⟩, other, rfl, trivial, like⟩
  · rintro _ _ ⟨⟩

theorem foretells_modify {change changeToo : Store → Store}
    (keeps : ∀ store other, stores store other → stores (change store) (changeToo other)) :
    Foretells stores (fun _ _ => True) (modify change : Exec PUnit)
      (modify changeToo : Exec PUnit) := by
  intro before beforeToo like
  constructor
  · rintro _ _ ⟨⟩
    exact ⟨⟨⟩, changeToo beforeToo, rfl, trivial, keeps before beforeToo like⟩
  · rintro _ _ ⟨⟩

theorem foretells_settled (result : Except Fault α) :
    Foretells stores (fun value other => result = .ok value ∧ other = value) (settled result)
      (settled result) := by
  cases result with
  | ok value => exact foretells_pure ⟨rfl, rfl⟩
  | error fault => exact foretells_raise _ fault

theorem foretells_mapM {matching : β → γ → Prop} {one : α → Exec β} {two : α → Exec γ}
    {list : List α} (each : ∀ item ∈ list, Foretells stores matching (one item) (two item)) :
    Foretells stores (List.Forall₂ matching) (list.mapM one) (list.mapM two) := by
  induction list with
  | nil =>
      rw [List.mapM_nil, List.mapM_nil]
      exact foretells_pure .nil
  | cons item rest inductionHypothesis =>
      rw [List.forall_mem_cons] at each
      rw [List.mapM_cons, List.mapM_cons]
      exact each.1.bind fun _ _ here => (inductionHypothesis each.2).bind fun _ _ there =>
        foretells_pure (.cons here there)

/-- A computation does not go on without end. -/
def Halts (computation : Exec α) (store : Store) : Prop :=
  ∀ type, (computation.run store).1 ≠ .error (.divergence type)

theorem Foretells.halts {matching : α → β → Prop} {one : Exec α} {two : Exec β}
    (foretells : Foretells stores matching one two) {before beforeToo : Store}
    (like : stores before beforeToo) (halts : Halts one before) : Halts two beforeToo := by
  intro type diverges
  obtain ⟨values, faults⟩ := foretells before beforeToo like
  rcases run : one.run before with ⟨outcome, after⟩
  cases outcome with
  | ok value =>
      obtain ⟨other, afterToo, runToo, -⟩ := values value after run
      rw [runToo] at diverges
      cases diverges
  | error failure =>
      cases failure with
      | fault fault =>
          obtain ⟨afterToo, runToo, -⟩ := faults fault after run
          rw [runToo] at diverges
          cases diverges
      | divergence type => exact halts type (congrArg Prod.fst run)

/-- A computation that another one foretells, which halts whenever it does, foretells the other. -/
theorem Foretells.turn {matching : α → β → Prop} {one : Exec α} {two : Exec β}
    (back : Foretells (flip stores) (flip matching) two one)
    (halts : ∀ before beforeToo, stores before beforeToo → Halts one before →
      Halts two beforeToo) : Foretells stores matching one two := by
  intro before beforeToo like
  obtain ⟨values, faults⟩ := back beforeToo before like
  rcases runToo : two.run beforeToo with ⟨outcome, afterToo⟩
  cases outcome with
  | ok other =>
      obtain ⟨value, after, run, same, likeToo⟩ := values other afterToo runToo
      rw [run]
      constructor
      · rintro _ _ ⟨⟩
        exact ⟨other, afterToo, rfl, same, likeToo⟩
      · rintro _ _ ⟨⟩
  | error failure =>
      cases failure with
      | fault fault =>
          obtain ⟨after, run, likeToo⟩ := faults fault afterToo runToo
          rw [run]
          constructor
          · rintro _ _ ⟨⟩
          · rintro _ _ ⟨⟩
            exact ⟨afterToo, rfl, likeToo⟩
      | divergence type =>
          have endless : ¬ Halts one before := fun ends =>
            halts before beforeToo like ends type (congrArg Prod.fst runToo)
          constructor
          · intro value after run
            exact absurd (fun _ impossible => by rw [run] at impossible; cases impossible) endless
          · intro fault after run
            exact absurd (fun _ impossible => by rw [run] at impossible; cases impossible) endless

end

/-! ### Likeness -/

/-- A value is a place of the store. -/
def Value.isPlace : Value → Bool
  | .object _ | .array _ | .list _ _ => true
  | _ => false

/-- Two values differ in no more than the place that they are. -/
inductive SameShape : Value → Value → Prop where
  | plain (value : Value) (placeless : value.isPlace = false) : SameShape value value
  | object (place placeToo : Nat) (type : TypeId) :
      SameShape (.object ⟨place, type⟩) (.object ⟨placeToo, type⟩)
  | array (place placeToo : Nat) : SameShape (.array place) (.array placeToo)
  | list (place placeToo : Nat) (isReadOnly : Bool) :
      SameShape (.list place isReadOnly) (.list placeToo isReadOnly)

theorem defaultValue_isPlace (type : TypeRef) : (defaultValue type).isPlace = false := by
  unfold defaultValue
  split <;> rfl

def SlotAlike (values : Value → Value → Prop) (slot slotToo : Slot × Value) : Prop :=
  slot.1 = slotToo.1 ∧ values slot.2 slotToo.2

/-- Stores and values stand for each other, as far as the machine can tell. -/
structure Likeness (stores : Store → Store → Prop) (values : Value → Value → Prop) : Prop where
  plain : ∀ value : Value, value.isPlace = false → values value value
  shape : ∀ value other, values value other → SameShape value other
  readOnly : ∀ place placeToo isReadOnly, values (.list place isReadOnly)
    (.list placeToo isReadOnly) → values (.list place true) (.list placeToo true)
  slot : ∀ store storeToo object objectToo slot, stores store storeToo →
    values (.object object) (.object objectToo) →
    Option.Rel values (store.slot? object slot) (storeToo.slot? objectToo slot)
  write : ∀ store storeToo object objectToo slot value valueToo, stores store storeToo →
    values (.object object) (.object objectToo) → values value valueToo →
    stores (store.write object slot value) (storeToo.write objectToo slot valueToo)
  newObject : ∀ store storeToo type slots slotsToo, stores store storeToo →
    List.Forall₂ (SlotAlike values) slots slotsToo →
    stores (store.newObject type slots).2 (storeToo.newObject type slotsToo).2 ∧
      values (.object (store.newObject type slots).1) (.object (storeToo.newObject type slotsToo).1)
  newArray : ∀ store storeToo items itemsToo, stores store storeToo →
    List.Forall₂ values items itemsToo →
    stores (store.newArray items).2 (storeToo.newArray itemsToo).2 ∧
      values (store.newArray items).1 (storeToo.newArray itemsToo).1
  newList : ∀ store storeToo items itemsToo, stores store storeToo →
    List.Forall₂ values items itemsToo →
    stores (store.newList items).2 (storeToo.newList itemsToo).2 ∧
      values (store.newList items).1 (storeToo.newList itemsToo).1
  items : ∀ store storeToo place placeToo isReadOnly, stores store storeToo →
    values (.list place isReadOnly) (.list placeToo isReadOnly) →
    List.Forall₂ values (store.listItems place) (storeToo.listItems placeToo)

structure TypedAlike (values : Value → Value → Prop) (one two : Typed) : Prop where
  value : values one.value two.value
  type : one.type = two.type

abbrev ReceiversAlike (values : Value → Value → Prop) : Option Object → Option Object → Prop :=
  Option.Rel fun object other => values (.object object) (.object other)

structure FramesAlike (values : Value → Value → Prop) (one two : Frame) : Prop where
  this : ReceiversAlike values one.this two.this
  owner : one.owner = two.owner
  locals : ∀ name, Option.Rel (TypedAlike values) (one.local? name) (two.local? name)

/-- Calls of one method foretell each other. -/
def InvokersAlike (stores : Store → Store → Prop) (values : Value → Value → Prop)
    (one two : Invoker) : Prop :=
  ∀ this thisToo binding arguments argumentsToo, ReceiversAlike values this thisToo →
    List.Forall₂ (TypedAlike values) arguments argumentsToo →
    Foretells stores (TypedAlike values) (one this binding arguments)
      (two thisToo binding argumentsToo)

/-- The makings of an object of one class foretell each other. -/
def CreatorsAlike (model : Model) (stores : Store → Store → Prop)
    (values : Value → Value → Prop) (one two : Creator) : Prop :=
  ∀ className type, model.lookup className = some type →
    Foretells stores (TypedAlike values) (one type) (two type)

/-- Two machines in two frames go in step. -/
structure Lockstep (model : Model) (stores : Store → Store → Prop)
    (values : Value → Value → Prop) (powers powersToo : Powers) (frame frameToo : Frame) :
    Prop where
  like : Likeness stores values
  invoked : InvokersAlike stores values powers.invoke powersToo.invoke
  created : CreatorsAlike model stores values powers.create powersToo.create
  frames : FramesAlike values frame frameToo

theorem map_type_alike {values : Value → Value → Prop} {arguments argumentsToo : List Typed}
    (same : List.Forall₂ (TypedAlike values) arguments argumentsToo) :
    arguments.map Typed.type = argumentsToo.map Typed.type := by
  induction same with
  | nil => rfl
  | cons here _ inductionHypothesis =>
      rw [List.map_cons, List.map_cons, here.type, inductionHypothesis]

theorem map_value_alike {values : Value → Value → Prop} {arguments argumentsToo : List Typed}
    (same : List.Forall₂ (TypedAlike values) arguments argumentsToo) :
    List.Forall₂ values (arguments.map Typed.value) (argumentsToo.map Typed.value) := by
  rw [List.forall₂_map_left_iff, List.forall₂_map_right_iff]
  exact same.imp fun _ _ here => here.value

/-! ### Expressions -/

section

variable {model : Model} {stores : Store → Store → Prop} {values : Value → Value → Prop}
  (like : Likeness stores values)

include like

theorem Likeness.type {object other : Object} (same : values (.object object) (.object other)) :
    object.type = other.type := by
  cases like.shape _ _ same with
  | plain _ placeless => cases placeless
  | object => rfl

theorem foretells_receiver {one two : Typed} (same : TypedAlike values one two)
    (member : String) :
    Foretells stores (fun found foundToo => values (.object found.1) (.object foundToo.1) ∧
        found.2 = foundToo.2)
      (settled (receiver model one member)) (settled (receiver model two member)) := by
  obtain ⟨value, type⟩ := one
  obtain ⟨valueToo, typeToo⟩ := two
  obtain ⟨alike, rfl⟩ := same
  unfold receiver
  cases like.shape _ _ alike with
  | object place placeToo className => exact foretells_pure ⟨alike, rfl⟩
  | array => exact foretells_raise _ _
  | list => exact foretells_raise _ _
  | plain value placeless =>
      cases value with
      | object => cases placeless
      | array => cases placeless
      | list => cases placeless
      | null => exact foretells_raise _ _
      | _ => exact foretells_raise _ _

theorem foretells_readSlot {object other : Object}
    (same : values (.object object) (.object other)) (owner : TypeId) (name : String) :
    Foretells stores values (readSlot model object owner name)
      (readSlot model other owner name) := by
  unfold readSlot
  refine foretells_get.bind fun store storeToo stored => ?_
  rw [like.type same]
  have read := like.slot store storeToo object other (owner, name) stored same
  generalize store.slot? object (owner, name) = value at read ⊢
  generalize storeToo.slot? other (owner, name) = valueToo at read ⊢
  cases read with
  | none => exact foretells_raise _ _
  | some here => exact foretells_pure here

theorem foretells_readField {one two : Typed} (same : TypedAlike values one two)
    (name : String) :
    Foretells stores (TypedAlike values)
      (do
        let (object, type) ← settled (receiver model one name)
        let owner ← settled (fieldOwner model type name)
        let value ← readSlot model object owner name
        return ⟨value, some (← settled (fieldType model owner name))⟩)
      (do
        let (object, type) ← settled (receiver model two name)
        let owner ← settled (fieldOwner model type name)
        let value ← readSlot model object owner name
        return ⟨value, some (← settled (fieldType model owner name))⟩) := by
  refine (foretells_receiver like same name).bind fun found foundToo both => ?_
  obtain ⟨object, type⟩ := found
  obtain ⟨objectToo, typeToo⟩ := foundToo
  obtain ⟨alike, rfl⟩ := both
  refine (foretells_settled _).bind fun owner ownerToo owned => ?_
  obtain ⟨-, rfl⟩ := owned
  refine (foretells_readSlot like alike ownerToo name).bind fun value valueToo read => ?_
  refine (foretells_settled _).bind fun declared declaredToo known => ?_
  exact foretells_pure ⟨read, congrArg some known.2.symm⟩

theorem foretells_copied {one two : Typed} (same : TypedAlike values one two) :
    Foretells stores (TypedAlike values) (copied one) (copied two) := by
  obtain ⟨value, type⟩ := one
  obtain ⟨valueToo, typeToo⟩ := two
  obtain ⟨alike, rfl⟩ := same
  unfold copied
  cases like.shape _ _ alike with
  | object => exact foretells_raise _ _
  | array => exact foretells_raise _ _
  | list place placeToo isReadOnly =>
      refine foretells_get.bind fun store storeToo stored => ?_
      refine foretells_get.bind fun again againToo storedToo => ?_
      obtain ⟨after, made⟩ := like.newList store storeToo _ _ stored
        (like.items again againToo place placeToo isReadOnly storedToo alike)
      exact (foretells_set after).bind fun _ _ _ => foretells_pure ⟨made, rfl⟩
  | plain value placeless =>
      cases value with
      | object => cases placeless
      | array => cases placeless
      | list => cases placeless
      | null => exact foretells_pure ⟨alike, rfl⟩
      | _ => exact foretells_raise _ _

theorem foretells_frozen {one two : Typed} (same : TypedAlike values one two) :
    Foretells stores (TypedAlike values) (frozen one) (frozen two) := by
  obtain ⟨value, type⟩ := one
  obtain ⟨valueToo, typeToo⟩ := two
  obtain ⟨alike, rfl⟩ := same
  unfold frozen
  cases like.shape _ _ alike with
  | object => exact foretells_raise _ _
  | array => exact foretells_raise _ _
  | list place placeToo isReadOnly =>
      exact foretells_pure ⟨like.readOnly place placeToo isReadOnly alike, rfl⟩
  | plain value placeless =>
      cases value with
      | object => cases placeless
      | array => cases placeless
      | list => cases placeless
      | null => exact foretells_pure ⟨alike, rfl⟩
      | _ => exact foretells_raise _ _

end

/-! ### Calls -/

section

variable {model : Model} {stores : Store → Store → Prop} {values : Value → Value → Prop}
  {invoke invokeToo : Invoker} (invoked : InvokersAlike stores values invoke invokeToo)
  {arguments argumentsToo : List Typed}
  (given : List.Forall₂ (TypedAlike values) arguments argumentsToo)

include invoked given

theorem foretells_callSuper {frame frameToo : Frame} (owner : frame.owner = frameToo.owner)
    {object objectToo : Object} (same : values (.object object) (.object objectToo))
    (name : String) :
    Foretells stores (TypedAlike values) (callSuper model invoke frame object name arguments)
      (callSuper model invokeToo frameToo objectToo name argumentsToo) := by
  unfold callSuper
  rw [map_type_alike given, owner]
  cases model.superclass? frameToo.owner with
  | none => exact foretells_raise _ _
  | some parent =>
      refine (foretells_settled _).bind fun binding bindingToo resolved => ?_
      obtain ⟨-, rfl⟩ := resolved
      exact invoked _ _ _ _ _ (.some same) given

variable (like : Likeness stores values)

include like

theorem foretells_callOn {one two : Typed} (same : TypedAlike values one two) (name : String) :
    Foretells stores (TypedAlike values) (callOn model invoke one name arguments)
      (callOn model invokeToo two name argumentsToo) := by
  unfold callOn
  rw [map_type_alike given]
  refine (foretells_receiver like same name).bind fun found foundToo both => ?_
  obtain ⟨object, type⟩ := found
  obtain ⟨objectToo, typeToo⟩ := foundToo
  obtain ⟨alike, rfl⟩ := both
  refine (foretells_settled _).bind fun binding bindingToo resolved => ?_
  obtain ⟨-, rfl⟩ := resolved
  rw [like.type alike]
  exact invoked _ _ _ _ _ (.some alike) given

theorem foretells_callOwn {frame frameToo : Frame} (frames : FramesAlike values frame frameToo)
    (name : String) :
    Foretells stores (TypedAlike values) (callOwn model invoke frame name arguments)
      (callOwn model invokeToo frameToo name argumentsToo) := by
  obtain ⟨this, owner, locals⟩ := frame
  obtain ⟨thisToo, ownerToo, localsToo⟩ := frameToo
  obtain ⟨here, rfl, -⟩ := frames
  unfold callOwn
  rw [map_type_alike given]
  cases here with
  | none =>
      refine (foretells_settled _).bind fun binding bindingToo resolved => ?_
      obtain ⟨-, rfl⟩ := resolved
      exact invoked _ _ _ _ _ .none given
  | some alike =>
      refine (foretells_settled _).bind fun binding bindingToo resolved => ?_
      obtain ⟨-, rfl⟩ := resolved
      rw [like.type alike]
      exact invoked _ _ _ _ _ (.some alike) given

end

/-! ### Expressions and statements -/

section

variable {model : Model} {stores : Store → Store → Prop} {values : Value → Value → Prop}

theorem foretells_ownObject {frame frameToo : Frame}
    (here : ReceiversAlike values frame.this frameToo.this) :
    Foretells stores (fun object objectToo => values (.object object) (.object objectToo))
      (settled (ownObject frame)) (settled (ownObject frameToo)) := by
  obtain ⟨this, owner, locals⟩ := frame
  obtain ⟨thisToo, ownerToo, localsToo⟩ := frameToo
  cases here with
  | none => exact foretells_raise _ _
  | some alike => exact foretells_pure alike

variable {powers powersToo : Powers} {frame frameToo : Frame}

mutual

theorem foretells_evaluate
    (lockstep : Lockstep model stores values powers powersToo frame frameToo) :
    (expression : Expression) →
    Foretells stores (TypedAlike values) (evaluate model powers frame expression)
      (evaluate model powersToo frameToo expression)
  | .null => foretells_pure ⟨lockstep.like.plain _ rfl, rfl⟩
  | .bool _ => foretells_pure ⟨lockstep.like.plain _ rfl, rfl⟩
  | .int _ => foretells_pure ⟨lockstep.like.plain _ rfl, rfl⟩
  | .string _ => foretells_pure ⟨lockstep.like.plain _ rfl, rfl⟩
  | .ident name => by
      unfold evaluate
      have found := lockstep.frames.locals name
      generalize frame.local? name = typed at found ⊢
      generalize frameToo.local? name = typedToo at found ⊢
      cases found with
      | none => exact foretells_raise _ _
      | some here => exact foretells_pure here
  | .this => by
      unfold evaluate
      refine (foretells_ownObject lockstep.frames.this).bind fun object objectToo alike => ?_
      rw [lockstep.frames.owner]
      exact foretells_pure ⟨alike, rfl⟩
  | .field target name => by
      unfold evaluate
      exact (foretells_evaluate lockstep target).bind fun _ _ same =>
        foretells_readField lockstep.like same name
  | .new type => by
      unfold evaluate
      cases type with
      | named className =>
          refine (foretells_settled _).bind fun id idToo found => ?_
          obtain ⟨found, rfl⟩ := found
          exact lockstep.created className idToo (lookup_of_findClass found)
      | _ => exact foretells_raise _ _
  | .call target method arguments => by
      rcases eq_or_ne target .this with rfl | written
      · unfold evaluate
        exact (foretells_evaluateAll lockstep arguments).bind fun _ _ given =>
          foretells_callOwn lockstep.invoked given lockstep.like lockstep.frames method
      · rw [evaluate_call written, evaluate_call written]
        exact (foretells_evaluateAll lockstep arguments).bind fun _ _ given =>
          (foretells_evaluate lockstep target).bind fun _ _ same =>
            foretells_callOn lockstep.invoked given lockstep.like same method
  | .superCall method arguments => by
      unfold evaluate
      exact (foretells_ownObject lockstep.frames.this).bind fun _ _ alike =>
        (foretells_evaluateAll lockstep arguments).bind fun _ _ given =>
          foretells_callSuper lockstep.invoked given lockstep.frames.owner alike method
  | .copyList list => by
      unfold evaluate
      exact (foretells_evaluate lockstep list).bind fun _ _ same =>
        foretells_copied lockstep.like same
  | .readOnlyList list => by
      unfold evaluate
      exact (foretells_evaluate lockstep list).bind fun _ _ same =>
        foretells_frozen lockstep.like same

theorem foretells_evaluateAll
    (lockstep : Lockstep model stores values powers powersToo frame frameToo) :
    (expressions : List Expression) →
    Foretells stores (List.Forall₂ (TypedAlike values)) (evaluateAll model powers frame expressions)
      (evaluateAll model powersToo frameToo expressions)
  | [] => foretells_pure .nil
  | first :: rest => by
      unfold evaluateAll
      exact (foretells_evaluate lockstep first).bind fun _ _ here =>
        (foretells_evaluateAll lockstep rest).bind fun _ _ there =>
          foretells_pure (.cons here there)

end

variable (lockstep : Lockstep model stores values powers powersToo frame frameToo)

include lockstep

theorem foretells_assign (target : Expression) {value valueToo : Typed}
    (same : TypedAlike values value valueToo) :
    Foretells stores (fun _ _ => True) (assign model powers frame target value)
      (assign model powersToo frameToo target valueToo) := by
  unfold assign
  cases target with
  | field target name =>
      refine (foretells_evaluate lockstep target).bind fun one two there => ?_
      refine (foretells_receiver lockstep.like there name).bind fun found foundToo both => ?_
      obtain ⟨object, type⟩ := found
      obtain ⟨objectToo, typeToo⟩ := foundToo
      obtain ⟨alike, rfl⟩ := both
      refine (foretells_settled _).bind fun owner ownerToo owned => ?_
      obtain ⟨-, rfl⟩ := owned
      refine (foretells_settled _).bind fun declared declaredToo known => ?_
      obtain ⟨-, rfl⟩ := known
      rw [same.type]
      split
      · exact foretells_modify fun store storeToo stored =>
          lockstep.like.write store storeToo object objectToo _ _ _ stored alike same.value
      · exact foretells_raise _ _
  | _ => exact foretells_raise _ _

theorem foretells_execute (body : List Statement) :
    Foretells stores (Option.Rel (TypedAlike values)) (execute model powers frame body)
      (execute model powersToo frameToo body) := by
  have evaluated := foretells_evaluate lockstep
  induction body with
  | nil => exact foretells_pure .none
  | cons statement rest inductionHypothesis =>
      cases statement with
      | assign target value =>
          unfold execute
          exact (evaluated value).bind fun _ _ same =>
            (foretells_assign lockstep target same).bind fun _ _ _ =>
              inductionHypothesis
      | evaluate value =>
          unfold execute
          exact (evaluated value).bind fun _ _ _ => inductionHypothesis
      | «return» value =>
          cases value with
          | none => exact foretells_pure .none
          | some value =>
              unfold execute
              exact (evaluated value).bind fun _ _ same => foretells_pure (.some same)

end

/-! ### Methods and objects -/

section

variable {model : Model} {stores : Store → Store → Prop} {values : Value → Value → Prop}
  (like : Likeness stores values)

theorem zip_alike {arguments argumentsToo : List Typed}
    (given : List.Forall₂ (TypedAlike values) arguments argumentsToo)
    (parameters : List Code.Parameter) :
    List.Forall₂ (fun entry other => entry.1 = other.1 ∧ TypedAlike values entry.2 other.2)
      (parameters.zip arguments) (parameters.zip argumentsToo) := by
  induction given generalizing parameters with
  | nil =>
      rw [List.zip_nil_right]
      exact .nil
  | cons here _ inductionHypothesis =>
      cases parameters with
      | nil => exact .nil
      | cons parameter rest => exact .cons ⟨rfl, here⟩ (inductionHypothesis rest)

theorem frameOf_alike {this thisToo : Option Object} (here : ReceiversAlike values this thisToo)
    (binding : Binding) {arguments argumentsToo : List Typed}
    (given : List.Forall₂ (TypedAlike values) arguments argumentsToo) :
    FramesAlike values (frameOf this binding arguments) (frameOf thisToo binding argumentsToo) where
  this := here
  owner := rfl
  locals := by
    refine Keyed.value?_alike (List.rel_reverse ?_)
    rw [List.forall₂_map_left_iff, List.forall₂_map_right_iff]
    refine (zip_alike given _).imp fun entry other same => ?_
    rw [same.1]
    exact ⟨rfl, same.2.value, rfl⟩

include like

theorem foretells_packed (binding : Binding) {arguments argumentsToo : List Typed}
    (given : List.Forall₂ (TypedAlike values) arguments argumentsToo) :
    Foretells stores (List.Forall₂ (TypedAlike values)) (packed binding arguments)
      (packed binding argumentsToo) := by
  unfold packed
  cases binding.isPacked with
  | false => exact foretells_pure given
  | true =>
      cases binding.method.parameters.getLast? with
      | none => exact foretells_pure given
      | some parameter =>
          refine foretells_get.bind fun store storeToo stored => ?_
          obtain ⟨after, made⟩ := like.newArray store storeToo _ _ stored
            (map_value_alike (List.forall₂_drop (binding.method.parameters.length - 1) given))
          refine (foretells_set after).bind fun _ _ _ => foretells_pure ?_
          exact List.rel_append (List.forall₂_take _ given) (.cons ⟨made, rfl⟩ .nil)

theorem foretells_runMethod {powers powersToo : Powers}
    (invoked : InvokersAlike stores values powers.invoke powersToo.invoke)
    (created : CreatorsAlike model stores values powers.create powersToo.create) :
    InvokersAlike stores values (runMethod model powers) (runMethod model powersToo) := by
  intro this thisToo binding arguments argumentsToo here given
  unfold runMethod
  refine (foretells_packed like binding given).bind fun gathered gatheredToo same => ?_
  have lockstep : Lockstep model stores values powers powersToo _ _ :=
    ⟨like, invoked, created, frameOf_alike here binding same⟩
  refine (foretells_execute lockstep binding.method.body).bind fun returned returnedToo back => ?_
  cases returns : binding.method.returns with
  | none => exact foretells_pure ⟨like.plain _ rfl, rfl⟩
  | some declared =>
      cases back with
      | none => exact foretells_raise _ _
      | some result =>
          dsimp only
          rw [result.type]
          split
          · refine foretells_pure ⟨result.value, congrArg some ?_⟩
            exact resultType_congr binding.method (map_type_alike same) declared
          · exact foretells_raise _ _

theorem foretells_newInstance {powers powersToo : Powers}
    (invoked : InvokersAlike stores values powers.invoke powersToo.invoke)
    (created : CreatorsAlike model stores values powers.create powersToo.create) (type : TypeId) :
    Foretells stores (TypedAlike values) (newInstance model powers type)
      (newInstance model powersToo type) := by
  have lockstep : Lockstep model stores values powers powersToo ⟨none, type, []⟩
      ⟨none, type, []⟩ := ⟨like, invoked, created, .none, rfl, fun _ => .none⟩
  unfold newInstance
  cases model.get? type with
  | none => exact foretells_raise _ _
  | some declaration =>
      dsimp only
      split
      · exact foretells_raise _ _
      · have slots : ∀ entry ∈ instanceFields model type, Foretells stores (SlotAlike values)
            (do return ((entry.1, entry.2.name),
              ← initialValue model powers ⟨none, type, []⟩ entry.2))
            (do return ((entry.1, entry.2.name),
              ← initialValue model powersToo ⟨none, type, []⟩ entry.2)) := by
          intro entry _
          unfold initialValue
          cases entry.2.initializer with
          | none => exact foretells_pure ⟨rfl, like.plain _ (defaultValue_isPlace _)⟩
          | some initializer =>
              refine Foretells.bind ?_ fun value valueToo same => foretells_pure ⟨rfl, same⟩
              exact (foretells_evaluate lockstep initializer).bind fun _ _ same =>
                foretells_pure same.value
        refine (foretells_mapM slots).bind fun made madeToo same => ?_
        refine foretells_get.bind fun store storeToo stored => ?_
        obtain ⟨after, object⟩ := like.newObject store storeToo type made madeToo stored same
        exact (foretells_set after).bind fun _ _ _ => foretells_pure ⟨object, rfl⟩

end

end BuilderSynthesis.Eval
