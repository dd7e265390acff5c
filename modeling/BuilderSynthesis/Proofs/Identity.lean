import BuilderSynthesis.Proofs.Declaration
import BuilderSynthesis.Proofs.Naming
import BuilderSynthesis.Proofs.Outcome
import Mathlib.Data.List.Induction
import Mathlib.Logic.Relation

/-!
Contract: which type a qualified name stands for while more is declared.

A program asks for declarations in any order, and a refused request leaves the model as it was.
Names never change. A class is refused under a name that is taken, but a nested type only under a
simple name that its outer type uses: so a nested type can take over the name of an earlier type,
and nothing else can.

Owns: `Reached`, the models that requests lead to.
-/

namespace BuilderSynthesis.Code

/-- A request to declare something. -/
inductive Request where
  | topLevel (qualifiedName : String) (header : Header)
  | nested (outer : TypeId) (header : Header)
  | field (owner : TypeId) (field : Field)
  | method (owner : TypeId) (method : Method)
  | superclass (id superclass : TypeId)

/-- The types that a request mentions are those of a model. -/
def Request.Within (model : Model) : Request → Prop
  | .topLevel _ _ => True
  | .nested outer _ => outer < model.size
  | .field owner _ | .method owner _ => owner < model.size
  | .superclass id above => id < model.size ∧ above < model.size

instance (model : Model) : (request : Request) → Decidable (request.Within model)
  | .topLevel _ _ => inferInstanceAs (Decidable True)
  | .nested outer _ => inferInstanceAs (Decidable (outer < model.size))
  | .field owner _ | .method owner _ => inferInstanceAs (Decidable (owner < model.size))
  | .superclass id above =>
      inferInstanceAs (Decidable (id < model.size ∧ above < model.size))

namespace Model

def answer (model : Model) : Request → Except Conflict Model
  | .topLevel qualifiedName header => do
      let declared ← model.declareClass qualifiedName header
      return declared.2
  | .nested outer header => do
      let declared ← model.declareNested outer header
      return declared.2
  | .field owner field => model.declareField owner field
  | .method owner method => model.declareMethod owner method
  | .superclass id above => .ok (model.setSuperclass id above)

def serve (model : Model) (request : Request) : Model :=
  match model.answer request with
  | .ok after => after
  | .error _ => model

/-- One request about types of the model. -/
def Step (model after : Model) : Prop :=
  ∃ request : Request, request.Within model ∧ after = model.serve request

def Steps : Model → Model → Prop :=
  Relation.ReflTransGen Step

/-- What requests lead to from nothing. -/
def Reached : Model → Prop :=
  Steps {}

/-- Requests of which each is about types that are declared by then. -/
def WithinAll (model : Model) : List Request → Prop
  | [] => True
  | request :: rest => request.Within model ∧ (model.serve request).WithinAll rest

instance decidableWithinAll (model : Model) :
    (requests : List Request) → Decidable (model.WithinAll requests)
  | [] => inferInstanceAs (Decidable True)
  | request :: rest =>
      have := decidableWithinAll (model.serve request) rest
      inferInstanceAs (Decidable (request.Within model ∧ (model.serve request).WithinAll rest))

theorem steps_foldl_serve {model : Model} {requests : List Request}
    (within : model.WithinAll requests) : model.Steps (requests.foldl serve model) := by
  induction requests generalizing model with
  | nil => exact .refl
  | cons request rest inductionHypothesis =>
      exact .head ⟨request, within.1, rfl⟩ (inductionHypothesis within.2)

/-- The name of an earlier type is taken by nested types only. -/
structure Consistent (model : Model) : Prop where
  indexed : model.Indexed
  isNested : ∀ {id later : Nat} {declaration : Declaration}, id < later →
    model.get? later = some declaration →
    model.names[id]? = some declaration.qualifiedName → declaration.outer.isSome

variable {model before after : Model}

/-- Of the types with a name the last is found. -/
theorem lookup_eq_some_iff_last (indexed : model.Indexed) {name : String} {id : Nat} :
    model.lookup name = some id ↔
      model.names[id]? = some name ∧ ∀ later, id < later → model.names[later]? ≠ some name := by
  unfold lookup
  rw [indexed]
  generalize model.names = names
  induction names using List.reverseRecOn with
  | nil => simp [Keyed.value?]
  | append_singleton names last inductionHypothesis =>
      rw [List.zipIdx_append, List.reverse_append]
      simp only [List.zipIdx_singleton, List.reverse_singleton, List.singleton_append,
        Keyed.value?, Nat.zero_add]
      by_cases same : last = name
      · subst same
        rw [if_pos rfl, Option.some.injEq]
        constructor
        · rintro rfl
          refine ⟨by simp, fun later above => ?_⟩
          rw [List.getElem?_eq_none (by simpa using Nat.succ_le_of_lt above)]
          simp
        · rintro ⟨here, latest⟩
          have within := (List.getElem?_eq_some_iff.1 here).1
          rw [List.length_append, List.length_singleton] at within
          by_contra other
          exact latest names.length
            (Nat.lt_of_le_of_ne (Nat.le_of_lt_succ within) (Ne.symm other)) (by simp)
      · rw [if_neg same, inductionHypothesis]
        have apart : ∀ position : Nat, (names ++ [last])[position]? = some name ↔
            names[position]? = some name := by
          intro position
          rcases Nat.lt_trichotomy position names.length with inside | rfl | outside
          · rw [List.getElem?_append_left inside]
          · simp [same]
          · rw [List.getElem?_eq_none (by simpa using Nat.succ_le_of_lt outside),
              List.getElem?_eq_none (Nat.le_of_lt outside)]
        simp only [ne_eq, apart]

theorem answer_topLevel_eq_ok_iff {qualifiedName : String} {header : Header} :
    model.answer (.topLevel qualifiedName header) = .ok after ↔
      ∃ id, model.declareClass qualifiedName header = .ok (id, after) :=
  Outcome.bind_snd_eq_ok_iff

theorem answer_nested_eq_ok_iff {outer : TypeId} {header : Header} :
    model.answer (.nested outer header) = .ok after ↔
      ∃ id, model.declareNested outer header = .ok (id, after) :=
  Outcome.bind_snd_eq_ok_iff

/-- A granted request changes one type except for its name and outer type, and before that it may
add a type: a nested one, or one whose name is new. -/
theorem granted_cases {request : Request} (granted : model.answer request = .ok after) :
    ∃ id change, (∀ declaration : Declaration,
        (change declaration).qualifiedName = declaration.qualifiedName ∧
        (change declaration).outer = declaration.outer) ∧
      (after = model.update id change ∨
        ∃ declaration, (declaration.outer.isSome ∨ model.lookup declaration.qualifiedName = none) ∧
          after = (model.insert declaration).update id change) := by
  cases request with
  | topLevel qualifiedName header =>
      obtain ⟨id, declared⟩ := answer_topLevel_eq_ok_iff.1 granted
      obtain ⟨new, -, rfl⟩ := declareClass_eq_ok_iff.1 declared
      exact ⟨0, fun declaration => declaration, fun _ => ⟨rfl, rfl⟩,
        .inr ⟨_, .inr new, (update_self _ 0).symm⟩⟩
  | nested outer header =>
      obtain ⟨id, declared⟩ := answer_nested_eq_ok_iff.1 granted
      obtain ⟨parent, -, -, -, rfl⟩ := declareNested_eq_ok_iff.1 declared
      exact ⟨outer, (Declaration.addNested · header.name model.size), fun _ => ⟨rfl, rfl⟩,
        .inr ⟨_, .inl rfl, rfl⟩⟩
  | field owner field =>
      obtain ⟨declaration, -, -, rfl⟩ := declareField_eq_ok_iff.1 granted
      exact ⟨owner, (Declaration.addField · field), fun _ => ⟨rfl, rfl⟩, .inl rfl⟩
  | method owner method =>
      obtain ⟨declaration, -, -, rfl⟩ := declareMethod_eq_ok_iff.1 granted
      exact ⟨owner, (Declaration.addMethod · method), fun _ => ⟨rfl, rfl⟩, .inl rfl⟩
  | superclass id above =>
      cases granted
      exact ⟨id, fun declaration => { declaration with superclass := some above },
        fun _ => ⟨rfl, rfl⟩, .inl rfl⟩

theorem consistent_empty : Consistent {} :=
  ⟨indexed_empty, fun _ found => by cases found⟩

theorem Consistent.insert (consistent : model.Consistent) {declaration : Declaration}
    (new : declaration.outer.isSome ∨ model.lookup declaration.qualifiedName = none) :
    (model.insert declaration).Consistent where
  indexed := indexed_insert consistent.indexed declaration
  isNested := by
    intro id later other above found same
    have within : later < model.size + 1 := by
      simpa only [size_insert] using get?_eq_some_lt found
    rw [names_insert, List.getElem?_append_left (by rw [length_names]; omega)] at same
    rcases get?_insert_cases found with old | ⟨-, rfl⟩
    · exact consistent.isNested above old same
    · -- The new type is the later one, so its name is not new.
      refine new.resolve_right fun absent => ?_
      have present := (lookup_isSome_iff consistent.indexed _).2 (List.mem_of_getElem? same)
      rw [absent] at present
      cases present

theorem Consistent.update (consistent : model.Consistent) (id : TypeId)
    {change : Declaration → Declaration}
    (keeps : ∀ declaration, (change declaration).qualifiedName = declaration.qualifiedName ∧
      (change declaration).outer = declaration.outer) :
    (model.update id change).Consistent where
  indexed := indexed_update consistent.indexed id fun declaration => (keeps declaration).1
  isNested := by
    intro earlier later declaration above found same
    rw [names_update model id fun declaration => (keeps declaration).1] at same
    rcases get?_update_cases found with ⟨rfl, old, known, rfl⟩ | ⟨-, known⟩
    · rw [(keeps old).1] at same
      rw [(keeps old).2]
      exact consistent.isNested above known same
    · exact consistent.isNested above known same

/-- A request keeps the names of types, and only nested types take over a name. -/
theorem Consistent.step (consistent : before.Consistent) (step : before.Step after) :
    after.Consistent ∧ before.names <+: after.names := by
  obtain ⟨request, -, rfl⟩ := step
  unfold serve
  cases answered : before.answer request with
  | error conflict => exact ⟨consistent, List.prefix_rfl⟩
  | ok after =>
      obtain ⟨id, change, keeps, rfl | ⟨declaration, new, rfl⟩⟩ := granted_cases answered
      · refine ⟨consistent.update id keeps, ?_⟩
        have same := names_update before id fun declaration => (keeps declaration).1
        exact same ▸ List.prefix_rfl
      · refine ⟨(consistent.insert new).update id keeps, ?_⟩
        rw [names_update _ id fun declaration => (keeps declaration).1, names_insert]
        exact List.prefix_append _ _

theorem Consistent.steps (consistent : before.Consistent) (steps : before.Steps after) :
    after.Consistent ∧ before.names <+: after.names := by
  induction steps with
  | refl => exact ⟨consistent, List.prefix_rfl⟩
  | tail _ step inductionHypothesis =>
      obtain ⟨kept, longer⟩ := inductionHypothesis.1.step step
      exact ⟨kept, inductionHypothesis.2.trans longer⟩

/-- A type keeps its name for ever. The name finds it as long as no later type has the name, and
else the last of these; and all of these are nested types. -/
theorem found_until_nested (reached : before.Reached) (steps : before.Steps after) {id : TypeId}
    (known : id < before.size) :
    after.qualifiedName id = before.qualifiedName id ∧
    (after.lookup (before.qualifiedName id) = some id ↔
      ∀ later, id < later → later < after.size →
        after.qualifiedName later ≠ before.qualifiedName id) ∧
    (∀ later declaration, id < later → after.get? later = some declaration →
      declaration.qualifiedName = before.qualifiedName id → declaration.outer.isSome) ∧
    ∃ last, id ≤ last ∧ last < after.size ∧
      after.lookup (before.qualifiedName id) = some last ∧
      after.qualifiedName last = before.qualifiedName id := by
  obtain ⟨consistent, longer⟩ := (consistent_empty.steps reached).1.steps steps
  have named : ∀ {position : TypeId}, position < after.size →
      after.names[position]? = some (after.qualifiedName position) := by
    intro position inside
    rw [qualifiedName_eq, List.getElem?_eq_getElem (by rwa [length_names])]
    rfl
  have here : after.names[id]? = some (before.qualifiedName id) := by
    obtain ⟨rest, same⟩ := longer
    rw [← same, List.getElem?_append_left (by rwa [length_names]), qualifiedName_eq,
      List.getElem?_eq_getElem (by rwa [length_names])]
    rfl
  refine ⟨by rw [qualifiedName_eq, here]; rfl, ?_, ?_, ?_⟩
  · rw [lookup_eq_some_iff_last consistent.indexed]
    constructor
    · rintro ⟨-, latest⟩ later above inside same
      exact latest later above (by rw [named inside, same])
    · refine fun apart => ⟨here, fun later above same => ?_⟩
      have inside := (List.getElem?_eq_some_iff.1 same).1
      rw [length_names] at inside
      rw [named inside, Option.some.injEq] at same
      exact apart later above inside same
  · exact fun later declaration above found same =>
      consistent.isNested above found (by rw [here, same])
  · obtain ⟨last, found⟩ := Option.isSome_iff_exists.1
      ((lookup_isSome_iff consistent.indexed _).2 (List.mem_of_getElem? here))
    obtain ⟨named', latest⟩ := (lookup_eq_some_iff_last consistent.indexed).1 found
    have inside := (List.getElem?_eq_some_iff.1 named').1
    rw [length_names] at inside
    refine ⟨last, ?_, inside, found, ?_⟩
    · exact Nat.le_of_not_lt fun below => latest id below here
    · rw [named inside, Option.some.injEq] at named'
      exact named'

/-- Declares a class, then one whose name it goes on from, and in that a type of its simple
name. -/
def retaking : List Request :=
  [.topLevel "A.B" { name := "B" }, .topLevel "A" { name := "A" }, .nested 1 { name := "B" }]

theorem reached_retaking : Reached (retaking.take 1 |>.foldl serve {}) :=
  .single ⟨.topLevel "A.B" { name := "B" }, trivial, rfl⟩

theorem steps_retaking : Steps (retaking.take 1 |>.foldl serve {}) (retaking.foldl serve {}) :=
  .head ⟨.topLevel "A" { name := "A" }, trivial, rfl⟩
    (.single ⟨.nested 1 { name := "B" }, by decide, rfl⟩)

theorem found_until_retaken :
    Reached (retaking.take 1 |>.foldl serve {}) ∧
      Steps (retaking.take 1 |>.foldl serve {}) (retaking.foldl serve {}) ∧
      (retaking.foldl serve {}).qualifiedName 0 = "A.B" ∧
      (retaking.foldl serve {}).lookup "A.B" ≠ some 0 := by
  have settled := found_until_nested reached_retaking steps_retaking
    (show (0 : TypeId) < size _ by decide)
  refine ⟨reached_retaking, steps_retaking, settled.1, fun found => ?_⟩
  exact settled.2.1.1 found 2 (by decide) (by decide) (by decide)

/-- A nested type can take over the name of a class. -/
theorem not_every_name_finds_its_type :
    ¬ ∀ model : Model, model.Reached → ∀ id < model.size,
      model.lookup (model.qualifiedName id) = some id := by
  intro always
  have found := always _ (reached_retaking.trans steps_retaking) 0 (by decide)
  have taken : (retaking.foldl serve {}).lookup "A.B" = some 2 := by decide
  have named : (retaking.foldl serve {}).qualifiedName 0 = "A.B" := rfl
  rw [named, taken] at found
  cases found

end Model

end BuilderSynthesis.Code
