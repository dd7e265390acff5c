import BuilderSynthesis.Proofs.Creation
import BuilderSynthesis.Proofs.Storing

/-!
Contract: what a call of a setter does.

A setter writes one slot of the builder that it is called on and returns that builder, as
the builder type of its own class whatever it was seen as. What it writes is the argument, a
new array of the arguments, or under the defensive policy a copy of a list; a value that is
no list is refused there before anything is written.

Owns: `setting`, what is written, `yields_setter` and `faults_setter`.
-/

namespace BuilderSynthesis.Run.Synthesis

open Builder (Handling Property setterName)
open Code (Expression Model TypeId TypeRef)
open Eval (Binding Faults Object Store Typed Value Yields accepts acceptsAll)
open Schema (ClassId Field Policy)

def whole? (synthesis : Synthesis) (field : Field) : List Typed → Option Typed
  | [argument] =>
      if accepts synthesis.model (.ofField field.element field.cardinality) argument.type then
        some argument
      else none
  | _ => none

/-- What a call of the setter of a property stores, unless it is refused. -/
def setting (synthesis : Synthesis) (field : Field) (arguments : List Typed) (store : Store) :
    Option (Value × Store) :=
  match whole? synthesis field arguments with
  | some argument => intake synthesis.config.policy field argument.value store
  | none =>
      if field.cardinality = .array ∧ ∀ argument ∈ arguments,
          accepts synthesis.model (.ofElement field.element) argument.type = true then
        some (store.newArray (arguments.map Typed.value))
      else none

variable {synthesis : Synthesis}

/-! ### A setter that runs -/

section Body

variable {id holder : ClassId} {field : Field}

theorem setterIn_eq_annotated : ∃ annotations, synthesis.setterIn id holder field =
    Builder.annotatedSetter synthesis.config.policy (.named (synthesis.builderName id)) field
      annotations := by
  unfold setterIn
  by_cases own : id = holder
  · exact ⟨[], if_pos own⟩
  · exact ⟨["Override"], if_neg own⟩

theorem faults_setterIn (object : Object) {argument : Typed} {store : Store}
    (refused : intake synthesis.config.policy field argument.value store = none) (depth : Nat) :
    Faults (Eval.invoke synthesis.model (depth + 1) (some object)
        ⟨synthesis.builder id, synthesis.setterIn id holder field, false⟩ [argument]) store := by
  obtain ⟨annotations, annotated⟩ := @setterIn_eq_annotated synthesis id holder field
  rw [annotated]
  exact Builder.faults_storing refused

/-- The arguments of a property that is an array are gathered. -/
theorem yields_packed_setterIn (isArray : field.cardinality = .array) (arguments : List Typed)
    (store : Store) :
    Yields (Eval.packed ⟨synthesis.builder id, synthesis.setterIn id holder field, true⟩
        arguments) store
      [⟨(store.newArray (arguments.map Typed.value)).1,
        some (.ofField field.element field.cardinality)⟩]
      (store.newArray (arguments.map Typed.value)).2 := by
  obtain ⟨name, element, cardinality, isStatic, doc⟩ := field
  subst isArray
  unfold setterIn
  by_cases own : id = holder <;> cases element <;> simp only [own, if_true, if_false] <;> rfl

end Body

section Running

variable {id holder : ClassId} (bearing : synthesis.bears id = true)
  (above : holder ∈ synthesis.chain id) {field : Field}
  (declares : synthesis.Declares holder field)

include bearing above declares

/-- A setter stores what it takes and returns the object that it runs on. -/
theorem yields_setterIn (object : Object) {isPacked : Bool} {given : List Typed}
    {argument : Typed} {store middle after : Store} {value : Value}
    (gathered : Yields (Eval.packed
        ⟨synthesis.builder id, synthesis.setterIn id holder field, isPacked⟩ given) store
      [argument] middle)
    (taken : intake synthesis.config.policy field argument.value middle = some (value, after))
    (depth : Nat) :
    Yields (Eval.invoke synthesis.model (depth + 1) (some object)
        ⟨synthesis.builder id, synthesis.setterIn id holder field, isPacked⟩ given) store
      ⟨.object object, some (.named (synthesis.builderName id))⟩
      (after.write object (synthesis.builder holder, field.name) value) := by
  obtain ⟨annotations, annotated⟩ := @setterIn_eq_annotated synthesis id holder field
  rw [annotated] at gathered ⊢
  exact Builder.yields_storing (typeRef_builder bearing) (lookup_builder bearing)
    (fieldOwner_builder bearing above declares)
    (fieldType_builder (bears_of_mem_chain bearing above) declares) gathered taken

end Running

/-! ### Calls of setters -/

theorem whole?_eq_some_iff {field : Field} {arguments : List Typed} {argument : Typed} :
    whole? synthesis field arguments = some argument ↔ arguments = [argument] ∧
      accepts synthesis.model (.ofField field.element field.cardinality) argument.type = true := by
  unfold whole?
  split
  · rename_i given
    rw [Option.ite_none_right_eq_some, Option.some.injEq, List.cons.injEq]
    constructor
    · rintro ⟨fits, rfl⟩
      exact ⟨⟨rfl, rfl⟩, fits⟩
    · rintro ⟨⟨rfl, -⟩, fits⟩
      exact ⟨fits, rfl⟩
  · rename_i several
    constructor
    · intro impossible
      cases impossible
    · rintro ⟨rfl, -⟩
      exact absurd rfl (several argument)

theorem acceptsAll_of_whole?_eq_none {field : Field} {arguments : List Typed}
    (absent : whole? synthesis field arguments = none) :
    acceptsAll synthesis.model [.ofField field.element field.cardinality]
      (arguments.map Typed.type) = false := by
  rw [← Bool.not_eq_true]
  intro holds
  obtain ⟨type, same, fits⟩ := (Eval.acceptsAll_single _ _).1 holds
  obtain ⟨argument, rfl, rfl⟩ := List.map_eq_singleton_iff.1 same
  rw [whole?_eq_some_iff.2 ⟨rfl, fits⟩] at absent
  cases absent

section Call

variable {id view holder : ClassId} (bearing : synthesis.bears id = true)
  (member : view ∈ synthesis.chain id) (above : holder ∈ synthesis.chain view) {field : Field}
  (declares : synthesis.Declares holder field) {object : Object}
  (own : object.type = synthesis.builder id)

include bearing member above declares own

/-- A call of a setter that is not refused writes one slot and returns the builder. -/
theorem yields_setter {arguments : List Typed} {store after : Store} {value : Value}
    (taken : setting synthesis field arguments store = some (value, after)) :
    Yields (Eval.call synthesis.model ⟨.object object, some (.named (synthesis.builderName view))⟩
        (setterName field.name) arguments) store
      ⟨.object object, some (.named (synthesis.builderName id))⟩
      (after.write object (synthesis.builder holder, field.name) value) := by
  have viewed := bears_of_mem_chain bearing member
  have there := chain_subset bearing member above
  have received := Eval.receiver_object (lookup_builder viewed) object (setterName field.name)
  unfold Eval.call Eval.callOn
  apply (Eval.yields_settled received store).bind
  unfold setting at taken
  cases whole : whole? synthesis field arguments with
  | some argument =>
      rw [whole] at taken
      obtain ⟨rfl, fits⟩ := whole?_eq_some_iff.1 whole
      have resolved := resolve_setter_plain above declares viewed fits
      apply (Eval.yields_settled resolved store).bind
      rw [own, dispatch_setter above declares bearing member]
      exact yields_setterIn bearing there declares object
        (Eval.yields_packed_plain rfl [argument] store) taken 255
  | none =>
      rw [whole] at taken
      obtain ⟨⟨isArray, fit⟩, gathered⟩ := Option.ite_none_right_eq_some.1 taken
      have packed := (@appliesPacked_setter synthesis view holder field
        (arguments.map Typed.type)).2 ⟨isArray, List.forall_mem_map.2 fit⟩
      have resolved := resolve_setter_packed above declares viewed
        (acceptsAll_of_whole?_eq_none whole) packed
      apply (Eval.yields_settled resolved store).bind
      rw [own, dispatch_setter above declares bearing member]
      apply yields_setterIn bearing there declares object
        (yields_packed_setterIn isArray arguments store)
      unfold intake
      rw [if_neg (fun copies => by rw [isArray] at copies; cases copies.2), ← gathered]

/-- A call of a setter that is refused changes nothing. -/
theorem faults_setter {arguments : List Typed} {store : Store}
    (refused : setting synthesis field arguments store = none) :
    Faults (Eval.call synthesis.model ⟨.object object, some (.named (synthesis.builderName view))⟩
        (setterName field.name) arguments) store := by
  have viewed := bears_of_mem_chain bearing member
  have received := Eval.receiver_object (lookup_builder viewed) object (setterName field.name)
  unfold Eval.call Eval.callOn
  apply (Eval.yields_settled received store).bind_faults
  unfold setting at refused
  cases whole : whole? synthesis field arguments with
  | some argument =>
      rw [whole] at refused
      obtain ⟨rfl, fits⟩ := whole?_eq_some_iff.1 whole
      have resolved := resolve_setter_plain above declares viewed fits
      apply (Eval.yields_settled resolved store).bind_faults
      rw [own, dispatch_setter above declares bearing member]
      exact faults_setterIn object refused 255
  | none =>
      rw [whole] at refused
      have unpacked : Eval.appliesPacked synthesis.model (arguments.map Typed.type)
          (synthesis.setterIn view holder field) = false := by
        rw [← Bool.not_eq_true]
        intro packed
        obtain ⟨isArray, fit⟩ := (appliesPacked_setter _).1 packed
        have gathers : field.cardinality = .array ∧ ∀ argument ∈ arguments,
            accepts synthesis.model (.ofElement field.element) argument.type = true :=
          ⟨isArray, List.forall_mem_map.1 fit⟩
        have impossible := refused.symm.trans (if_pos gathers)
        cases impossible
      obtain ⟨fault, resolved⟩ := resolve_setter_none above declares viewed
        (acceptsAll_of_whole?_eq_none whole) unpacked
      exact (Eval.faults_settled resolved store).bind _

end Call

/-- A call of a setter of no property changes nothing. -/
theorem faults_setter_unknown {view : ClassId} (bearing : synthesis.bears view = true)
    {name : String}
    (unknown : ∀ entry ∈ synthesis.properties view, setterName entry.2.name ≠ setterName name)
    (object : Object) (arguments : List Typed) (store : Store) :
    Faults (Eval.call synthesis.model ⟨.object object, some (.named (synthesis.builderName view))⟩
        (setterName name) arguments) store := by
  have received := Eval.receiver_object (lookup_builder bearing) object (setterName name)
  obtain ⟨fault, resolved⟩ := resolve_setter_unknown bearing unknown
    (arguments.map Typed.type)
  unfold Eval.call Eval.callOn
  apply (Eval.yields_settled received store).bind_faults
  exact (Eval.faults_settled resolved store).bind _

end BuilderSynthesis.Run.Synthesis
