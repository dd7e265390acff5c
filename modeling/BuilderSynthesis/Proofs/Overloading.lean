import BuilderSynthesis.Proofs.Binding
import BuilderSynthesis.Proofs.Lists
import BuilderSynthesis.Proofs.Naming

/-!
Contract: which method a call means where a name is overloaded.

Where no type is above itself and the class above all classes is not declared, types that can
stand for each other are one type. So of the candidates for a call with one argument the one
whose parameter has exactly the type of the argument is meant, whatever the others take.

Owns: `eq_of_isAssignable`, `resolve_exact`.
-/

namespace BuilderSynthesis.Eval

open BuilderSynthesis.Code (Method Model TypeId TypeRef)
open BuilderSynthesis.Schema (Primitive)

variable {model : Model}

/-! ### Types that stand for each other -/

theorem eq_of_widens {left right : Primitive} (one : (left == right || widens left right) = true)
    (two : (right == left || widens right left) = true) : left = right := by
  revert one two
  cases left <;> cases right <;> decide

section

variable (acyclic : Walk.Acyclic model.superclass?) (indexed : model.Indexed)

include acyclic

theorem eq_of_isSubtype {left right : TypeId} (one : model.isSubtype left right = true)
    (two : model.isSubtype right left = true) : left = right := by
  rcases Model.eq_or_reaches_of_isSubtype one with same | up
  · exact same.symm
  · rcases Model.eq_or_reaches_of_isSubtype two with same | down
    · exact same
    · exact absurd (up.trans down) (acyclic left)

include indexed

theorem eq_of_isSubclass {left right : String} (one : isSubclass model left right = true)
    (two : isSubclass model right left = true) : left = right := by
  unfold isSubclass at one two
  cases first : model.lookup left with
  | none => simp [first] at one
  | some sub =>
      cases second : model.lookup right with
      | none => simp [first, second] at one
      | some sup =>
          simp only [first, second] at one two
          obtain rfl := eq_of_isSubtype acyclic one two
          obtain ⟨declaration, found, named⟩ := Model.get?_of_lookup indexed first
          obtain ⟨other, there, namedToo⟩ := Model.get?_of_lookup indexed second
          rw [found, Option.some.injEq] at there
          rw [← named, there, namedToo]

/-- No two types stand for each other. -/
theorem eq_of_isAssignable (rootless : model.lookup Code.objectType = none) {left right : TypeRef}
    (one : isAssignable model left right = true) (two : isAssignable model right left = true) :
    left = right := by
  -- Everything stands for an object, so no class may have that name.
  have bare : ∀ name, isSubclass model Code.objectType name = false := by
    intro name
    unfold isSubclass
    rw [rootless]
  induction left generalizing right with
  | primitive kind =>
      cases right with
      | primitive other => exact congrArg TypeRef.primitive (eq_of_widens one two)
      | named className => simp [isAssignable] at two
      | _ => simp [isAssignable] at one
  | named className =>
      cases right with
      | named other =>
          simp only [isAssignable, Bool.or_eq_true, beq_iff_eq] at one two
          rcases one with (same | root) | sub
          · rw [same]
          · subst root
            rcases two with (same | root) | impossible
            · rw [same]
            · rw [root]
            · rw [bare] at impossible
              cases impossible
          · rcases two with (same | root) | sup
            · rw [same]
            · subst root
              rw [bare] at sub
              cases sub
            · rw [eq_of_isSubclass acyclic indexed sub sup]
      | _ => simp [isAssignable] at one
  | array element inductionHypothesis =>
      cases right with
      | array other =>
          simp only [isAssignable, Bool.or_eq_true, beq_iff_eq, Bool.and_eq_true] at one two
          rcases one with same | ⟨-, up⟩
          · rw [same]
          · rcases two with same | ⟨-, down⟩
            · rw [same]
            · rw [inductionHypothesis up down]
      | named className => simp [isAssignable] at two
      | _ => simp [isAssignable] at one
  | list element =>
      cases right with
      | list other => simpa [isAssignable] using one
      | named className => simp [isAssignable] at two
      | _ => simp [isAssignable] at one
  | var parameter =>
      cases right with
      | var other => simpa [isAssignable] using one
      | named className => simp [isAssignable] at two
      | _ => simp [isAssignable] at one
  | unit =>
      cases right with
      | unit => rfl
      | named className => simp [isAssignable] at two
      | _ => simp [isAssignable] at one

end

/-! ### Candidates -/

/-- No two candidates take the same parameters. -/
def ApartByParameters (candidates : List Candidate) : Prop :=
  candidates.Pairwise (fun earlier later =>
    earlier.method.erasedParameters ≠ later.method.erasedParameters)

theorem withoutHidden_append (seen first second : List Candidate) :
    withoutHidden seen (first ++ second) = withoutHidden (withoutHidden seen first) second := by
  induction first generalizing seen with
  | nil => rfl
  | cons candidate rest inductionHypothesis =>
      rw [List.cons_append, withoutHidden, withoutHidden]
      split
      · exact inductionHypothesis seen
      · exact inductionHypothesis (seen ++ [candidate])

theorem subset_withoutHidden (seen rest : List Candidate) : seen ⊆ withoutHidden seen rest := by
  induction rest generalizing seen with
  | nil => exact List.Subset.refl seen
  | cons candidate rest inductionHypothesis =>
      rw [withoutHidden]
      split
      · exact inductionHypothesis seen
      · exact List.Subset.trans (List.subset_append_left seen _) (inductionHypothesis _)

theorem ApartByParameters.withoutHidden {seen : List Candidate} (apart : ApartByParameters seen)
    (rest : List Candidate) : ApartByParameters (withoutHidden seen rest) := by
  induction rest generalizing seen with
  | nil => exact apart
  | cons candidate rest inductionHypothesis =>
      rw [Eval.withoutHidden]
      split
      · exact inductionHypothesis apart
      · rename_i shown
        apply inductionHypothesis
        refine List.pairwise_append.2 ⟨apart, List.pairwise_singleton _ _, ?_⟩
        intro earlier member later last same
        obtain rfl := List.mem_singleton.1 last
        exact shown (List.any_eq_true.2 ⟨earlier, member, beq_iff_eq.2 same⟩)

theorem apart_candidates (model : Model) (type : TypeId) (name : String) (isStatic : Bool) :
    ApartByParameters (candidates model type name isStatic) :=
  ApartByParameters.withoutHidden List.Pairwise.nil _

/-- What a type declares itself is not hidden. -/
theorem mem_candidates_of_own {type : TypeId} {name : String} {isStatic : Bool}
    {above : List TypeId} (supertypes : model.supertypes type = type :: above)
    (apart : ApartByParameters (declaredCandidates model name isStatic type))
    {candidate : Candidate} (own : candidate ∈ declaredCandidates model name isStatic type) :
    candidate ∈ candidates model type name isStatic := by
  have all : withoutHidden [] (declaredCandidates model name isStatic type) =
      declaredCandidates model name isStatic type := withoutHidden_apart apart
  unfold candidates
  rw [supertypes, List.flatMap_cons, withoutHidden_append, all]
  exact subset_withoutHidden _ _ own

/-! ### Calls -/

theorem isAssignable_of_applies {wanted : TypeRef} {method : Method}
    (applies : appliesPlainly model [some wanted] method = true) :
    ∃ taken, method.erasedParameters = [taken] ∧ isAssignable model wanted taken = true := by
  unfold appliesPlainly at applies
  match parameters : method.erasedParameters with
  | [] => simp [parameters, acceptsAll] at applies
  | [taken] =>
      refine ⟨taken, rfl, ?_⟩
      simpa [parameters, acceptsAll, accepts] using applies
  | _ :: _ :: _ => simp [parameters, acceptsAll] at applies

/-- A call with one argument means the candidate that takes just the type of the argument. -/
theorem resolve_exact (acyclic : Walk.Acyclic model.superclass?) (indexed : model.Indexed)
    (rootless : model.lookup Code.objectType = none) {type : TypeId} {name : String}
    {isStatic : Bool} {candidate : Candidate} {wanted : TypeRef}
    (member : candidate ∈ candidates model type name isStatic)
    (parameters : candidate.method.erasedParameters = [wanted]) :
    resolve model type name [some wanted] isStatic =
      .ok ⟨candidate.owner, candidate.method, false⟩ := by
  let applies : Candidate → Bool := fun other =>
    appliesPlainly model [some wanted] other.method
  have plain : applies candidate = true := by
    simp only [applies, appliesPlainly, parameters]
    exact (acceptsAll_single _ _).2 ⟨_, rfl, accepts_self model wanted⟩
  have there : candidate ∈ (candidates model type name isStatic).filter applies :=
    List.mem_filter.2 ⟨member, plain⟩
  have chosen : mostSpecific? model ((candidates model type name isStatic).filter applies) =
      some candidate := by
    apply Lists.find?_eq_of_unique there
    · rw [List.all_eq_true]
      intro other listed
      unfold isAsSpecific
      rw [parameters]
      exact (List.mem_filter.1 listed).2
    · -- Another as specific as this one takes the same type, and only one candidate does.
      intro other listed specific
      obtain ⟨known, applicable⟩ := List.mem_filter.1 listed
      obtain ⟨taken, takes, up⟩ := isAssignable_of_applies applicable
      have down := List.all_eq_true.1 specific candidate there
      unfold isAsSpecific at down
      rw [parameters, takes] at down
      obtain ⟨argument, same, accepted⟩ := (acceptsAll_single _ _).1 down
      obtain rfl := (List.cons.inj same).1
      have types := eq_of_isAssignable acyclic indexed rootless up accepted
      have once := List.pairwise_map.2 (apart_candidates model type name isStatic)
      refine List.inj_on_of_nodup_map once known member ?_
      rw [takes, parameters, types]
  unfold resolve
  cases found : (candidates model type name isStatic).filter applies with
  | nil =>
      rw [found] at there
      cases there
  | cons first others =>
      rw [found] at chosen
      simp only [applies] at found
      simp only [found, chosen]

end BuilderSynthesis.Eval
