import BuilderSynthesis.Eval.Resolution
import Mathlib.Data.List.Forall2

/-!
Contract: which method a call is bound to where each type has at most one that matters.

Owns:
- `candidates_of_alike`, the only candidate where the methods of a name take the same
  arguments in all types, and `candidates_of_apart`, all of them where they differ;
- `resolve_plain` and `resolve_packed`, a call with one candidate;
- `resolve_nearest`, a call with candidates that all apply;
- `dispatch_eq`, the override that runs.

Does not own: the types and methods that a run leaves.
-/

namespace BuilderSynthesis.Eval

open BuilderSynthesis.Code (Method Model TypeId TypeRef)

variable {model : Model}

/-! ### Types -/

theorem isAssignable_self (model : Model) (type : TypeRef) :
    isAssignable model type type = true := by
  cases type <;> simp [isAssignable]

theorem accepts_self (model : Model) (type : TypeRef) : accepts model type (some type) = true :=
  isAssignable_self model type

theorem acceptsAll_self (model : Model) (types : List TypeRef) :
    acceptsAll model types (types.map some) = true := by
  induction types with
  | nil => rfl
  | cons type rest inductionHypothesis =>
      rw [List.map_cons, acceptsAll, accepts_self, inductionHypothesis]
      rfl

theorem isAsSpecific_self (model : Model) (method : Method) :
    isAsSpecific model method method = true :=
  acceptsAll_self model method.erasedParameters

theorem acceptsAll_single (parameter : TypeRef) (arguments : List (Option TypeRef)) :
    acceptsAll model [parameter] arguments = true ↔
      ∃ argument, arguments = [argument] ∧ accepts model parameter argument = true := by
  cases arguments with
  | nil => simp [acceptsAll]
  | cons first rest => cases rest <;> simp [acceptsAll]

theorem acceptsAll_iff (parameters : List TypeRef) (arguments : List (Option TypeRef)) :
    acceptsAll model parameters arguments = true ↔
      List.Forall₂ (fun parameter argument => accepts model parameter argument = true)
        parameters arguments := by
  induction parameters generalizing arguments with
  | nil => cases arguments <;> simp [acceptsAll]
  | cons parameter rest inductionHypothesis =>
      cases arguments with
      | nil => simp [acceptsAll]
      | cons argument others =>
          rw [acceptsAll, Bool.and_eq_true, inductionHypothesis, List.forall₂_cons]

/-- An array is not assigned from something else. -/
theorem isAssignable_array_of_ofElement (element target : Schema.Element) :
    isAssignable model (.ofElement element) (.array (.ofElement target)) = false := by
  cases element <;> simp [isAssignable, TypeRef.ofElement]

/-! ### Candidates -/

theorem withoutHidden_alike {parameters : List TypeRef} {first : Candidate}
    (own : first.method.erasedParameters = parameters) {rest : List Candidate}
    (alike : ∀ candidate ∈ rest, candidate.method.erasedParameters = parameters) :
    withoutHidden [first] rest = [first] := by
  induction rest with
  | nil => rfl
  | cons candidate rest inductionHypothesis =>
      rw [List.forall_mem_cons] at alike
      have hidden : [first].any (fun other =>
          other.method.erasedParameters == candidate.method.erasedParameters) = true := by
        simp [own, alike.1]
      rw [withoutHidden, if_pos hidden]
      exact inductionHypothesis alike.2

theorem withoutHidden_apart {seen rest : List Candidate}
    (apart : (seen ++ rest).Pairwise (fun earlier later =>
      earlier.method.erasedParameters ≠ later.method.erasedParameters)) :
    withoutHidden seen rest = seen ++ rest := by
  induction rest generalizing seen with
  | nil => rw [withoutHidden, List.append_nil]
  | cons candidate rest inductionHypothesis =>
      have shown : ¬ seen.any (fun other =>
          other.method.erasedParameters == candidate.method.erasedParameters) = true := by
        rw [List.any_eq_true]
        rintro ⟨other, member, same⟩
        exact (List.pairwise_append.1 apart).2.2 other member candidate List.mem_cons_self
          (beq_iff_eq.1 same)
      have split : seen ++ candidate :: rest = seen ++ [candidate] ++ rest := by simp
      rw [withoutHidden, if_neg shown, split]
      exact inductionHypothesis (split ▸ apart)

section

variable {type : TypeId} {name : String} {isStatic : Bool} {ids : List Nat}
  {position : Nat → TypeId}

/-- Where every type has at most one method of a name, all with the same parameters, the nearest
is the candidate. -/
theorem candidates_of_alike {declared : Nat → Option Method} {parameters : List TypeRef}
    (supertypes : model.supertypes type = ids.map position)
    (single : ∀ id ∈ ids, declaredCandidates model name isStatic (position id) =
      (declared id).toList.map (Candidate.mk (position id)))
    (alike : ∀ id ∈ ids, ∀ method, declared id = some method →
      method.erasedParameters = parameters) :
    candidates model type name isStatic =
      (ids.findSome? (fun id => (declared id).map (Candidate.mk (position id)))).toList := by
  have collected : ∀ {rest : List Nat}, (∀ id ∈ rest, id ∈ ids) →
      (rest.map position).flatMap (declaredCandidates model name isStatic) =
        rest.flatMap (fun id => (declared id).toList.map (Candidate.mk (position id))) := by
    intro rest known
    rw [List.flatMap_map]
    exact List.flatMap_congr (fun id member => single id (known id member))
  have same : ∀ candidate ∈ ids.flatMap (fun id =>
      (declared id).toList.map (Candidate.mk (position id))),
      candidate.method.erasedParameters = parameters := by
    intro candidate member
    obtain ⟨id, known, here⟩ := List.mem_flatMap.1 member
    obtain ⟨method, found, rfl⟩ := List.mem_map.1 here
    exact alike id known method (Option.mem_toList.1 found)
  have nearest : ∀ {rest : List Nat}, (∀ candidate ∈ rest.flatMap (fun id =>
      (declared id).toList.map (Candidate.mk (position id))),
      candidate.method.erasedParameters = parameters) →
      withoutHidden [] (rest.flatMap (fun id =>
        (declared id).toList.map (Candidate.mk (position id)))) =
        (rest.findSome? (fun id => (declared id).map (Candidate.mk (position id)))).toList := by
    intro rest same
    induction rest with
    | nil => rfl
    | cons id rest inductionHypothesis =>
        rw [List.flatMap_cons] at same ⊢
        rw [List.findSome?_cons]
        cases here : declared id with
        | none =>
            rw [here] at same
            exact inductionHypothesis same
        | some method =>
            rw [here] at same
            obtain ⟨own, others⟩ := List.forall_mem_cons.1 same
            exact withoutHidden_alike own others
  unfold candidates
  rw [supertypes, collected (fun _ known => known)]
  exact nearest same

/-- Where every type has one method of a name, all with different parameters, all are
candidates. -/
theorem candidates_of_apart {declared : Nat → Method}
    (supertypes : model.supertypes type = ids.map position)
    (single : ∀ id ∈ ids, declaredCandidates model name isStatic (position id) =
      [⟨position id, declared id⟩])
    (apart : ids.Pairwise (fun earlier later =>
      (declared earlier).erasedParameters ≠ (declared later).erasedParameters)) :
    candidates model type name isStatic =
      ids.map (fun id => ⟨position id, declared id⟩) := by
  have collected : (ids.map position).flatMap (declaredCandidates model name isStatic) =
      ids.map (fun id => ⟨position id, declared id⟩) := by
    rw [List.flatMap_map, List.map_eq_flatMap]
    exact List.flatMap_congr single
  unfold candidates
  rw [supertypes, collected]
  apply withoutHidden_apart
  rw [List.nil_append, List.pairwise_map]
  exact apart

end

/-! ### Calls -/

section

variable {type : TypeId} {name : String} {arguments : List (Option TypeRef)} {isStatic : Bool}

theorem mostSpecific?_cons {first : Candidate} {others : List Candidate}
    (specific : ∀ other ∈ first :: others,
      isAsSpecific model first.method other.method = true) :
    mostSpecific? model (first :: others) = some first := by
  unfold mostSpecific?
  rw [List.find?_cons_of_pos]
  exact List.all_eq_true.2 specific

/-- Of candidates that all apply, the first is meant if it is as specific as all others. -/
theorem resolve_nearest {first : Candidate} {others : List Candidate}
    (found : candidates model type name isStatic = first :: others)
    (apply : ∀ candidate ∈ first :: others,
      appliesPlainly model arguments candidate.method = true)
    (specific : ∀ other ∈ first :: others,
      isAsSpecific model first.method other.method = true) :
    resolve model type name arguments isStatic = .ok ⟨first.owner, first.method, false⟩ := by
  have all : (first :: others).filter (fun candidate =>
      appliesPlainly model arguments candidate.method) = first :: others :=
    List.filter_eq_self.2 apply
  unfold resolve
  simp only [found, all, mostSpecific?_cons specific]

theorem resolve_plain {candidate : Candidate}
    (found : candidates model type name isStatic = [candidate])
    (plain : appliesPlainly model arguments candidate.method = true) :
    resolve model type name arguments isStatic =
      .ok ⟨candidate.owner, candidate.method, false⟩ := by
  apply resolve_nearest found
  · intro other member
    rw [List.mem_singleton.1 member]
    exact plain
  · intro other member
    rw [List.mem_singleton.1 member]
    exact isAsSpecific_self model candidate.method

theorem resolve_packed {candidate : Candidate}
    (found : candidates model type name isStatic = [candidate])
    (plain : appliesPlainly model arguments candidate.method = false)
    (packed : appliesPacked model arguments candidate.method = true) :
    resolve model type name arguments isStatic =
      .ok ⟨candidate.owner, candidate.method, true⟩ := by
  have specific : ∀ other ∈ [candidate],
      isAsSpecific model candidate.method other.method = true := by
    intro other member
    rw [List.mem_singleton.1 member]
    exact isAsSpecific_self model candidate.method
  unfold resolve
  simp only [found, List.filter_cons, plain, packed, Bool.false_eq_true, if_false, if_true,
    List.filter_nil, mostSpecific?_cons specific]

theorem resolve_none
    (found : ∀ candidate ∈ candidates model type name isStatic,
      appliesPlainly model arguments candidate.method = false ∧
        appliesPacked model arguments candidate.method = false) :
    ∃ fault, resolve model type name arguments isStatic = .error fault := by
  have plain : (candidates model type name isStatic).filter (fun candidate =>
      appliesPlainly model arguments candidate.method) = [] := by
    rw [List.filter_eq_nil_iff]
    intro candidate member
    rw [(found candidate member).1]
    exact Bool.false_ne_true
  have packed : (candidates model type name isStatic).filter (fun candidate =>
      appliesPacked model arguments candidate.method) = [] := by
    rw [List.filter_eq_nil_iff]
    intro candidate member
    rw [(found candidate member).2]
    exact Bool.false_ne_true
  unfold resolve
  simp only [plain, packed]
  exact ⟨_, rfl⟩

end

/-! ### Overrides -/

/-- The nearest override runs, and the bound method if there is none. -/
theorem dispatch_eq {type : TypeId} {binding : Binding} {ids : List Nat}
    {position : Nat → TypeId} {declared : Nat → Option Method} {owner id : Nat} {method : Method}
    (supertypes : model.supertypes type = ids.map position)
    (single : ∀ id ∈ ids, (model.get? (position id)).bind (fun declaration =>
      declaration.methods.find? (overrides binding)) = declared id)
    (known : owner ∈ ids) (own : binding.owner = position owner)
    (bound : declared owner = some binding.method)
    (nearest : ids.find? (fun id => (declared id).isSome) = some id)
    (found : declared id = some method) :
    dispatch model type binding = ⟨position id, method, binding.isPacked⟩ := by
  unfold dispatch
  rw [supertypes]
  clear supertypes
  induction ids with
  | nil => cases known
  | cons first rest inductionHypothesis =>
      rw [List.forall_mem_cons] at single
      rw [List.map_cons, overrideIn?]
      rw [List.find?_cons] at nearest
      by_cases here : position first = binding.owner
      · have same : declared first = some binding.method := by
          rw [← single.1, here, own, ← bound]
          rcases List.mem_cons.1 known with rfl | later
          · exact single.1
          · exact single.2 owner later
        rw [same] at nearest
        obtain rfl := Option.some.inj nearest
        rw [found, Option.some.injEq] at same
        rw [if_pos here, here, same]
        rfl
      · rw [if_neg here, single.1]
        cases override : declared first with
        | none =>
            rw [override] at nearest
            have later : owner ∈ rest := by
              rcases List.mem_cons.1 known with rfl | later
              · exact absurd own.symm here
              · exact later
            exact inductionHypothesis single.2 later nearest
        | some nearer =>
            rw [override] at nearest
            obtain rfl := Option.some.inj nearest
            rw [found, Option.some.injEq] at override
            rw [override]
            rfl

end BuilderSynthesis.Eval
