import BuilderSynthesis.Proofs.Binding
import BuilderSynthesis.Proofs.Identity
import BuilderSynthesis.Proofs.Overloading

/-!
Contract: which types are below each other, and which methods calls mean there.

In a model that requests lead to, fields of one type have distinct names and every superclass is
a type. So where no type is above itself, being below is transitive. A call means a method that
the type of the receiver or one above it declares, and what runs for an object is declared by its
class or one above that, with the same parameters.

Owns: `Orderly`, `Accepted`, the arguments that the method of a binding takes.
-/

namespace BuilderSynthesis.Code

/-- Fields have distinct names, and the superclass is one of a number of types. -/
def Declaration.InOrder (declaration : Declaration) (size : Nat) : Prop :=
  (declaration.fields.map Field.name).Nodup ∧
    ∀ above, declaration.superclass = some above → above < size

namespace Model

variable {model after : Model}

/-! ### What requests lead to -/

def Orderly (model : Model) : Prop :=
  ∀ id declaration, model.get? id = some declaration → declaration.InOrder model.size

theorem orderly_empty : Orderly {} :=
  fun _ _ found => nomatch found

theorem Orderly.insert (orderly : model.Orderly) {declaration : Declaration}
    (noFields : declaration.fields = []) (noSuperclass : declaration.superclass = none) :
    (model.insert declaration).Orderly := by
  intro id other found
  rw [size_insert]
  rcases get?_insert_cases found with old | ⟨-, rfl⟩
  · obtain ⟨apart, linked⟩ := orderly id other old
    exact ⟨apart, fun above link => Nat.lt_succ_of_lt (linked above link)⟩
  · refine ⟨?_, fun above link => ?_⟩
    · rw [noFields]
      exact List.nodup_nil
    · rw [noSuperclass] at link
      cases link

theorem Orderly.update (orderly : model.Orderly) {id : TypeId}
    {change : Declaration → Declaration}
    (keeps : ∀ declaration, model.get? id = some declaration →
      declaration.InOrder model.size → (change declaration).InOrder model.size) :
    (model.update id change).Orderly := by
  intro other declaration found
  rw [size_update]
  rcases get?_update_cases found with ⟨-, old, known, rfl⟩ | ⟨-, known⟩
  · exact keeps old known (orderly id old known)
  · exact orderly other declaration known

theorem Orderly.step (orderly : model.Orderly) (step : model.Step after) : after.Orderly := by
  obtain ⟨request, within, rfl⟩ := step
  unfold serve
  cases answered : model.answer request with
  | error conflict => exact orderly
  | ok after =>
      cases request with
      | topLevel qualifiedName header =>
          obtain ⟨id, declared⟩ := answer_topLevel_eq_ok_iff.1 answered
          obtain ⟨-, -, rfl⟩ := declareClass_eq_ok_iff.1 declared
          exact orderly.insert rfl rfl
      | nested outer header =>
          obtain ⟨id, declared⟩ := answer_nested_eq_ok_iff.1 answered
          obtain ⟨parent, -, -, -, rfl⟩ := declareNested_eq_ok_iff.1 declared
          exact Orderly.update (orderly.insert rfl rfl) fun _ _ inOrder => inOrder
      | field owner field =>
          obtain ⟨declaration, known, new, rfl⟩ := declareField_eq_ok_iff.1 answered
          refine orderly.update fun other here ⟨apart, linked⟩ => ⟨?_, linked⟩
          obtain rfl := Option.some.inj (known.symm.trans here)
          show ((declaration.fields ++ [field]).map Field.name).Nodup
          rw [List.map_append, List.map_singleton]
          exact apart.append (List.nodup_singleton _) (List.disjoint_singleton.2 new)
      | method owner method =>
          obtain ⟨declaration, -, -, rfl⟩ := declareMethod_eq_ok_iff.1 answered
          exact orderly.update fun _ _ inOrder => inOrder
      | superclass id above =>
          cases answered
          exact orderly.update fun _ _ ⟨apart, _⟩ =>
            ⟨apart, fun other link => Option.some.inj link ▸ within.2⟩

theorem Reached.orderly (reached : model.Reached) : model.Orderly := by
  induction reached with
  | refl => exact orderly_empty
  | tail _ step inductionHypothesis => exact inductionHypothesis.step step

theorem Orderly.bounded (orderly : model.Orderly) :
    Walk.Bounded model.superclass? model.size := by
  intro id above link
  obtain ⟨declaration, known, direct⟩ := Option.bind_eq_some_iff.1 link
  exact ⟨get?_eq_some_lt known, (orderly id declaration known).2 above direct⟩

/-! ### Being below -/

theorem mem_supertypes_iff (sub sup : TypeId) :
    sup ∈ model.supertypes sub ↔ model.isSubtype sub sup = true :=
  List.contains_iff_mem.symm

theorem isSubtype_self {id : TypeId} (known : id < model.size) : model.isSubtype id id = true := by
  rw [← mem_supertypes_iff]
  unfold supertypes
  cases size : model.size with
  | zero => exact absurd known (size ▸ Nat.not_lt_zero id)
  | succ steps => exact List.mem_cons_self

/-- What is below a declared type is declared. -/
theorem lt_of_isSubtype (orderly : model.Orderly) {sub sup : TypeId}
    (below : model.isSubtype sub sup = true) (known : sup < model.size) : sub < model.size := by
  rcases eq_or_reaches_of_isSubtype below with rfl | reaches
  · exact known
  · obtain ⟨first, start, -⟩ := Relation.TransGen.head'_iff.1 reaches
    exact (orderly.bounded _ _ start).1

section

variable (acyclic : Walk.Acyclic model.superclass?) (orderly : model.Orderly)

include acyclic orderly

theorem isSubtype_of_reaches {sub sup : TypeId}
    (reaches : Relation.TransGen (Walk.Leads model.superclass?) sub sup) :
    model.isSubtype sub sup = true := by
  obtain ⟨first, start, -⟩ := Relation.TransGen.head'_iff.1 reaches
  have known := (orderly.bounded _ _ start).1
  rw [← mem_supertypes_iff]
  unfold supertypes
  rw [chain_eq_visited, Walk.visited_eq_cons_path acyclic orderly.bounded known (Nat.le_refl _)]
  exact List.mem_cons_of_mem _ ((Walk.mem_path_iff acyclic orderly.bounded sub sup).2 reaches)

theorem isSubtype_trans {low middle high : TypeId} (one : model.isSubtype low middle = true)
    (two : model.isSubtype middle high = true) : model.isSubtype low high = true := by
  rcases eq_or_reaches_of_isSubtype one with rfl | up
  · exact two
  · rcases eq_or_reaches_of_isSubtype two with rfl | further
    · exact one
    · exact isSubtype_of_reaches acyclic orderly (up.trans further)

theorem isSubtype_superclass {type parent : TypeId} (above : model.superclass? type = some parent) :
    model.isSubtype type parent = true :=
  isSubtype_of_reaches acyclic orderly (.single above)

end

end Model

end BuilderSynthesis.Code

namespace BuilderSynthesis.Eval

open BuilderSynthesis.Code (Method Model TypeId TypeRef)

variable {model : Model}

/-! ### What a call means -/

/-- A type declares a method. -/
def Declares (model : Model) (owner : TypeId) (method : Method) : Prop :=
  ∃ declaration, model.get? owner = some declaration ∧ method ∈ declaration.methods

/-- The method of a binding takes arguments of some types, as it is called. -/
def Accepted (model : Model) (binding : Binding) (types : List (Option TypeRef)) : Prop :=
  if binding.isPacked then
    acceptsAll model binding.method.erasedParameters.dropLast
      (types.take (binding.method.parameters.length - 1)) = true
  else
    acceptsAll model binding.method.erasedParameters types = true

/-- Only the types of the parameters count. -/
theorem Accepted.of_parameters {binding other : Binding} {types : List (Option TypeRef)}
    (accepted : Accepted model binding types)
    (parameters : other.method.erasedParameters = binding.method.erasedParameters)
    (packed : other.isPacked = binding.isPacked) : Accepted model other types := by
  have lengths : other.method.parameters.length = binding.method.parameters.length := by
    simpa only [Method.erasedParameters, List.length_map] using congrArg List.length parameters
  unfold Accepted
  rw [parameters, packed, lengths]
  exact accepted

theorem mem_of_mem_withoutHidden {seen rest : List Candidate} {candidate : Candidate}
    (member : candidate ∈ withoutHidden seen rest) : candidate ∈ seen ∨ candidate ∈ rest := by
  induction rest generalizing seen with
  | nil => exact .inl member
  | cons first rest inductionHypothesis =>
      rw [withoutHidden] at member
      split at member
      · exact (inductionHypothesis member).imp_right (List.mem_cons_of_mem _)
      · rcases inductionHypothesis member with early | late
        · rcases List.mem_append.1 early with here | last
          · exact .inl here
          · exact .inr (List.mem_singleton.1 last ▸ List.mem_cons_self)
        · exact .inr (List.mem_cons_of_mem _ late)

/-- What a call on a type can mean is declared by the type or one above it. -/
theorem declares_of_mem_candidates {type : TypeId} {name : String} {isStatic : Bool}
    {candidate : Candidate} (member : candidate ∈ candidates model type name isStatic) :
    model.isSubtype type candidate.owner = true ∧
      Declares model candidate.owner candidate.method := by
  have raw := (mem_of_mem_withoutHidden member).resolve_left List.not_mem_nil
  obtain ⟨owner, below, declared⟩ := List.mem_flatMap.1 raw
  unfold declaredCandidates at declared
  cases known : model.get? owner with
  | none => simp [known] at declared
  | some declaration =>
      simp only [known, List.mem_map, List.mem_filter] at declared
      obtain ⟨method, ⟨here, -⟩, rfl⟩ := declared
      exact ⟨(Model.mem_supertypes_iff _ _).1 below, declaration, known, here⟩

/-- What takes arguments that are gathered takes the ones before them. -/
theorem accepted_of_appliesPacked {owner : TypeId} {method : Method}
    {types : List (Option TypeRef)} (applies : appliesPacked model types method = true) :
    Accepted model ⟨owner, method, true⟩ types := by
  unfold appliesPacked at applies
  simp only [Bool.and_eq_true] at applies
  obtain ⟨-, rest⟩ := applies
  split at rest
  · cases rest
  · simp only [Bool.and_eq_true, Method.erasedParameters, List.length_map] at rest
    exact rest.1

/-- A call means the most specific of the candidates that take its arguments. -/
theorem mem_candidates_of_resolve {type : TypeId} {name : String} {types : List (Option TypeRef)}
    {isStatic : Bool} {binding : Binding}
    (resolved : resolve model type name types isStatic = .ok binding) :
    ∃ candidate ∈ candidates model type name isStatic,
      ∃ isPacked, binding = ⟨candidate.owner, candidate.method, isPacked⟩ ∧
        Accepted model binding types := by
  unfold resolve at resolved
  dsimp only at resolved
  split at resolved
  · rename_i first others plain
    split at resolved
    · rename_i candidate specific
      obtain rfl := Except.ok.inj resolved
      have listed := List.mem_of_find?_eq_some specific
      rw [← plain, List.mem_filter] at listed
      exact ⟨candidate, listed.1, false, rfl, listed.2⟩
    · cases resolved
  · split at resolved
    · rename_i first others packed
      split at resolved
      · rename_i candidate specific
        obtain rfl := Except.ok.inj resolved
        have listed := List.mem_of_find?_eq_some specific
        rw [← packed, List.mem_filter] at listed
        exact ⟨candidate, listed.1, true, rfl, accepted_of_appliesPacked listed.2⟩
      · cases resolved
    · cases resolved

/-- A call means a method that the type or one above it declares. -/
theorem declares_of_resolve {type : TypeId} {name : String} {types : List (Option TypeRef)}
    {isStatic : Bool} {binding : Binding}
    (resolved : resolve model type name types isStatic = .ok binding) :
    model.isSubtype type binding.owner = true ∧ Declares model binding.owner binding.method ∧
      Accepted model binding types := by
  obtain ⟨candidate, member, isPacked, rfl, accepted⟩ := mem_candidates_of_resolve resolved
  obtain ⟨below, declares⟩ := declares_of_mem_candidates member
  exact ⟨below, declares, accepted⟩

/-- An override is declared by one of the types, for the same parameters. -/
theorem declares_of_overrideIn? {binding found : Binding} {owners : List TypeId}
    (override : overrideIn? model binding owners = some found) :
    found.owner ∈ owners ∧ Declares model found.owner found.method ∧
      found.method.erasedParameters = binding.method.erasedParameters ∧
      found.isPacked = binding.isPacked := by
  induction owners with
  | nil => cases override
  | cons owner rest inductionHypothesis =>
      rw [overrideIn?] at override
      split at override
      · cases override
      · split at override
        · rename_i method first
          obtain rfl := Option.some.inj override
          obtain ⟨declaration, known, here⟩ := Option.bind_eq_some_iff.1 first
          have same := List.find?_some here
          simp only [overrides, Bool.and_eq_true, beq_iff_eq] at same
          exact ⟨List.mem_cons_self, ⟨declaration, known, List.mem_of_find?_eq_some here⟩, same.2,
            rfl⟩
        · obtain ⟨member, rest⟩ := inductionHypothesis override
          exact ⟨List.mem_cons_of_mem owner member, rest⟩

/-- What runs for an object of a class is declared by the class or one above it, and takes what
the bound method takes. -/
theorem declares_dispatch {type : TypeId} {binding : Binding} {types : List (Option TypeRef)}
    (below : model.isSubtype type binding.owner = true)
    (declared : Declares model binding.owner binding.method)
    (accepted : Accepted model binding types) :
    model.isSubtype type (dispatch model type binding).owner = true ∧
      Declares model (dispatch model type binding).owner (dispatch model type binding).method ∧
      Accepted model (dispatch model type binding) types := by
  unfold dispatch
  cases found : overrideIn? model binding (model.supertypes type) with
  | none => exact ⟨below, declared, accepted⟩
  | some other =>
      obtain ⟨member, declaredToo, parameters, packed⟩ := declares_of_overrideIn? found
      exact ⟨(Model.mem_supertypes_iff _ _).1 member, declaredToo,
        accepted.of_parameters parameters packed⟩

end BuilderSynthesis.Eval
