import BuilderSynthesis.Proofs.Coherence
import BuilderSynthesis.Proofs.Subtyping

/-!
Contract: of the methods that a call can mean it means the most specific one, in whatever order
types declare them.

A method can be meant if no nearer type has one with the same name and parameters. Two that are as
specific as each other take the same parameters, so they are one method. Hence at most one is as
specific as all others, and the first that is found is the only one.

Owns: `Visible`, `Applicable`, `Picks`, `Rearranged`, and `resolve_most_specific`.

Does not own: which method runs for the class of a receiver.
-/

namespace BuilderSynthesis.Code

/-- The same type, except that its methods may be in another order. -/
structure Declaration.Rearranged (declaration other : Declaration) : Prop where
  methods : other.methods.Perm declaration.methods
  others : other = { declaration with methods := other.methods }

namespace Model

/-- The same types, except that each may have its methods in another order. -/
structure Rearranged (model other : Model) : Prop where
  index : other.index = model.index
  types : List.Forall₂ Declaration.Rearranged model.types other.types

namespace Rearranged

variable {model other : Model} (rearranged : model.Rearranged other)

include rearranged

theorem size : other.size = model.size :=
  rearranged.types.length_eq.symm

theorem lookup (name : String) : other.lookup name = model.lookup name := by
  unfold Model.lookup
  rw [rearranged.index]

theorem get? {id : TypeId} {declaration : Declaration} (found : model.get? id = some declaration) :
    ∃ image, other.get? id = some image ∧ declaration.Rearranged image :=
  Lists.exists_of_forall₂ rearranged.types found

theorem get?_eq_none {id : TypeId} (unknown : model.get? id = none) : other.get? id = none := by
  unfold Model.get? at unknown ⊢
  rw [List.getElem?_eq_none_iff] at unknown ⊢
  exact rearranged.types.length_eq ▸ unknown

theorem superclass? : other.superclass? = model.superclass? := by
  funext id
  unfold Model.superclass?
  cases found : model.get? id with
  | none => rw [rearranged.get?_eq_none found]
  | some declaration =>
      obtain ⟨image, there, same⟩ := rearranged.get? found
      rw [there, Option.bind_some, Option.bind_some, same.others]

theorem qualifiedName (id : TypeId) : other.qualifiedName id = model.qualifiedName id := by
  unfold Model.qualifiedName
  cases found : model.get? id with
  | none => rw [rearranged.get?_eq_none found]
  | some declaration =>
      obtain ⟨image, there, same⟩ := rearranged.get? found
      rw [there, same.others]

theorem supertypes (id : TypeId) : other.supertypes id = model.supertypes id := by
  unfold Model.supertypes
  rw [chain_eq_visited, chain_eq_visited, rearranged.size, rearranged.superclass?]

theorem symm : other.Rearranged model := by
  refine ⟨rearranged.index.symm, rearranged.types.flip.imp fun image declaration same => ?_⟩
  exact ⟨same.methods.symm, by rw [same.others]⟩

end Rearranged

end Model

end BuilderSynthesis.Code

namespace BuilderSynthesis.Eval

open BuilderSynthesis.Code (Declaration Method Model TypeId TypeRef)

variable {model : Model}

/-! ### What can be meant -/

/-- A type declares a method with a name that is static or is not. -/
structure Offers (model : Model) (name : String) (isStatic : Bool) (owner : TypeId)
    (method : Method) : Prop where
  declared : Declares model owner method
  named : method.name = name
  kind : method.isStatic = isStatic

/-- A type or one above it declares a method, and no nearer type one with the same parameters. -/
def Visible (model : Model) (type : TypeId) (name : String) (isStatic : Bool)
    (candidate : Candidate) : Prop :=
  Offers model name isStatic candidate.owner candidate.method ∧
    ∃ nearer farther, model.supertypes type = nearer ++ candidate.owner :: farther ∧
      ∀ owner ∈ nearer, ∀ method, Offers model name isStatic owner method →
        method.erasedParameters ≠ candidate.method.erasedParameters

def applies (model : Model) (arguments : List (Option TypeRef)) (isPacked : Bool)
    (method : Method) : Bool :=
  if isPacked then appliesPacked model arguments method else appliesPlainly model arguments method

/-- The methods that a call can mean and that take its arguments. -/
def applicable (model : Model) (type : TypeId) (name : String)
    (arguments : List (Option TypeRef)) (isStatic isPacked : Bool) : List Candidate :=
  (candidates model type name isStatic).filter
    (fun candidate => applies model arguments isPacked candidate.method)

/-- A method that a call can mean takes its arguments. -/
structure Applicable (model : Model) (type : TypeId) (name : String)
    (arguments : List (Option TypeRef)) (isStatic isPacked : Bool) (candidate : Candidate) :
    Prop where
  visible : Visible model type name isStatic candidate
  takes : applies model arguments isPacked candidate.method = true

/-- Arguments are gathered only if no method takes them one by one. -/
structure FirstPhase (model : Model) (type : TypeId) (name : String)
    (arguments : List (Option TypeRef)) (isStatic isPacked : Bool) : Prop where
  some : ∃ candidate, Applicable model type name arguments isStatic isPacked candidate
  first : isPacked = true →
    ¬ ∃ candidate, Applicable model type name arguments isStatic false candidate

/-- An applicable method is at least as specific as all of them. -/
structure MostSpecific (model : Model) (type : TypeId) (name : String)
    (arguments : List (Option TypeRef)) (isStatic isPacked : Bool) (candidate : Candidate) :
    Prop where
  applicable : Applicable model type name arguments isStatic isPacked candidate
  specific : ∀ other, Applicable model type name arguments isStatic isPacked other →
    isAsSpecific model candidate.method other.method = true

/-- A call means the method that is most specific in the first phase, if there is just one. -/
structure Picks (model : Model) (type : TypeId) (name : String)
    (arguments : List (Option TypeRef)) (isStatic : Bool) : Prop where
  succeeds : ∀ isPacked, FirstPhase model type name arguments isStatic isPacked →
    ((∃ binding, resolve model type name arguments isStatic = .ok binding) ↔
      ∃! candidate, MostSpecific model type name arguments isStatic isPacked candidate)
  chosen : ∀ isPacked, FirstPhase model type name arguments isStatic isPacked →
    ∀ candidate, MostSpecific model type name arguments isStatic isPacked candidate →
      resolve model type name arguments isStatic =
        .ok ⟨candidate.owner, candidate.method, isPacked⟩
  ambiguous : ∀ isPacked, FirstPhase model type name arguments isStatic isPacked →
    (¬ ∃ candidate, MostSpecific model type name arguments isStatic isPacked candidate) →
      resolve model type name arguments isStatic =
        .error (.ambiguous (model.qualifiedName type) (callText name arguments))
  unknown : (¬ ∃ isPacked, FirstPhase model type name arguments isStatic isPacked) →
    resolve model type name arguments isStatic =
      .error (.noSuchMethod (model.qualifiedName type) (callText name arguments))

/-- Types that stand for each other are one, and no type has two methods with one name and one
list of parameters. -/
structure Definite (model : Model) : Prop where
  antisymmetric : ∀ {left right}, isAssignable model left right = true →
    isAssignable model right left = true → left = right
  distinct : ∀ {owner declaration}, model.get? owner = some declaration →
    declaration.methods.Pairwise fun one other =>
      one.name = other.name → one.erasedParameters ≠ other.erasedParameters

/-! ### Candidates -/

section

variable {name : String} {isStatic : Bool}

theorem mem_declaredCandidates_iff {owner : TypeId} {candidate : Candidate} :
    candidate ∈ declaredCandidates model name isStatic owner ↔
      candidate.owner = owner ∧ Offers model name isStatic owner candidate.method := by
  unfold declaredCandidates
  constructor
  · intro member
    cases found : model.get? owner with
    | none => simp [found] at member
    | some declaration =>
        simp only [found, List.mem_map, List.mem_filter, Bool.and_eq_true, beq_iff_eq] at member
        obtain ⟨method, ⟨here, named, kind⟩, rfl⟩ := member
        exact ⟨rfl, ⟨declaration, found, here⟩, named, kind⟩
  · rintro ⟨rfl, ⟨declaration, found, here⟩, named, kind⟩
    simp only [found, List.mem_map, List.mem_filter, Bool.and_eq_true, beq_iff_eq]
    exact ⟨candidate.method, ⟨here, named, kind⟩, rfl⟩

theorem Definite.apart_declaredCandidates (definite : Definite model) (owner : TypeId) :
    ApartByParameters (declaredCandidates model name isStatic owner) := by
  unfold declaredCandidates
  cases found : model.get? owner with
  | none => exact List.Pairwise.nil
  | some declaration =>
      refine List.pairwise_map.2 (List.Pairwise.imp_of_mem ?_
        ((definite.distinct found).filter _))
      intro one other here there differ
      simp only [List.mem_filter, Bool.and_eq_true, beq_iff_eq] at here there
      exact differ (here.2.1.trans there.2.1.symm)

end

/-- What is not hidden among methods of one type. -/
theorem mem_withoutHidden_iff {seen level : List Candidate} (apart : ApartByParameters level)
    {candidate : Candidate} :
    candidate ∈ withoutHidden seen level ↔ candidate ∈ seen ∨ candidate ∈ level ∧
      ∀ earlier ∈ seen,
        earlier.method.erasedParameters ≠ candidate.method.erasedParameters := by
  induction level generalizing seen with
  | nil => simp [withoutHidden]
  | cons first rest inductionHypothesis =>
      obtain ⟨fromFirst, restApart⟩ := List.pairwise_cons.1 apart
      rw [withoutHidden]
      split
      · rename_i hidden
        simp only [List.any_eq_true, beq_iff_eq] at hidden
        obtain ⟨earlier, member, same⟩ := hidden
        rw [inductionHypothesis restApart, List.mem_cons]
        constructor
        · rintro (early | ⟨late, shown⟩)
          · exact .inl early
          · exact .inr ⟨.inr late, shown⟩
        · rintro (early | ⟨rfl | late, shown⟩)
          · exact .inl early
          · exact absurd same (shown earlier member)
          · exact .inr ⟨late, shown⟩
      · rename_i shown
        simp only [List.any_eq_true, beq_iff_eq, not_exists, not_and] at shown
        rw [inductionHypothesis restApart, List.mem_append, List.mem_singleton, List.mem_cons,
          List.forall_mem_append, List.forall_mem_singleton]
        constructor
        · rintro ((early | rfl) | ⟨late, apartFromSeen, -⟩)
          · exact .inl early
          · exact .inr ⟨.inl rfl, shown⟩
          · exact .inr ⟨.inr late, apartFromSeen⟩
        · rintro (early | ⟨rfl | late, apartFromSeen⟩)
          · exact .inl (.inl early)
          · exact .inl (.inr rfl)
          · exact .inr ⟨late, apartFromSeen, fromFirst candidate late⟩

/-- What is hidden has the parameters of something that is not. -/
theorem exists_mem_withoutHidden {seen level : List Candidate} (apart : ApartByParameters level)
    {candidate : Candidate} (member : candidate ∈ level) :
    ∃ shown ∈ withoutHidden seen level,
      shown.method.erasedParameters = candidate.method.erasedParameters := by
  by_cases hidden : ∃ earlier ∈ seen,
      earlier.method.erasedParameters = candidate.method.erasedParameters
  · obtain ⟨earlier, early, same⟩ := hidden
    exact ⟨earlier, subset_withoutHidden seen level early, same⟩
  · refine ⟨candidate, (mem_withoutHidden_iff apart).2 (.inr ⟨member, ?_⟩), rfl⟩
    exact fun earlier early same => hidden ⟨earlier, early, same⟩

/-- What is not hidden among methods of several types, nearest first. -/
theorem mem_withoutHidden_flatMap_iff {declared : TypeId → List Candidate}
    (apart : ∀ owner, ApartByParameters (declared owner)) {seen : List Candidate}
    {owners : List TypeId} {candidate : Candidate} :
    candidate ∈ withoutHidden seen (owners.flatMap declared) ↔ candidate ∈ seen ∨
      (∀ earlier ∈ seen, earlier.method.erasedParameters ≠ candidate.method.erasedParameters) ∧
      ∃ nearer owner farther, owners = nearer ++ owner :: farther ∧ candidate ∈ declared owner ∧
        ∀ other ∈ nearer, ∀ earlier ∈ declared other,
          earlier.method.erasedParameters ≠ candidate.method.erasedParameters := by
  induction owners generalizing seen with
  | nil => simp [withoutHidden]
  | cons first rest inductionHypothesis =>
      rw [List.flatMap_cons, withoutHidden_append, inductionHypothesis,
        mem_withoutHidden_iff (apart first)]
      constructor
      · rintro ((early | ⟨here, shown⟩) | ⟨shown, nearer, owner, farther, rfl, here, others⟩)
        · exact .inl early
        · exact .inr ⟨shown, [], first, rest, rfl, here, List.forall_mem_nil _⟩
        · refine .inr ⟨fun earlier early => shown earlier (subset_withoutHidden _ _ early),
            first :: nearer, owner, farther, rfl, here, List.forall_mem_cons.2 ⟨?_, others⟩⟩
          -- What hides the nearest may be hidden itself, but not by other parameters.
          intro earlier declares same
          obtain ⟨representative, listed, equal⟩ := exists_mem_withoutHidden (apart first) declares
          exact shown representative listed (equal.trans same)
      · rintro (early | ⟨shown, nearer, owner, farther, split, here, others⟩)
        · exact .inl (.inl early)
        · cases nearer with
          | nil =>
              obtain ⟨rfl, rfl⟩ := List.cons.inj split
              exact .inl (.inr ⟨here, shown⟩)
          | cons nearest nearer =>
              obtain ⟨rfl, rfl⟩ := List.cons.inj split
              obtain ⟨fromNearest, fromOthers⟩ := List.forall_mem_cons.1 others
              refine .inr ⟨?_, nearer, owner, farther, rfl, here, fromOthers⟩
              intro earlier listed
              rcases (mem_withoutHidden_iff (apart first)).1 listed with early | ⟨declares, -⟩
              · exact shown earlier early
              · exact fromNearest earlier declares

section

variable (definite : Definite model) {type : TypeId} {name : String} {isStatic : Bool}

include definite

theorem Definite.mem_candidates_iff {candidate : Candidate} :
    candidate ∈ candidates model type name isStatic ↔
      Visible model type name isStatic candidate := by
  have apart : ∀ owner, ApartByParameters (declaredCandidates model name isStatic owner) :=
    definite.apart_declaredCandidates
  unfold candidates Visible
  rw [mem_withoutHidden_flatMap_iff apart]
  constructor
  · rintro (impossible | ⟨-, nearer, owner, farther, split, here, others⟩)
    · cases impossible
    · obtain ⟨rfl, offers⟩ := mem_declaredCandidates_iff.1 here
      refine ⟨offers, nearer, farther, split, fun other near method offersToo => ?_⟩
      exact others other near ⟨other, method⟩ (mem_declaredCandidates_iff.2 ⟨rfl, offersToo⟩)
  · rintro ⟨offers, nearer, farther, split, others⟩
    refine .inr ⟨List.forall_mem_nil _, nearer, candidate.owner, farther, split,
      mem_declaredCandidates_iff.2 ⟨rfl, offers⟩, fun other near earlier declares => ?_⟩
    exact others other near earlier.method (mem_declaredCandidates_iff.1 declares).2

/-- The list of what is applicable. -/
theorem Definite.mem_applicable_iff {arguments : List (Option TypeRef)} {isPacked : Bool}
    {candidate : Candidate} :
    candidate ∈ applicable model type name arguments isStatic isPacked ↔
      Applicable model type name arguments isStatic isPacked candidate := by
  unfold applicable
  rw [List.mem_filter, definite.mem_candidates_iff]
  exact ⟨fun ⟨visible, takes⟩ => ⟨visible, takes⟩, fun ⟨visible, takes⟩ => ⟨visible, takes⟩⟩

/-- Candidates with the same parameters are one. -/
theorem Definite.eq_of_visible {one other : Candidate}
    (visible : Visible model type name isStatic one)
    (too : Visible model type name isStatic other)
    (same : one.method.erasedParameters = other.method.erasedParameters) : one = other := by
  have once := List.pairwise_map.2 (apart_candidates model type name isStatic)
  exact List.inj_on_of_nodup_map once (definite.mem_candidates_iff.2 visible)
    (definite.mem_candidates_iff.2 too) same

/-! ### The most specific one -/

theorem Definite.eq_of_isAsSpecific {one other : Method}
    (up : isAsSpecific model one other = true) (down : isAsSpecific model other one = true) :
    one.erasedParameters = other.erasedParameters := by
  unfold isAsSpecific at up down
  rw [acceptsAll_iff, List.forall₂_map_right_iff] at up down
  have same : List.Forall₂ Eq one.erasedParameters other.erasedParameters :=
    List.Forall₂.mp (fun _ _ below above => definite.antisymmetric above below) down up.flip
  rwa [List.forall₂_eq_eq_eq] at same

/-- No two candidates are the most specific. -/
theorem Definite.eq_of_mostSpecific {arguments : List (Option TypeRef)} {isPacked : Bool}
    {one other : Candidate}
    (specific : MostSpecific model type name arguments isStatic isPacked one)
    (too : MostSpecific model type name arguments isStatic isPacked other) : one = other :=
  definite.eq_of_visible specific.applicable.visible too.applicable.visible
    (definite.eq_of_isAsSpecific (specific.specific other too.applicable)
      (too.specific one specific.applicable))

theorem Definite.mostSpecific?_eq_some_iff {arguments : List (Option TypeRef)} {isPacked : Bool}
    {candidate : Candidate} :
    mostSpecific? model (applicable model type name arguments isStatic isPacked) =
        some candidate ↔
      MostSpecific model type name arguments isStatic isPacked candidate := by
  -- What the search tests of a candidate that it looks at.
  have tested : ∀ {other}, other ∈ applicable model type name arguments isStatic isPacked →
      ((applicable model type name arguments isStatic isPacked).all
          (fun another => isAsSpecific model other.method another.method) = true ↔
        MostSpecific model type name arguments isStatic isPacked other) := by
    intro other listed
    rw [List.all_eq_true]
    exact ⟨fun all => ⟨definite.mem_applicable_iff.1 listed, fun another too =>
        all another (definite.mem_applicable_iff.2 too)⟩,
      fun specific another too => specific.specific another (definite.mem_applicable_iff.1 too)⟩
  unfold mostSpecific?
  constructor
  · intro found
    have holds := List.find?_some found
    exact (tested (List.mem_of_find?_eq_some found)).1 holds
  · intro specific
    have listed := definite.mem_applicable_iff.2 specific.applicable
    apply Lists.find?_eq_of_unique listed ((tested listed).2 specific)
    intro other listedToo holds
    exact definite.eq_of_mostSpecific ((tested listedToo).1 holds) specific

end

/-! ### What a call means -/

section

variable {type : TypeId} {name : String} {arguments : List (Option TypeRef)} {isStatic : Bool}

/-- The method of some that a call means. -/
def choose (model : Model) (type : TypeId) (name : String) (arguments : List (Option TypeRef))
    (isPacked : Bool) (among : List Candidate) : Except Fault Binding :=
  match mostSpecific? model among with
  | some candidate => .ok ⟨candidate.owner, candidate.method, isPacked⟩
  | none => .error (.ambiguous (model.qualifiedName type) (callText name arguments))

theorem resolve_eq (model : Model) (type : TypeId) (name : String)
    (arguments : List (Option TypeRef)) (isStatic : Bool) :
    resolve model type name arguments isStatic =
      match applicable model type name arguments isStatic false with
      | first :: others => choose model type name arguments false (first :: others)
      | [] =>
          match applicable model type name arguments isStatic true with
          | first :: others => choose model type name arguments true (first :: others)
          | [] => .error (.noSuchMethod (model.qualifiedName type) (callText name arguments)) :=
  rfl

/-- The first phase in which something is applicable gives the answer. -/
theorem Definite.resolve_of_first (definite : Definite model) {isPacked : Bool}
    (phase : FirstPhase model type name arguments isStatic isPacked) :
    resolve model type name arguments isStatic =
      choose model type name arguments isPacked
        (applicable model type name arguments isStatic isPacked) := by
  obtain ⟨candidate, takes⟩ := phase.some
  have listed := definite.mem_applicable_iff.2 takes
  rw [resolve_eq]
  cases isPacked with
  | false =>
      cases found : applicable model type name arguments isStatic false with
      | nil =>
          rw [found] at listed
          cases listed
      | cons first others => rfl
  | true =>
      have none' : applicable model type name arguments isStatic false = [] := by
        rw [List.eq_nil_iff_forall_not_mem]
        exact fun other plain => phase.first rfl ⟨other, definite.mem_applicable_iff.1 plain⟩
      rw [none']
      cases found : applicable model type name arguments isStatic true with
      | nil =>
          rw [found] at listed
          cases listed
      | cons first others => rfl

/-- If something is applicable, then something is in a first phase. -/
theorem exists_firstPhase {isPacked : Bool} {candidate : Candidate}
    (takes : Applicable model type name arguments isStatic isPacked candidate) :
    ∃ isPacked, FirstPhase model type name arguments isStatic isPacked := by
  by_cases plain : ∃ other, Applicable model type name arguments isStatic false other
  · exact ⟨false, plain, fun impossible => nomatch impossible⟩
  · cases isPacked with
    | false => exact absurd ⟨candidate, takes⟩ plain
    | true => exact ⟨true, ⟨candidate, takes⟩, fun _ => plain⟩

theorem Definite.picks (definite : Definite model) (type : TypeId) (name : String)
    (arguments : List (Option TypeRef)) (isStatic : Bool) :
    Picks model type name arguments isStatic := by
  have chosen : ∀ isPacked, FirstPhase model type name arguments isStatic isPacked →
      ∀ candidate, MostSpecific model type name arguments isStatic isPacked candidate →
        resolve model type name arguments isStatic =
          .ok ⟨candidate.owner, candidate.method, isPacked⟩ := by
    intro isPacked phase candidate specific
    rw [definite.resolve_of_first phase]
    unfold choose
    rw [definite.mostSpecific?_eq_some_iff.2 specific]
  have ambiguous : ∀ isPacked, FirstPhase model type name arguments isStatic isPacked →
      (¬ ∃ candidate, MostSpecific model type name arguments isStatic isPacked candidate) →
        resolve model type name arguments isStatic =
          .error (.ambiguous (model.qualifiedName type) (callText name arguments)) := by
    intro isPacked phase none'
    have unfound : mostSpecific? model (applicable model type name arguments isStatic isPacked) =
        none := by
      rw [Option.eq_none_iff_forall_ne_some]
      exact fun candidate found => none' ⟨candidate, definite.mostSpecific?_eq_some_iff.1 found⟩
    rw [definite.resolve_of_first phase]
    unfold choose
    rw [unfound]
  refine ⟨?_, chosen, ambiguous, ?_⟩
  · intro isPacked phase
    constructor
    · rintro ⟨binding, resolved⟩
      by_contra none'
      rw [ambiguous isPacked phase fun ⟨candidate, specific⟩ =>
        none' ⟨candidate, specific, fun _ other => definite.eq_of_mostSpecific other specific⟩]
        at resolved
      cases resolved
    · rintro ⟨candidate, specific, -⟩
      exact ⟨_, chosen isPacked phase candidate specific⟩
  · intro none'
    have empty : ∀ isPacked, applicable model type name arguments isStatic isPacked = [] := by
      intro isPacked
      rw [List.eq_nil_iff_forall_not_mem]
      exact fun candidate listed =>
        none' (exists_firstPhase (definite.mem_applicable_iff.1 listed))
    rw [resolve_eq, empty, empty]

end

/-! ### Methods in another order -/

section

variable {other : Model} (rearranged : model.Rearranged other)

include rearranged

theorem isAssignable_rearranged (source target : TypeRef) :
    isAssignable other source target = isAssignable model source target := by
  have subclasses : ∀ sub sup, isSubclass other sub sup = isSubclass model sub sup := by
    intro sub sup
    unfold isSubclass Model.isSubtype
    simp only [rearranged.lookup, rearranged.supertypes]
  induction source generalizing target with
  | array element inductionHypothesis =>
      cases target <;> simp only [isAssignable, inductionHypothesis]
  | _ => cases target <;> simp only [isAssignable, subclasses]

theorem accepts_rearranged : accepts other = accepts model := by
  funext target source
  cases source with
  | none => rfl
  | some source => exact isAssignable_rearranged rearranged source target

theorem acceptsAll_rearranged (parameters : List TypeRef) (arguments : List (Option TypeRef)) :
    acceptsAll other parameters arguments = acceptsAll model parameters arguments := by
  rw [Bool.eq_iff_iff, acceptsAll_iff, acceptsAll_iff, accepts_rearranged rearranged]

theorem isAsSpecific_rearranged (one another : Method) :
    isAsSpecific other one another = isAsSpecific model one another :=
  acceptsAll_rearranged rearranged _ _

theorem applies_rearranged (arguments : List (Option TypeRef)) (isPacked : Bool)
    (method : Method) :
    applies other arguments isPacked method = applies model arguments isPacked method := by
  unfold applies appliesPacked appliesPlainly
  simp only [acceptsAll_rearranged rearranged, accepts_rearranged rearranged]

theorem offers_rearranged {name : String} {isStatic : Bool} {owner : TypeId} {method : Method}
    (offers : Offers model name isStatic owner method) :
    Offers other name isStatic owner method := by
  obtain ⟨⟨declaration, found, member⟩, named, kind⟩ := offers
  obtain ⟨image, there, same⟩ := rearranged.get? found
  exact ⟨⟨image, there, same.methods.mem_iff.2 member⟩, named, kind⟩

theorem Definite.reorder (definite : Definite model) : Definite other where
  antisymmetric := by
    intro left right up down
    rw [isAssignable_rearranged rearranged] at up down
    exact definite.antisymmetric up down
  distinct := by
    intro owner image there
    obtain ⟨declaration, found, same⟩ := rearranged.symm.get? there
    refine (same.methods.pairwise_iff ?_).1 (definite.distinct found)
    exact fun differ named parameters => differ named.symm parameters.symm

theorem visible_rearranged {type : TypeId} {name : String} {isStatic : Bool}
    {candidate : Candidate} (visible : Visible model type name isStatic candidate) :
    Visible other type name isStatic candidate := by
  obtain ⟨offers, nearer, farther, split, others⟩ := visible
  refine ⟨offers_rearranged rearranged offers, nearer, farther, ?_, ?_⟩
  · rw [rearranged.supertypes, split]
  · intro owner near method offersToo
    exact others owner near method (offers_rearranged rearranged.symm offersToo)

theorem applicable_rearranged {type : TypeId} {name : String} {arguments : List (Option TypeRef)}
    {isStatic isPacked : Bool} {candidate : Candidate}
    (takes : Applicable model type name arguments isStatic isPacked candidate) :
    Applicable other type name arguments isStatic isPacked candidate :=
  ⟨visible_rearranged rearranged takes.visible,
    (applies_rearranged rearranged _ _ _).trans takes.takes⟩

theorem mostSpecific_rearranged {type : TypeId} {name : String}
    {arguments : List (Option TypeRef)} {isStatic isPacked : Bool} {candidate : Candidate}
    (specific : MostSpecific model type name arguments isStatic isPacked candidate) :
    MostSpecific other type name arguments isStatic isPacked candidate := by
  refine ⟨applicable_rearranged rearranged specific.applicable, fun another takes => ?_⟩
  rw [isAsSpecific_rearranged rearranged]
  exact specific.specific another (applicable_rearranged rearranged.symm takes)

theorem firstPhase_rearranged {type : TypeId} {name : String} {arguments : List (Option TypeRef)}
    {isStatic isPacked : Bool} (phase : FirstPhase model type name arguments isStatic isPacked) :
    FirstPhase other type name arguments isStatic isPacked := by
  obtain ⟨candidate, takes⟩ := phase.some
  refine ⟨⟨candidate, applicable_rearranged rearranged takes⟩, fun packed ⟨another, plain⟩ => ?_⟩
  exact phase.first packed ⟨another, applicable_rearranged rearranged.symm plain⟩

/-- The order of methods decides nothing. -/
theorem Definite.resolve_rearranged (definite : Definite model) (type : TypeId) (name : String)
    (arguments : List (Option TypeRef)) (isStatic : Bool) :
    resolve other type name arguments isStatic = resolve model type name arguments isStatic := by
  have here := definite.picks type name arguments isStatic
  have there := (definite.reorder rearranged).picks type name arguments isStatic
  by_cases phase : ∃ isPacked, FirstPhase model type name arguments isStatic isPacked
  · obtain ⟨isPacked, phase⟩ := phase
    have phaseToo := firstPhase_rearranged rearranged phase
    by_cases some' : ∃ candidate,
        MostSpecific model type name arguments isStatic isPacked candidate
    · obtain ⟨candidate, specific⟩ := some'
      rw [here.chosen isPacked phase candidate specific,
        there.chosen isPacked phaseToo candidate (mostSpecific_rearranged rearranged specific)]
    · rw [here.ambiguous isPacked phase some', there.ambiguous isPacked phaseToo,
        rearranged.qualifiedName]
      exact fun ⟨candidate, specific⟩ =>
        some' ⟨candidate, mostSpecific_rearranged rearranged.symm specific⟩
  · rw [here.unknown phase, there.unknown, rearranged.qualifiedName]
    exact fun ⟨isPacked, phaseToo⟩ =>
      phase ⟨isPacked, firstPhase_rearranged rearranged.symm phaseToo⟩

end

theorem definite_of_reached (reached : model.Reached) (acyclic : Walk.Acyclic model.superclass?)
    (rootless : model.lookup Code.objectType = none) : Definite model where
  antisymmetric :=
    eq_of_isAssignable acyclic (Model.consistent_empty.steps reached).1.indexed rootless
  distinct found := ((Model.coherent_empty.steps reached).1.members found).methods

/-- A call means the one method that is most specific in the first phase in which any applies, in
whatever order types declare their methods. -/
theorem resolve_most_specific (reached : model.Reached)
    (acyclic : Walk.Acyclic model.superclass?) (rootless : model.lookup Code.objectType = none)
    (type : TypeId) (name : String) (arguments : List (Option TypeRef)) (isStatic : Bool) :
    Picks model type name arguments isStatic ∧
      ∀ other, model.Rearranged other → resolve other type name arguments isStatic =
        resolve model type name arguments isStatic := by
  have definite := definite_of_reached reached acyclic rootless
  exact ⟨definite.picks type name arguments isStatic, fun other rearranged =>
    definite.resolve_rearranged rearranged type name arguments isStatic⟩

/-- An animal that takes an `int`, and a dog that takes two kinds of numbers, one declared before
the other. -/
def feeding (first second : Schema.Primitive) : List Code.Request :=
  [.topLevel "zoo.Animal" { name := "Animal" },
    .topLevel "zoo.Dog" { name := "Dog" },
    .superclass 1 0,
    .method 0 (feed .int),
    .method 1 (feed first),
    .method 1 (feed second)]
where
  feed (kind : Schema.Primitive) : Method :=
    { name := "feed", parameters := [{ name := "amount", type := .primitive kind }] }

/-- A byte is fed as an `int`, by the dog, also if the dog declares that after `long`. -/
theorem feeding_most_specific :
    Model.Reached ((feeding .int .long).foldl Model.serve {}) ∧
      Model.Rearranged ((feeding .int .long).foldl Model.serve {})
        ((feeding .long .int).foldl Model.serve {}) ∧
      (∃! candidate, MostSpecific ((feeding .int .long).foldl Model.serve {}) 1 "feed"
        [some (.primitive .byte)] false false candidate) ∧
      resolve ((feeding .long .int).foldl Model.serve {}) 1 "feed" [some (.primitive .byte)] false =
        .ok ⟨1, feeding.feed .int, false⟩ := by
  have reached : Model.Reached ((feeding .int .long).foldl Model.serve {}) :=
    Model.steps_foldl_serve (by decide)
  have acyclic : Walk.Acyclic ((feeding .int .long).foldl Model.serve {}).superclass? := by
    refine Walk.acyclic_of_descending fun type other link => ?_
    match type, link with
    | 1, link => exact Option.some.inj link ▸ Nat.one_pos
  have rearranged : Model.Rearranged ((feeding .int .long).foldl Model.serve {})
      ((feeding .long .int).foldl Model.serve {}) :=
    ⟨rfl, .cons ⟨.refl _, rfl⟩ (.cons ⟨.swap _ _ _, rfl⟩ .nil)⟩
  have phase : FirstPhase ((feeding .int .long).foldl Model.serve {}) 1 "feed"
      [some (.primitive .byte)] false false :=
    ⟨⟨⟨1, feeding.feed .int⟩, ⟨⟨⟨_, rfl, List.mem_cons_self⟩, rfl, rfl⟩, [], [0], rfl,
      fun _ none' => nomatch none'⟩, rfl⟩, fun impossible => nomatch impossible⟩
  have resolved : resolve ((feeding .int .long).foldl Model.serve {}) 1 "feed"
      [some (.primitive .byte)] false = .ok ⟨1, feeding.feed .int, false⟩ := rfl
  obtain ⟨picks, same⟩ := resolve_most_specific reached acyclic (by decide) 1 "feed"
    [some (.primitive .byte)] false
  exact ⟨reached, rearranged, (picks.succeeds false phase).1 ⟨_, resolved⟩,
    (same _ rearranged).trans resolved⟩

end BuilderSynthesis.Eval
