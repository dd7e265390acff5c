import BuilderSynthesis.Code.Method
import Mathlib.Data.List.Forall2
import Mathlib.Logic.Relation

/-!
Contract: what is left of the type parameters of a method when its types are erased.

A type parameter stands for its first bound, which may mention another type parameter, and so on.
`Erases` goes on until no type parameter is left. `Method.erase` makes one step of it, so it gives
the same exactly for the types whose type parameters have first bounds without type parameters, and
exactly these it leaves alone the second time.

Owns: `TypeRef.Mentions`, `Method.Grounded`, `Method.Erases`, `Method.EndsAtOnce` and
`erasure_complete_iff`.
-/

namespace BuilderSynthesis.Code

def TypeRef.Mentions (name : String) : TypeRef → Prop
  | .array element => element.Mentions name
  | .list element => element.Mentions name
  | .var parameter => parameter = name
  | _ => False

namespace Method

variable {method : Method}

/-- No type parameter of the method is mentioned in a type. -/
def IsErased (method : Method) (type : TypeRef) : Prop :=
  ∀ parameter ∈ method.typeParameters, ¬ type.Mentions parameter.name

/-- A name is mentioned in the first bound of a type parameter. -/
def IsBoundedBy (method : Method) (name other : String) : Prop :=
  ∃ parameter, method.typeParameter? name = some parameter ∧ parameter.erasure.Mentions other

/-- No type parameter is bounded by itself, also not through others. -/
def Grounded (method : Method) : Prop :=
  ∀ name, ¬ Relation.TransGen method.IsBoundedBy name name

/-- A type becomes another when type parameters are replaced by their first bounds until there
are none left. -/
inductive Erases (method : Method) : TypeRef → TypeRef → Prop where
  | parameter {name : String} {parameter : TypeParameter} {erased : TypeRef}
      (known : method.typeParameter? name = some parameter)
      (bound : Erases method parameter.erasure erased) : Erases method (.var name) erased
  /-- A type parameter of another method. -/
  | foreign {name : String} (unknown : method.typeParameter? name = none) :
      Erases method (.var name) (.var name)
  | array {element erased : TypeRef} (inner : Erases method element erased) :
      Erases method (.array element) (.array erased)
  | list {element erased : TypeRef} (inner : Erases method element erased) :
      Erases method (.list element) (.list erased)
  | primitive (kind : Schema.Primitive) : Erases method (.primitive kind) (.primitive kind)
  | named (className : String) : Erases method (.named className) (.named className)
  | unit : Erases method .unit .unit

/-- The type parameters that a type mentions have first bounds that mention none. -/
def EndsAtOnce (method : Method) (type : TypeRef) : Prop :=
  ∀ name parameter, type.Mentions name → method.typeParameter? name = some parameter →
    method.IsErased parameter.erasure

/-! ### Types without type parameters -/

theorem mem_of_typeParameter? {name : String} {parameter : TypeParameter}
    (found : method.typeParameter? name = some parameter) :
    parameter ∈ method.typeParameters ∧ parameter.name = name := by
  have own := List.find?_some found
  exact ⟨List.mem_of_find?_eq_some found, beq_iff_eq.1 own⟩

theorem isErased_var_iff {name : String} :
    method.IsErased (.var name) ↔ method.typeParameter? name = none := by
  unfold IsErased typeParameter? TypeRef.Mentions
  simp only [List.find?_eq_none, beq_iff_eq, eq_comm (a := name)]

theorem erase_of_isErased {type : TypeRef} (erased : method.IsErased type) :
    method.erase type = type := by
  induction type with
  | var name => simp only [erase, isErased_var_iff.1 erased]
  | array element inductionHypothesis => rw [erase, inductionHypothesis erased]
  | list element inductionHypothesis => rw [erase, inductionHypothesis erased]
  | _ => rfl

/-- A type that erasing leaves alone mentions no type parameter, because none is its own bound. -/
theorem isErased_of_erase_eq (grounded : method.Grounded) {type : TypeRef}
    (same : method.erase type = type) : method.IsErased type := by
  induction type with
  | var name =>
      rw [isErased_var_iff, Option.eq_none_iff_forall_ne_some]
      intro parameter known
      have own : parameter.erasure = .var name := by
        simpa only [erase, known] using same
      have itself : method.IsBoundedBy name name := ⟨parameter, known, own ▸ rfl⟩
      exact grounded name (.single itself)
  | array element inductionHypothesis => exact inductionHypothesis (TypeRef.array.inj same)
  | list element inductionHypothesis => exact inductionHypothesis (TypeRef.list.inj same)
  | _ => exact fun _ _ mentioned => mentioned

theorem isErased_erase_iff {type : TypeRef} :
    method.IsErased (method.erase type) ↔ method.EndsAtOnce type := by
  induction type with
  | var name =>
      cases known : method.typeParameter? name with
      | none =>
          simp only [erase, known, isErased_var_iff, true_iff]
          rintro _ parameter rfl found
          rw [known] at found
          cases found
      | some found =>
          simp only [erase, known]
          constructor
          · rintro erased _ parameter rfl same
            obtain rfl := Option.some.inj (known.symm.trans same)
            exact erased
          · exact fun ends => ends name found rfl known
  | array element inductionHypothesis => exact inductionHypothesis
  | list element inductionHypothesis => exact inductionHypothesis
  | _ => exact ⟨fun _ _ _ mentioned => mentioned.elim, fun _ _ _ mentioned => mentioned⟩

/-! ### Replacing until the end -/

theorem Erases.isErased {type erased : TypeRef} (erases : method.Erases type erased) :
    method.IsErased erased := by
  induction erases with
  | parameter _ _ inductionHypothesis => exact inductionHypothesis
  | foreign unknown => exact isErased_var_iff.2 unknown
  | array _ inductionHypothesis => exact inductionHypothesis
  | list _ inductionHypothesis => exact inductionHypothesis
  | _ => exact fun _ _ mentioned => mentioned

theorem Erases.unique {type one other : TypeRef} (first : method.Erases type one)
    (second : method.Erases type other) : one = other := by
  induction first generalizing other with
  | parameter known _ inductionHypothesis =>
      cases second with
      | parameter again bound =>
          obtain rfl := Option.some.inj (known.symm.trans again)
          exact inductionHypothesis bound
      | foreign unknown => cases known.symm.trans unknown
  | foreign unknown =>
      cases second with
      | parameter known _ => cases unknown.symm.trans known
      | foreign _ => rfl
  | array _ inductionHypothesis =>
      cases second with
      | array inner => rw [inductionHypothesis inner]
  | list _ inductionHypothesis =>
      cases second with
      | list inner => rw [inductionHypothesis inner]
  | _ => cases second; rfl

theorem erases_of_mentioned {type : TypeRef}
    (each : ∀ name, type.Mentions name → ∃ erased, method.Erases (.var name) erased) :
    ∃ erased, method.Erases type erased := by
  induction type with
  | var name => exact each name rfl
  | array element inductionHypothesis =>
      obtain ⟨erased, inner⟩ := inductionHypothesis each
      exact ⟨_, .array inner⟩
  | list element inductionHypothesis =>
      obtain ⟨erased, inner⟩ := inductionHypothesis each
      exact ⟨_, .list inner⟩
  | primitive kind => exact ⟨_, .primitive kind⟩
  | named className => exact ⟨_, .named className⟩
  | unit => exact ⟨_, .unit⟩

theorem erases_self {type : TypeRef} (erased : method.IsErased type) : method.Erases type type := by
  induction type with
  | var name => exact .foreign (isErased_var_iff.1 erased)
  | array element inductionHypothesis => exact .array (inductionHypothesis erased)
  | list element inductionHypothesis => exact .list (inductionHypothesis erased)
  | primitive kind => exact .primitive kind
  | named className => exact .named className
  | unit => exact .unit

/-- Each replacement leaves one type parameter fewer that can still come, because a bound never
leads back to a type parameter that it came from. -/
theorem Grounded.exists_erases_var (grounded : method.Grounded) (remaining : List String)
    {name : String} (within : ∀ other, Relation.ReflTransGen method.IsBoundedBy name other →
      (method.typeParameter? other).isSome → other ∈ remaining) :
    ∃ erased, method.Erases (.var name) erased := by
  generalize size : remaining.length = count
  induction count generalizing remaining name with
  | zero =>
      obtain rfl := List.length_eq_zero_iff.1 size
      have unknown : method.typeParameter? name = none := by
        rw [← Option.not_isSome_iff_eq_none]
        exact fun known => nomatch within name .refl known
      exact ⟨_, .foreign unknown⟩
  | succ count inductionHypothesis =>
      cases known : method.typeParameter? name with
      | none => exact ⟨_, .foreign known⟩
      | some parameter =>
          have here : name ∈ remaining := within name .refl (known ▸ rfl)
          have next : ∀ other, parameter.erasure.Mentions other →
              ∃ erased, method.Erases (.var other) erased := by
            intro other mentioned
            have link : method.IsBoundedBy name other := ⟨parameter, known, mentioned⟩
            have shorter : (remaining.erase name).length = count := by
              rw [List.length_erase_of_mem here, size, Nat.add_sub_cancel]
            refine inductionHypothesis _ (fun further reaches isParameter => ?_) shorter
            have different : further ≠ name := by
              rintro rfl
              exact grounded further (.head' link reaches)
            exact (List.mem_erase_of_ne different).2
              (within further (.head link reaches) isParameter)
          obtain ⟨erased, bound⟩ := erases_of_mentioned next
          exact ⟨erased, .parameter known bound⟩

theorem Grounded.exists_erases (grounded : method.Grounded) (type : TypeRef) :
    ∃ erased, method.Erases type erased := by
  refine erases_of_mentioned fun name _ => grounded.exists_erases_var
    (method.typeParameters.map TypeParameter.name) fun other _ known => ?_
  obtain ⟨parameter, found⟩ := Option.isSome_iff_exists.1 known
  exact List.mem_map.2 ⟨parameter, mem_of_typeParameter? found⟩

/-- One step is enough exactly for the types whose type parameters end at once. -/
theorem erases_erase_iff {type : TypeRef} :
    method.Erases type (method.erase type) ↔ method.EndsAtOnce type := by
  constructor
  · exact fun erases => isErased_erase_iff.1 erases.isErased
  · intro ends
    induction type with
    | var name =>
        cases known : method.typeParameter? name with
        | none =>
            simp only [erase, known]
            exact .foreign known
        | some found =>
            simp only [erase, known]
            exact .parameter known (erases_self (ends name found rfl known))
    | array element inductionHypothesis => exact .array (inductionHypothesis ends)
    | list element inductionHypothesis => exact .list (inductionHypothesis ends)
    | primitive kind => exact .primitive kind
    | named className => exact .named className
    | unit => exact .unit

theorem erase_erase_eq_iff (grounded : method.Grounded) {type : TypeRef} :
    method.erase (method.erase type) = method.erase type ↔ method.EndsAtOnce type := by
  rw [← isErased_erase_iff]
  exact ⟨isErased_of_erase_eq grounded, erase_of_isErased⟩

/-! ### Parameters -/

theorem forall₂_erases_iff :
    List.Forall₂ (fun parameter => method.Erases parameter.type) method.parameters
        method.erasedParameters ↔
      ∀ parameter ∈ method.parameters, method.EndsAtOnce parameter.type := by
  unfold erasedParameters
  rw [List.forall₂_map_right_iff, List.forall₂_same]
  simp only [erases_erase_iff]

/-- Lists of types that the same parameters become are the same. -/
theorem eq_of_forall₂_erases {parameters : List Parameter} {types others : List TypeRef}
    (first : List.Forall₂ (fun parameter => method.Erases parameter.type) parameters types)
    (second : List.Forall₂ (fun parameter => method.Erases parameter.type) parameters others) :
    types = others := by
  induction first generalizing others with
  | nil => cases second; rfl
  | cons one _ inductionHypothesis =>
      cases second with
      | cons other rest => rw [one.unique other, inductionHypothesis rest]

/-- Where the parameters of two methods end at once, they have the same signature exactly if their
names are the same and their parameters become the same types. -/
theorem sameSignature_iff_erases {other : Method}
    (ends : ∀ parameter ∈ method.parameters, method.EndsAtOnce parameter.type)
    (too : ∀ parameter ∈ other.parameters, other.EndsAtOnce parameter.type) :
    method.sameSignature other = true ↔ method.name = other.name ∧ ∃ types,
      List.Forall₂ (fun parameter => method.Erases parameter.type) method.parameters types ∧
        List.Forall₂ (fun parameter => other.Erases parameter.type) other.parameters types := by
  unfold sameSignature
  rw [Bool.and_eq_true, beq_iff_eq, beq_iff_eq]
  refine and_congr_right fun _ => ⟨fun same => ?_, ?_⟩
  · exact ⟨_, forall₂_erases_iff.2 ends, same ▸ forall₂_erases_iff.2 too⟩
  · rintro ⟨types, one, two⟩
    exact (eq_of_forall₂_erases (forall₂_erases_iff.2 ends) one).trans
      (eq_of_forall₂_erases two (forall₂_erases_iff.2 too))

/-- Every type becomes one type without type parameters. Erasing gives that type, leaves none of
the type parameters, and changes nothing the second time, each exactly for the types that end at
once; and signatures are compared by what parameters become where all of them do. -/
theorem erasure_complete_iff {method : Method} (grounded : method.Grounded) :
    (∀ type, ∃ erased, (∀ other, method.Erases type other ↔ other = erased) ∧
      method.IsErased erased ∧
      (method.erase type = erased ↔ method.EndsAtOnce type) ∧
      (method.IsErased (method.erase type) ↔ method.EndsAtOnce type) ∧
      (method.erase (method.erase type) = method.erase type ↔ method.EndsAtOnce type)) ∧
    ∀ other : Method, (∀ parameter ∈ method.parameters, method.EndsAtOnce parameter.type) →
      (∀ parameter ∈ other.parameters, other.EndsAtOnce parameter.type) →
        (method.sameSignature other = true ↔ method.name = other.name ∧ ∃ types,
          List.Forall₂ (fun parameter => method.Erases parameter.type) method.parameters types ∧
          List.Forall₂ (fun parameter => other.Erases parameter.type) other.parameters types) := by
  refine ⟨fun type => ?_, fun other => sameSignature_iff_erases⟩
  obtain ⟨erased, erases⟩ := grounded.exists_erases type
  have only : ∀ other, method.Erases type other ↔ other = erased :=
    fun other => ⟨fun again => again.unique erases, fun same => same ▸ erases⟩
  refine ⟨erased, only, erases.isErased, ?_, isErased_erase_iff, erase_erase_eq_iff grounded⟩
  rw [← only, erases_erase_iff]

/-- A method with a type parameter that is bounded by another one, which a class bounds. -/
def chainedMethod : Method where
  name := "feed"
  parameters := [{ name := "one", type := .var "A" }, { name := "two", type := .var "B" }]
  typeParameters := [⟨"A", [.var "B"]⟩, ⟨"B", [.named "zoo.Animal"]⟩]

theorem eq_of_isBoundedBy_chained {name other : String}
    (link : chainedMethod.IsBoundedBy name other) : name = "A" ∧ other = "B" := by
  obtain ⟨parameter, known, mentioned⟩ := link
  obtain ⟨listed, own⟩ := mem_of_typeParameter? known
  rcases List.mem_cons.1 listed with rfl | later
  · exact ⟨own.symm, mentioned.symm⟩
  · obtain rfl := List.mem_singleton.1 later
    exact mentioned.elim

theorem grounded_chained : chainedMethod.Grounded := by
  intro name loop
  obtain ⟨_, first, -⟩ := Relation.TransGen.head'_iff.1 loop
  obtain ⟨_, -, last⟩ := Relation.TransGen.tail'_iff.1 loop
  have one := (eq_of_isBoundedBy_chained first).1
  have other := (eq_of_isBoundedBy_chained last).2
  exact absurd (one.symm.trans other) (by decide)

theorem chained_erasure_complete_iff :
    chainedMethod.Grounded ∧
      (chainedMethod.EndsAtOnce (.var "B") ∧
        chainedMethod.IsErased (chainedMethod.erase (.var "B"))) ∧
      (¬ chainedMethod.EndsAtOnce (.list (.var "A")) ∧
        chainedMethod.erase (.list (.var "A")) = .list (.var "B") ∧
        chainedMethod.erase (chainedMethod.erase (.list (.var "A"))) ≠
          chainedMethod.erase (.list (.var "A"))) := by
  obtain ⟨_, -, -, -, left, again⟩ :=
    (erasure_complete_iff grounded_chained).1 (.list (.var "A"))
  obtain ⟨_, -, -, -, leftToo, againToo⟩ := (erasure_complete_iff grounded_chained).1 (.var "B")
  have ends : chainedMethod.EndsAtOnce (.var "B") := againToo.1 (by decide)
  have changes : chainedMethod.erase (chainedMethod.erase (.list (.var "A"))) ≠
      chainedMethod.erase (.list (.var "A")) := by
    decide
  exact ⟨grounded_chained, ⟨ends, leftToo.2 ends⟩, fun goes => changes (again.2 goes), by decide,
    changes⟩

theorem not_every_erasure_is_complete :
    ¬ ∀ method : Method, method.Grounded → ∀ type,
      method.erase (method.erase type) = method.erase type ∧
        method.IsErased (method.erase type) := by
  intro always
  have same := (always chainedMethod grounded_chained (.var "A")).1
  exact absurd same (by decide)

end Method

end BuilderSynthesis.Code
