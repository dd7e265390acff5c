import BuilderSynthesis.Builder.Generation
import Mathlib.Data.List.Nodup

/-!
Contract: the setters of a builder, its own and the overrides of inherited ones.

Owns:
- what a setter is called and takes, whatever the policy is;
- `nodup_inheritedSetters` and `exists_of_mem`, that of the setters of all ancestors each
  signature is overridden once;
- `inheritedSetters_eq`, all overrides where no two properties have one setter.

Does not own: what setters do.
-/

namespace BuilderSynthesis.Builder

open BuilderSynthesis.Code (Method TypeRef)
open BuilderSynthesis.Schema (Cardinality DataClass Element Field Policy)

/-! ### One setter -/

/-- What types erase to depends on the type parameters only. -/
theorem erase_congr {method other : Method} (same : method.typeParameters = other.typeParameters)
    (type : TypeRef) : method.erase type = other.erase type := by
  induction type with
  | array element inductionHypothesis => rw [Method.erase, Method.erase, inductionHypothesis]
  | list element inductionHypothesis => rw [Method.erase, Method.erase, inductionHypothesis]
  | var parameter => simp only [Method.erase, Method.typeParameter?, same]
  | primitive kind => rfl
  | named className => rfl
  | unit => rfl

theorem erasedParameters_congr {method other : Method}
    (parameters : method.parameters = other.parameters)
    (same : method.typeParameters = other.typeParameters) :
    method.erasedParameters = other.erasedParameters := by
  unfold Method.erasedParameters
  rw [parameters, funext (erase_congr same)]

/-- Types of fields do not mention type parameters. -/
theorem erase_ofField (method : Method) (element : Element) (cardinality : Cardinality) :
    method.erase (.ofField element cardinality) = .ofField element cardinality := by
  cases element <;> cases cardinality <;> rfl

theorem type_parameter (policy : Policy) (field : Field) :
    ((Handling.ofProperty policy (Property.ofField field)).parameter
        (Property.ofField field)).type =
      .ofField field.element field.cardinality := by
  obtain ⟨name, element, cardinality, isStatic, doc⟩ := field
  cases cardinality <;> rfl

theorem erasedParameters_setterOf (policy : Policy) (builder : TypeRef) (field : Field) :
    (setterOf policy builder (Property.ofField field)).erasedParameters =
      [.ofField field.element field.cardinality] := by
  have single : (setterOf policy builder (Property.ofField field)).erasedParameters =
      [(setterOf policy builder (Property.ofField field)).erase
        ((Handling.ofProperty policy (Property.ofField field)).parameter
          (Property.ofField field)).type] := rfl
  rw [single, type_parameter, erase_ofField]

theorem signature_setterOf (policy : Policy) (builder : TypeRef) (field : Field) :
    (setterOf policy builder (Property.ofField field)).signature =
      setterName field.name ++ "(" ++ (TypeRef.ofField field.element field.cardinality).text ++
        ")" := by
  unfold Method.signature
  rw [erasedParameters_setterOf]
  rfl

/-- A method sets a field, for a builder, if it has the name, the parameters and the result of
the setter. -/
structure IsSetterOf (builder : TypeRef) (field : Field) (method : Method) : Prop where
  name : method.name = setterName field.name
  parameters : method.erasedParameters = [.ofField field.element field.cardinality]
  returns : method.returns = some builder
  isInstance : method.isStatic = false

theorem isSetterOf_setterOf (policy : Policy) (builder : TypeRef) (field : Field) :
    IsSetterOf builder field (setterOf policy builder (Property.ofField field)) :=
  ⟨rfl, erasedParameters_setterOf policy builder field, rfl, rfl⟩

/-- What overrides the setter of a property, which may be hidden. -/
def override (policy : Policy) (builder : TypeRef) (hidden : List String) (property : Property) :
    Method :=
  overriding
    (if hidden.contains property.name then
      delegating property (setterOf policy builder property)
    else
      setterOf policy builder property)

theorem erasedParameters_override (policy : Policy) (builder : TypeRef) (hidden : List String)
    (property : Property) :
    (override policy builder hidden property).erasedParameters =
      (setterOf policy builder property).erasedParameters := by
  unfold override
  split
  · exact erasedParameters_congr rfl rfl
  · exact erasedParameters_congr rfl rfl

theorem name_override (policy : Policy) (builder : TypeRef) (hidden : List String)
    (property : Property) :
    (override policy builder hidden property).name = property.setter := by
  unfold override
  split <;> rfl

theorem signature_override (policy : Policy) (builder : TypeRef) (hidden : List String)
    (property : Property) :
    (override policy builder hidden property).signature =
      (setterOf policy builder property).signature := by
  unfold Method.signature
  rw [erasedParameters_override, name_override]
  rfl

theorem isSetterOf_override (policy : Policy) (builder : TypeRef) (hidden : List String)
    (field : Field) :
    IsSetterOf builder field (override policy builder hidden (Property.ofField field)) := by
  constructor
  · exact name_override policy builder hidden (Property.ofField field)
  · rw [erasedParameters_override, erasedParameters_setterOf]
  · unfold override
    split <;> rfl
  · unfold override
    split <;> rfl

theorem setterName_ne_of_head {field name : String} (head : name.toList.head? ≠ some 'w') :
    setterName field ≠ name := by
  rintro rfl
  apply head
  unfold setterName
  rw [String.toList_append]
  rfl

/-- Fields with one setter name have one stem. -/
theorem propertyStem_eq_of_setterName_eq {field other : String}
    (same : setterName field = setterName other) :
    Schema.propertyStem field = Schema.propertyStem other :=
  (String.append_right_inj "with").1 same

/-! ### The overrides for one ancestor -/

section

variable (policy : Policy) (builder : TypeRef) (hidden : List String)

/-- What counts as declared afterwards are the overrides and what was declared before. -/
theorem snd_overridesOf (properties : List Property) (declared : List String) :
    (overridesOf policy builder hidden properties declared).2 =
      ((overridesOf policy builder hidden properties declared).1.map Method.signature).reverse ++
        declared := by
  induction properties generalizing declared with
  | nil => rfl
  | cons property rest inductionHypothesis =>
      unfold overridesOf
      by_cases known : declared.contains (setterOf policy builder property).signature = true
      · simp only [known, if_true]
        exact inductionHypothesis declared
      · simp only [known, Bool.false_eq_true, if_false]
        rw [inductionHypothesis, List.map_cons, List.reverse_cons, List.append_assoc]
        change _ = _ ++ ([(override policy builder hidden property).signature] ++ declared)
        rw [signature_override]
        rfl

/-- No override has the signature of another or one that was declared. -/
theorem nodup_overridesOf (properties : List Property) (declared : List String) :
    ((overridesOf policy builder hidden properties declared).1.map Method.signature).Nodup ∧
      ∀ method ∈ (overridesOf policy builder hidden properties declared).1,
        method.signature ∉ declared := by
  induction properties generalizing declared with
  | nil => exact ⟨List.nodup_nil, fun _ member => nomatch member⟩
  | cons property rest inductionHypothesis =>
      unfold overridesOf
      by_cases known : declared.contains (setterOf policy builder property).signature = true
      · simp only [known, if_true]
        exact inductionHypothesis declared
      · simp only [known, Bool.false_eq_true, if_false]
        obtain ⟨distinct, fresh⟩ :=
          inductionHypothesis ((setterOf policy builder property).signature :: declared)
        have text := signature_override policy builder hidden property
        have first : (override policy builder hidden property).signature ∉ declared := by
          rwa [text, ← List.contains_iff_mem]
        constructor
        · refine List.nodup_cons.2 ⟨fun again => ?_, distinct⟩
          obtain ⟨method, member, same⟩ := List.mem_map.1 again
          exact fresh method member (List.mem_cons.2 (.inl (same.trans text)))
        · intro method member
          rcases List.mem_cons.1 member with rfl | later
          · exact first
          · exact fun before => fresh method later (List.mem_cons_of_mem _ before)

theorem mem_snd_overridesOf {properties : List Property} {property : Property}
    (member : property ∈ properties) (declared : List String) :
    (setterOf policy builder property).signature ∈
      (overridesOf policy builder hidden properties declared).2 := by
  have keeps : ∀ (others : List Property) (known : List String) (text : String), text ∈ known →
      text ∈ (overridesOf policy builder hidden others known).2 := by
    intro others known text there
    rw [snd_overridesOf]
    exact List.mem_append_right _ there
  induction properties generalizing declared with
  | nil => cases member
  | cons first rest inductionHypothesis =>
      unfold overridesOf
      by_cases known : declared.contains (setterOf policy builder first).signature = true
      · simp only [known, if_true]
        rcases List.mem_cons.1 member with rfl | later
        · exact keeps rest declared _ (List.contains_iff_mem.1 known)
        · exact inductionHypothesis later declared
      · simp only [known, Bool.false_eq_true, if_false]
        rcases List.mem_cons.1 member with rfl | later
        · exact keeps rest _ _ List.mem_cons_self
        · exact inductionHypothesis later _

theorem of_mem_overridesOf {policy : Policy} {builder : TypeRef} {hidden : List String}
    {properties : List Property} {declared : List String}
    {method : Method}
    (member : method ∈ (overridesOf policy builder hidden properties declared).1) :
    ∃ property ∈ properties, method = override policy builder hidden property := by
  induction properties generalizing declared with
  | nil => cases member
  | cons property rest inductionHypothesis =>
      unfold overridesOf at member
      by_cases known : declared.contains (setterOf policy builder property).signature = true
      · simp only [known, if_true] at member
        obtain ⟨other, later, same⟩ := inductionHypothesis member
        exact ⟨other, List.mem_cons_of_mem property later, same⟩
      · simp only [known, Bool.false_eq_true, if_false] at member
        rcases List.mem_cons.1 member with same | later
        · exact ⟨property, List.mem_cons_self, same⟩
        · obtain ⟨other, others, same⟩ := inductionHypothesis later
          exact ⟨other, List.mem_cons_of_mem property others, same⟩

/-- Where no signature is declared twice and no property is hidden, every setter is overridden. -/
theorem fst_overridesOf_eq {policy : Policy} {builder : TypeRef} {hidden : List String}
    {properties : List Property} {declared : List String}
    (distinct : (properties.map (fun property =>
      (setterOf policy builder property).signature)).Nodup)
    (fresh : ∀ property ∈ properties, (setterOf policy builder property).signature ∉ declared)
    (visible : ∀ property ∈ properties, property.name ∉ hidden) :
    (overridesOf policy builder hidden properties declared).1 =
      properties.map (fun property => overriding (setterOf policy builder property)) := by
  induction properties generalizing declared with
  | nil => rfl
  | cons property rest inductionHypothesis =>
      rw [List.map_cons, List.nodup_cons] at distinct
      rw [List.forall_mem_cons] at fresh visible
      have unknown : declared.contains (setterOf policy builder property).signature = false := by
        rw [← Bool.not_eq_true, List.contains_iff_mem]
        exact fresh.1
      have shown : hidden.contains property.name = false := by
        rw [← Bool.not_eq_true, List.contains_iff_mem]
        exact visible.1
      have later : ∀ other ∈ rest, (setterOf policy builder other).signature ∉
          (setterOf policy builder property).signature :: declared := by
        intro other member again
        rcases List.mem_cons.1 again with same | before
        · exact distinct.1 (List.mem_map.2 ⟨other, member, same⟩)
        · exact fresh.2 other member before
      unfold overridesOf
      simp only [unknown, shown, Bool.false_eq_true, if_false, List.map_cons,
        inductionHypothesis distinct.2 later visible.2]

end

/-! ### The overrides for all ancestors -/

section

variable {policy : Policy} {builder : TypeRef}

theorem inheritedSetters_cons (ancestor : DataClass) (rest : List DataClass)
    (declared hidden : List String) :
    inheritedSetters policy builder (ancestor :: rest) declared hidden =
      (overridesOf policy builder hidden (ownProperties ancestor) declared).1 ++
        inheritedSetters policy builder rest
          (overridesOf policy builder hidden (ownProperties ancestor) declared).2
          ((ownProperties ancestor).map Property.name ++ hidden) :=
  rfl

theorem of_mem_inheritedSetters {ancestors : List DataClass} {declared hidden : List String}
    {method : Method}
    (member : method ∈ inheritedSetters policy builder ancestors declared hidden) :
    ∃ ancestor ∈ ancestors, ∃ property ∈ ownProperties ancestor, ∃ names,
      method = override policy builder names property := by
  induction ancestors generalizing declared hidden with
  | nil => cases member
  | cons ancestor rest inductionHypothesis =>
      rw [inheritedSetters_cons] at member
      rcases List.mem_append.1 member with here | later
      · obtain ⟨property, own, same⟩ := of_mem_overridesOf here
        exact ⟨ancestor, List.mem_cons_self, property, own, hidden, same⟩
      · obtain ⟨other, above, found⟩ := inductionHypothesis later
        exact ⟨other, List.mem_cons_of_mem ancestor above, found⟩

/-- No override has the signature of another or one that was declared. -/
theorem nodup_inheritedSetters (ancestors : List DataClass) (declared hidden : List String) :
    ((inheritedSetters policy builder ancestors declared hidden).map Method.signature).Nodup ∧
      ∀ method ∈ inheritedSetters policy builder ancestors declared hidden,
        method.signature ∉ declared := by
  induction ancestors generalizing declared hidden with
  | nil => exact ⟨List.nodup_nil, fun _ member => nomatch member⟩
  | cons ancestor rest inductionHypothesis =>
      rw [inheritedSetters_cons]
      have first := nodup_overridesOf policy builder hidden (ownProperties ancestor) declared
      have others := inductionHypothesis
        (overridesOf policy builder hidden (ownProperties ancestor) declared).2
        ((ownProperties ancestor).map Property.name ++ hidden)
      rw [snd_overridesOf] at others
      constructor
      · rw [List.map_append, snd_overridesOf]
        refine List.nodup_append.2 ⟨first.1, others.1, ?_⟩
        intro text here other later same
        obtain ⟨method, member, rfl⟩ := List.mem_map.1 later
        apply others.2 method member
        exact List.mem_append_left _ (List.mem_reverse.2 (same ▸ here))
      · intro method member
        rw [snd_overridesOf] at member
        rcases List.mem_append.1 member with here | later
        · exact first.2 method here
        · exact fun before => others.2 method later (List.mem_append_right _ before)

/-- The setter of every property of an ancestor is declared or overridden. -/
theorem exists_of_mem {ancestors : List DataClass} {ancestor : DataClass}
    (above : ancestor ∈ ancestors) {property : Property}
    (own : property ∈ ownProperties ancestor) (declared hidden : List String) :
    (setterOf policy builder property).signature ∈
      declared ++ (inheritedSetters policy builder ancestors declared hidden).map
        Method.signature := by
  induction ancestors generalizing declared hidden with
  | nil => cases above
  | cons first rest inductionHypothesis =>
      rw [inheritedSetters_cons, List.map_append]
      rcases List.mem_cons.1 above with rfl | later
      · have known := mem_snd_overridesOf policy builder hidden own declared
        rw [snd_overridesOf, List.mem_append, List.mem_reverse] at known
        rcases known with overridden | before
        · exact List.mem_append_right _ (List.mem_append_left _ overridden)
        · exact List.mem_append_left _ before
      · have found := inductionHypothesis later
          (overridesOf policy builder hidden (ownProperties first) declared).2
          ((ownProperties first).map Property.name ++ hidden)
        rcases List.mem_append.1 found with known | overridden
        · rw [snd_overridesOf, List.mem_append, List.mem_reverse] at known
          rcases known with here | before
          · exact List.mem_append_right _ (List.mem_append_left _ here)
          · exact List.mem_append_left _ before
        · exact List.mem_append_right _ (List.mem_append_right _ overridden)

/-- Where no two properties have one signature or one name, every inherited setter is
overridden, and each by a setter of its own. -/
theorem inheritedSetters_eq {ancestors : List DataClass} {declared hidden : List String}
    (distinct : (declared ++ (ancestors.flatMap ownProperties).map (fun property =>
      (setterOf policy builder property).signature)).Nodup)
    (visible : (hidden ++ (ancestors.flatMap ownProperties).map Property.name).Nodup) :
    inheritedSetters policy builder ancestors declared hidden =
      (ancestors.flatMap ownProperties).map (fun property =>
        overriding (setterOf policy builder property)) := by
  induction ancestors generalizing declared hidden with
  | nil => rfl
  | cons ancestor rest inductionHypothesis =>
      rw [List.flatMap_cons, List.map_append] at distinct visible
      have signatures := List.nodup_append.1 distinct
      have names := List.nodup_append.1 visible
      have first : (overridesOf policy builder hidden (ownProperties ancestor) declared).1 =
          (ownProperties ancestor).map (fun property =>
            overriding (setterOf policy builder property)) := by
        apply fst_overridesOf_eq (List.nodup_append.1 signatures.2.1).1
        · intro property member known
          exact signatures.2.2 _ known _
            (List.mem_append_left _ (List.mem_map.2 ⟨property, member, rfl⟩)) rfl
        · intro property member known
          exact names.2.2 _ known _
            (List.mem_append_left _ (List.mem_map.2 ⟨property, member, rfl⟩)) rfl
      have texts : ∀ property : Property,
          (overriding (setterOf policy builder property)).signature =
            (setterOf policy builder property).signature := by
        intro property
        exact signature_override policy builder [] property
      have after : (overridesOf policy builder hidden (ownProperties ancestor) declared).2.Perm
          (declared ++ (ownProperties ancestor).map (fun property =>
            (setterOf policy builder property).signature)) := by
        rw [snd_overridesOf, first, List.map_map, show Method.signature ∘ (fun property =>
          overriding (setterOf policy builder property)) =
            fun property => (setterOf policy builder property).signature from funext texts]
        exact ((List.reverse_perm _).append_right declared).trans List.perm_append_comm
      rw [inheritedSetters_cons, List.flatMap_cons, List.map_append, first, inductionHypothesis]
      · rw [← List.append_assoc] at distinct
        exact (after.append_right _).nodup_iff.2 distinct
      · rw [← List.append_assoc] at visible
        exact (List.perm_append_comm.append_right _).nodup_iff.2 visible

end

end BuilderSynthesis.Builder
