import BuilderSynthesis.Proofs.Identifier
import BuilderSynthesis.Proofs.Lists
import BuilderSynthesis.Proofs.Members

/-!
Contract: when the text of a signature determines the signature.

Texts of types put brackets around names of classes, and those of signatures around
types. Where the names of classes have no brackets themselves and none is that of a
primitive, no two types of fields and no two signatures of setters share a text.

Where fields are named by identifiers, the text determines at least the name.

Owns: `IsPlain`, the first condition, `IsSetterOf.eq_of_signature`, and
`propertyStem_eq_of_signature`.
-/

namespace BuilderSynthesis

open Code (Method TypeRef)

namespace Schema

/-- The characters that texts put around other texts. -/
def brackets : List Char :=
  ['(', ')', '[', ']', '<', '>']

/-- The element type is not a class with the name of a primitive or with brackets in its name. -/
def Element.IsPlain : Element → Prop
  | .primitive _ => True
  | .named className =>
      Primitive.ofName? className = none ∧ ∀ bracket ∈ brackets, bracket ∉ className.toList

instance (element : Element) : Decidable element.IsPlain :=
  match element with
  | .primitive _ => inferInstanceAs (Decidable True)
  | .named className =>
      @instDecidableAnd _ _ inferInstance
        (List.decidableBAll (fun bracket => bracket ∉ className.toList) brackets)

theorem Element.not_mem_text {element : Element} (plain : element.IsPlain) {bracket : Char}
    (member : bracket ∈ brackets) : bracket ∉ element.text.toList := by
  cases element with
  | primitive kind =>
      have none' : brackets.all (fun bracket => !kind.name.toList.contains bracket) = true := by
        cases kind <;> decide
      have absent := List.all_eq_true.1 none' bracket member
      simp only [List.contains_eq_mem, Bool.not_eq_true', decide_eq_false_iff_not] at absent
      exact absent
  | named className => exact plain.2 bracket member

theorem Element.eq_of_text {left right : Element} (plain : left.IsPlain) (too : right.IsPlain)
    (same : left.text = right.text) : left = right := by
  cases left with
  | primitive kind =>
      have known := Primitive.ofName?_name kind
      rw [show kind.name = right.text from same] at known
      cases right with
      | primitive other =>
          rw [show (Element.primitive other).text = other.name from rfl, Primitive.ofName?_name]
            at known
          rw [Option.some.inj known]
      | named className =>
          rw [show (Element.named className).text = className from rfl, too.1] at known
          cases known
  | named className =>
      cases right with
      | primitive other =>
          have known := Primitive.ofName?_name other
          rw [show other.name = className from same.symm, plain.1] at known
          cases known
      | named other => rw [show className = other from same]

end Schema

namespace Builder

open Schema (Cardinality Element Field brackets)

/-! ### Texts of types -/

/-- What the text of a type has before the text of the element type. -/
def opening : Cardinality → String
  | .list => "list<"
  | _ => ""

/-- What the text of a type has after the text of the element type. -/
def closing : Cardinality → String
  | .single => ""
  | .array => "[]"
  | .list => ">"

theorem text_ofField (element : Element) (cardinality : Cardinality) :
    (TypeRef.ofField element cardinality).text =
      opening cardinality ++ element.text ++ closing cardinality := by
  have inner : (TypeRef.ofElement element).text = element.text := by
    cases element <;> rfl
  cases cardinality with
  | single =>
      show (TypeRef.ofElement element).text = "" ++ element.text ++ ""
      rw [inner, String.empty_append, String.append_empty]
  | array =>
      show (TypeRef.ofElement element).text ++ "[]" = "" ++ element.text ++ "[]"
      rw [inner, String.empty_append]
  | list =>
      show "list<" ++ (TypeRef.ofElement element).text ++ ">" = "list<" ++ element.text ++ ">"
      rw [inner]

/-- Where the element type has no brackets, those of the text are of the cardinality. -/
theorem mem_text_ofField_iff {element : Element} (plain : element.IsPlain)
    (cardinality : Cardinality) {bracket : Char} (member : bracket ∈ brackets) :
    bracket ∈ (TypeRef.ofField element cardinality).text.toList ↔
      bracket ∈ (opening cardinality).toList ++ (closing cardinality).toList := by
  have absent := Element.not_mem_text plain member
  rw [text_ofField, String.toList_append, String.toList_append]
  simp only [List.mem_append, absent, or_false]

theorem paren_not_mem_text {element : Element} (plain : element.IsPlain)
    (cardinality : Cardinality) :
    '(' ∉ (TypeRef.ofField element cardinality).text.toList := by
  rw [mem_text_ofField_iff plain cardinality (by decide)]
  cases cardinality <;> decide

/-- Types of fields with one text are one type. -/
theorem ofField_eq_of_text {left right : Element} (plain : left.IsPlain) (too : right.IsPlain)
    {leftCount rightCount : Cardinality}
    (same : (TypeRef.ofField left leftCount).text = (TypeRef.ofField right rightCount).text) :
    TypeRef.ofField left leftCount = TypeRef.ofField right rightCount := by
  have counts : leftCount = rightCount := by
    have square := mem_text_ofField_iff plain leftCount (show ']' ∈ brackets by decide)
    have angle := mem_text_ofField_iff plain leftCount (show '>' ∈ brackets by decide)
    rw [same, mem_text_ofField_iff too rightCount (by decide)] at square angle
    revert square angle
    cases leftCount <;> cases rightCount <;> decide
  subst counts
  rw [text_ofField, text_ofField, String.append_left_inj, String.append_right_inj] at same
  rw [Element.eq_of_text plain too same]

/-! ### Texts of signatures -/

theorem IsSetterOf.signature_eq {builder : TypeRef} {field : Field} {method : Method}
    (setter : IsSetterOf builder field method) :
    method.signature =
      setterName field.name ++ "(" ++ (TypeRef.ofField field.element field.cardinality).text ++
        ")" := by
  unfold Method.signature
  rw [setter.name, setter.parameters]
  rfl

/-- Setters with one text of their signatures have one name and one parameter type. -/
theorem IsSetterOf.eq_of_signature {builder : TypeRef} {left right : Field}
    {method other : Method} (setter : IsSetterOf builder left method)
    (too : IsSetterOf builder right other) (plain : left.element.IsPlain)
    (plainToo : right.element.IsPlain) (same : method.signature = other.signature) :
    method.name = other.name ∧ method.erasedParameters = other.erasedParameters := by
  rw [setter.signature_eq, too.signature_eq, String.append_left_inj, ← String.toList_inj,
    String.toList_append, String.toList_append, String.toList_append, String.toList_append,
    List.append_assoc, List.append_assoc] at same
  obtain ⟨names, types⟩ := Lists.append_cons_inj_of_not_mem
    (paren_not_mem_text plain left.cardinality) (paren_not_mem_text plainToo right.cardinality)
    same
  rw [String.toList_inj] at names types
  rw [setter.name, too.name, setter.parameters, too.parameters, names,
    ofField_eq_of_text plain plainToo types]
  exact ⟨rfl, rfl⟩

/-! ### Names that are identifiers -/

theorem paren_not_mem_setterName {field : String} (identifier : Java.nameFault? field = none) :
    '(' ∉ (setterName field).toList :=
  (isIdentifier_setterName (Java.nameFault?_eq_none_iff.1 identifier)).not_mem (by decide)

/-- Setters of fields that are named by identifiers have different texts if the stems of the
fields differ. -/
theorem propertyStem_eq_of_signature {policy : Schema.Policy} {builder : TypeRef}
    {field other : Field} (identifier : Java.nameFault? field.name = none)
    (too : Java.nameFault? other.name = none)
    (same : (setterOf policy builder (Property.ofField field)).signature =
      (setterOf policy builder (Property.ofField other)).signature) :
    Schema.propertyStem field.name = Schema.propertyStem other.name := by
  rw [signature_setterOf, signature_setterOf, String.append_left_inj, ← String.toList_inj,
    String.toList_append, String.toList_append, String.toList_append, String.toList_append,
    List.append_assoc, List.append_assoc] at same
  have names := (Lists.cons_append_inj_of_not_mem (paren_not_mem_setterName identifier)
    (paren_not_mem_setterName too) same).1
  exact propertyStem_eq_of_setterName_eq (String.toList_inj.1 names)

end Builder

end BuilderSynthesis
