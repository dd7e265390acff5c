import BuilderSynthesis.Proofs.Covariance
import Mathlib.Data.List.Pairwise

/-!
Contract: how a builder overrides the setter of a property that nearer classes may hide.

A class nearer than the one that declares a property decides two things. A setter there with the
same name and type takes the place of this one. A field there with the same name only makes the
override leave the storing to the class above.

Owns: `SameSetter`, `hiddenBy`, and `override_mem_builderMethods`.
-/

namespace BuilderSynthesis.Builder

open Code (Method TypeRef)
open Schema (DataClass Field Policy)

/-- Two fields have setters with one name and one parameter type. -/
def SameSetter (field other : Field) : Prop :=
  setterName field.name = setterName other.name ∧
    TypeRef.ofField field.element field.cardinality = .ofField other.element other.cardinality

instance (field other : Field) : Decidable (SameSetter field other) :=
  inferInstanceAs (Decidable (_ ∧ _))

theorem SameSetter.symm {field other : Field} (same : SameSetter field other) :
    SameSetter other field :=
  ⟨same.1.symm, same.2.symm⟩

theorem sameSignature_setterOf_iff (policy : Policy) (builder : TypeRef) (field other : Field) :
    (setterOf policy builder (Property.ofField field)).sameSignature
        (setterOf policy builder (Property.ofField other)) = true ↔ SameSetter field other := by
  have one := isSetterOf_setterOf policy builder field
  have two := isSetterOf_setterOf policy builder other
  unfold Method.sameSignature
  rw [one.name, two.name, one.parameters, two.parameters, Bool.and_eq_true, beq_iff_eq, beq_iff_eq,
    List.cons.injEq]
  simp only [and_true]
  rfl

/-- The texts of signatures tell setters apart. -/
theorem sameSetter_of_signature {policy : Policy} {builder : TypeRef} {field other : Field}
    (plain : field.element.IsPlain) (too : other.element.IsPlain)
    (same : (setterOf policy builder (Property.ofField field)).signature =
      (setterOf policy builder (Property.ofField other)).signature) : SameSetter field other := by
  have one := isSetterOf_setterOf policy builder field
  have two := isSetterOf_setterOf policy builder other
  obtain ⟨names, types⟩ := one.eq_of_signature two plain too same
  rw [one.name, two.name] at names
  rw [one.parameters, two.parameters] at types
  exact ⟨names, (List.cons.inj types).1⟩

/-- The names of properties of some classes, and some more names. -/
def hiddenBy (classes : List DataClass) (hidden : List String) : List String :=
  classes.foldl (fun names dataClass => (ownProperties dataClass).map Property.name ++ names) hidden

theorem mem_hiddenBy_iff (classes : List DataClass) (hidden : List String) (name : String) :
    name ∈ hiddenBy classes hidden ↔
      name ∈ hidden ∨ ∃ dataClass ∈ classes, ∃ field ∈ dataClass.instanceFields,
        field.name = name := by
  induction classes generalizing hidden with
  | nil => simp [hiddenBy]
  | cons first rest inductionHypothesis =>
      have own : name ∈ (ownProperties first).map Property.name ↔
          ∃ field ∈ first.instanceFields, field.name = name := by
        simp [ownProperties, Property.ofField]
      show name ∈ hiddenBy rest ((ownProperties first).map Property.name ++ hidden) ↔ _
      rw [inductionHypothesis, List.mem_append, own, List.exists_mem_cons_iff, or_assoc,
        or_left_comm]

section

variable {policy : Policy} {builder : TypeRef} {property : Property}

/-- A setter that is not declared yet is overridden. -/
theorem override_mem_overridesOf {hidden declared : List String} {properties : List Property}
    (member : property ∈ properties)
    (fresh : (setterOf policy builder property).signature ∉ declared)
    (only : ∀ other ∈ properties, (setterOf policy builder other).signature =
      (setterOf policy builder property).signature → other = property) :
    override policy builder hidden property ∈
      (overridesOf policy builder hidden properties declared).1 := by
  induction properties generalizing declared with
  | nil => cases member
  | cons first rest inductionHypothesis =>
      rw [List.forall_mem_cons] at only
      unfold overridesOf
      by_cases own : first = property
      · have unknown : ¬ declared.contains (setterOf policy builder first).signature = true := by
          rwa [own, List.contains_iff_mem]
        simp only [unknown, Bool.false_eq_true, if_false]
        exact List.mem_cons.2 (.inl (own ▸ rfl))
      · have later := (List.mem_cons.1 member).resolve_left (Ne.symm own)
        by_cases known : declared.contains (setterOf policy builder first).signature = true
        · simp only [known, if_true]
          exact inductionHypothesis later fresh only.2
        · simp only [known, Bool.false_eq_true, if_false]
          refine List.mem_cons_of_mem _ (inductionHypothesis later ?_ only.2)
          rw [List.mem_cons, not_or]
          exact ⟨fun same => own (only.1 same.symm), fresh⟩

/-- The setter of a property is overridden unless a nearer class has one with its signature. -/
theorem override_mem_inheritedSetters {holder : DataClass} (own : property ∈ ownProperties holder)
    (only : ∀ other ∈ ownProperties holder, (setterOf policy builder other).signature =
      (setterOf policy builder property).signature → other = property)
    {before after : List DataClass} {declared hidden : List String}
    (fresh : (setterOf policy builder property).signature ∉ declared)
    (nearer : ∀ dataClass ∈ before, ∀ other ∈ ownProperties dataClass,
      (setterOf policy builder other).signature ≠ (setterOf policy builder property).signature) :
    override policy builder (hiddenBy before hidden) property ∈
      inheritedSetters policy builder (before ++ holder :: after) declared hidden := by
  induction before generalizing declared hidden with
  | nil =>
      rw [List.nil_append, inheritedSetters_cons]
      exact List.mem_append_left _ (override_mem_overridesOf own fresh only)
  | cons first rest inductionHypothesis =>
      rw [List.forall_mem_cons] at nearer
      rw [List.cons_append, inheritedSetters_cons]
      refine List.mem_append_right _ (inductionHypothesis ?_ nearer.2)
      rw [snd_overridesOf, List.mem_append, not_or]
      refine ⟨fun overridden => ?_, fresh⟩
      obtain ⟨method, member, same⟩ := List.mem_map.1 (List.mem_reverse.1 overridden)
      obtain ⟨other, known, rfl⟩ := of_mem_overridesOf member
      rw [signature_override] at same
      exact nearer.1 other known same

end

/-! ### The methods of a builder -/

section

variable {policy : Policy} {productType builderType : TypeRef} {dataClass : DataClass}
  {ancestors : List DataClass}

/-- No two fields of a class have the same setter. -/
def SettersApart (dataClass : DataClass) : Prop :=
  dataClass.instanceFields.Pairwise (fun field other => ¬ SameSetter field other)

theorem distinctSignatures_own_iff (policy : Policy) (builder : TypeRef) (dataClass : DataClass) :
    DistinctSignatures ((ownProperties dataClass).map (setterOf policy builder)) ↔
      SettersApart dataClass := by
  unfold DistinctSignatures ownProperties SettersApart
  rw [List.map_map, List.pairwise_map]
  refine List.Pairwise.iff ?_
  intro field other
  rw [← sameSignature_setterOf_iff policy builder, Bool.not_eq_true]
  rfl

/-- The setters of a class with a builder are apart. -/
theorem settersApart_of_distinct
    (distinct : DistinctSignatures
      (builderMethods policy productType builderType dataClass ancestors)) :
    SettersApart dataClass := by
  refine (distinctSignatures_own_iff policy builderType dataClass).1 ?_
  refine List.Pairwise.sublist ?_ distinct
  unfold builderMethods
  rw [List.append_assoc, List.append_assoc]
  exact List.sublist_append_left _ _

/-- A class with a builder has no two fields with the same setter. -/
theorem field_unique
    (distinct : DistinctSignatures
      (builderMethods policy productType builderType dataClass ancestors))
    {field other : Field} (declares : field ∈ dataClass.instanceFields)
    (too : other ∈ dataClass.instanceFields) (same : SameSetter field other) : field = other := by
  by_contra different
  have symmetric : Std.Symm (fun field other => ¬ SameSetter field other) :=
    ⟨fun _ _ different same => different same.symm⟩
  exact (settersApart_of_distinct distinct).forall declares too different same

theorem setter_mem_builderMethods {field : Field} (declares : field ∈ dataClass.instanceFields) :
    setterOf policy builderType (Property.ofField field) ∈
      builderMethods policy productType builderType dataClass ancestors := by
  unfold builderMethods
  simp only [List.mem_append]
  exact .inl (.inl (.inl (List.mem_map_of_mem (List.mem_map_of_mem declares))))

/-- A builder overrides the setter of a property of a class above, unless a nearer class has a
setter with the same name and type. -/
theorem override_mem_builderMethods {holder : DataClass} {before after : List DataClass}
    (split : ancestors = before ++ holder :: after) {field : Field}
    (declares : field ∈ holder.instanceFields)
    (plain : ∀ other ∈ dataClass :: (before ++ [holder]), ∀ declared ∈ other.instanceFields,
      declared.element.IsPlain)
    (only : ∀ other ∈ holder.instanceFields, SameSetter other field → other = field)
    (nearer : ∀ other ∈ dataClass :: before, ∀ declared ∈ other.instanceFields,
      ¬ SameSetter declared field) :
    override policy builderType (hiddenBy (dataClass :: before) []) (Property.ofField field) ∈
      builderMethods policy productType builderType dataClass ancestors := by
  have texts : ∀ other ∈ dataClass :: (before ++ [holder]), ∀ declared ∈ other.instanceFields,
      (setterOf policy builderType (Property.ofField declared)).signature =
        (setterOf policy builderType (Property.ofField field)).signature →
      SameSetter declared field := by
    intro other member declared own same
    have last : holder ∈ dataClass :: (before ++ [holder]) :=
      List.mem_cons_of_mem _ (List.mem_append_right _ (List.mem_singleton_self holder))
    exact sameSetter_of_signature (plain other member declared own)
      (plain holder last field declares)
      same
  have fresh : (setterOf policy builderType (Property.ofField field)).signature ∉
      (ownProperties dataClass).map (fun property =>
        (setterOf policy builderType property).signature) := by
    intro declared
    obtain ⟨property, member, same⟩ := List.mem_map.1 declared
    obtain ⟨other, own, rfl⟩ := List.mem_map.1 member
    exact nearer dataClass List.mem_cons_self other own
      (texts dataClass List.mem_cons_self other own same)
  have inherited : override policy builderType (hiddenBy (dataClass :: before) [])
      (Property.ofField field) ∈ inheritedSetters policy builderType ancestors
        ((ownProperties dataClass).map (fun property =>
          (setterOf policy builderType property).signature))
        ((ownProperties dataClass).map Property.name) := by
    have start : hiddenBy (dataClass :: before) [] =
        hiddenBy before ((ownProperties dataClass).map Property.name) := by
      show hiddenBy before ((ownProperties dataClass).map Property.name ++ []) = _
      rw [List.append_nil]
    rw [split, start]
    apply override_mem_inheritedSetters (List.mem_map_of_mem declares) ?_ fresh
    · intro other member property own same
      obtain ⟨declared, instance', rfl⟩ := List.mem_map.1 own
      have above : other ∈ dataClass :: (before ++ [holder]) :=
        List.mem_cons_of_mem _ (List.mem_append_left _ member)
      exact nearer other (List.mem_cons_of_mem _ member) declared instance'
        (texts other above declared instance' same)
    · intro property own same
      obtain ⟨declared, instance', rfl⟩ := List.mem_map.1 own
      have last : holder ∈ dataClass :: (before ++ [holder]) :=
        List.mem_cons_of_mem _ (List.mem_append_right _ (List.mem_singleton_self holder))
      rw [only declared instance' (texts holder last declared instance' same)]
  unfold builderMethods
  simp only [List.mem_append]
  exact .inl (.inr inherited)

end

end BuilderSynthesis.Builder
