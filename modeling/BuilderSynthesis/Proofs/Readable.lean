import BuilderSynthesis.Proofs.Legality
import BuilderSynthesis.Proofs.Provenance
import BuilderSynthesis.Proofs.Reading

/-!
Contract: the expressions that runs write, and what Java reads from them.

A generated body passes lists on only as the whole of a value that is stored, and makes new objects
of classes only. So with legal names every expression of a run reads back.

Owns: `isLegal_of_legal`, `readable_of_mem_builderMethods` and `Completes.values_read_back`.
-/

namespace BuilderSynthesis

/-! ### Parts of parts -/

namespace Code

theorem Expression.mem_within_trans {expression part inner : Expression}
    (outside : part ∈ expression.within) (inside : inner ∈ part.within) :
    inner ∈ expression.within := by
  induction expression using induction_on_operands with
  | step expression inductionHypothesis =>
      rw [within_eq_cons] at outside ⊢
      rcases List.mem_cons.1 outside with rfl | deeper
      · rwa [within_eq_cons] at inside
      · obtain ⟨operand, member, there⟩ := List.mem_flatMap.1 deeper
        exact List.mem_cons_of_mem _
          (List.mem_flatMap.2 ⟨operand, member, inductionHypothesis operand member there⟩)

theorem Statement.mem_within_trans {statement : Statement} {part inner : Expression}
    (outside : part ∈ statement.within) (inside : inner ∈ part.within) :
    inner ∈ statement.within := by
  cases statement with
  | assign target value =>
      rcases List.mem_append.1 outside with left | right
      · exact List.mem_append_left _ (Expression.mem_within_trans left inside)
      · exact List.mem_append_right _ (Expression.mem_within_trans right inside)
  | «return» value =>
      cases value with
      | none => cases outside
      | some value => exact Expression.mem_within_trans outside inside
  | evaluate value => exact Expression.mem_within_trans outside inside

end Code

/-! ### Legal names -/

namespace Java

open Code (Expression TypeRef)

theorem ne_of_isUsable {name : String} (usable : IsUsable name) : name ∉ contextualWords := by
  have reserved : ∀ word ∈ contextualWords, isReserved word = true := by decide
  intro member
  exact absurd usable.2 (by rw [reserved name member]; exact Bool.noConfusion)

theorem isLegalType_of_legal {type : TypeRef} (legal : type.Legal) : isLegalType type = true := by
  induction type with
  | array element inductionHypothesis | list element inductionHypothesis =>
      exact inductionHypothesis legal
  | named className =>
      have segments : (Text.dottedSegments className).all isLegalName = true :=
        List.all_eq_true.2 fun segment member => (legal segment member).isLegalName
      have last := ne_of_isUsable (legal _ (Text.afterLastDot_mem className))
      simp [isLegalType, segments, last]
  | var parameter =>
      have name := IsUsable.isLegalName legal
      simp [isLegalType, name, ne_of_isUsable legal]
  | _ => rfl

/-- An expression with names that schemas can use has names that Java admits. -/
theorem isLegal_of_legal {expression : Expression} (legal : expression.Legal)
    (plain : isNumber expression = false) : isLegal expression = true := by
  cases expression with
  | int => cases plain
  | ident name | field target name | superCall method arguments =>
      exact IsUsable.isLegalName legal
  | new type => exact isLegalType_of_legal legal
  | call target method arguments =>
      have name : Java.isLegalName method = true := IsUsable.isLegalName legal
      have other : method ≠ "yield" := by
        rintro rfl
        exact ne_of_isUsable legal (by decide)
      cases target <;> simp [isLegal, name, other]
  | _ => rfl

end Java

/-! ### Generated bodies -/

namespace Builder

open Code (Expression Method Statement TypeRef)
open Java (isNumber isReadable)
open Schema (DataClass Policy)

/-- Every expression in a statement is where it can be read, and no number. -/
def IsReadable (statement : Statement) : Prop :=
  ∀ part ∈ statement.within, isReadable part = true ∧ isNumber part = false

theorem isReadable_initStatementOf (policy : Policy) (property : Property) :
    IsReadable (initStatementOf policy property) := by
  unfold initStatementOf Handling.initStatement Handling.handedOver
  split <;> simp [IsReadable, Statement.within, Expression.within, Expression.ownField, product,
    isReadable, Java.isScannable, Java.isPlaced, Java.isChoice, isNumber]

theorem isReadable_initEnd (ancestors : List DataClass) : IsReadable (initEnd ancestors) := by
  cases ancestors <;> simp [initEnd, IsReadable, Statement.within, Expression.within,
    Expression.withinAll, product, isReadable, Java.isScannable, Java.isPlaced, isNumber]

theorem isReadable_setterOf (policy : Policy) (builder : TypeRef) (property : Property) :
    ∀ statement ∈ (setterOf policy builder property).body, IsReadable statement := by
  unfold setterOf Handling.setter Handling.stored
  split <;> simp [IsReadable, Statement.within, Expression.within, Expression.ownField,
    isReadable, Java.isScannable, Java.isPlaced, Java.isChoice, isNumber]

theorem isReadable_override (policy : Policy) (builder : TypeRef) (hidden : List String)
    (property : Property) :
    ∀ statement ∈ (override policy builder hidden property).body, IsReadable statement := by
  unfold override overriding
  split
  · simp [delegating, IsReadable, Statement.within, Expression.within, Expression.withinAll,
      isReadable, Java.isScannable, Java.isPlaced, isNumber]
  · exact isReadable_setterOf policy builder property

theorem isReadable_buildMethod (dataClass : DataClass) (product : String) :
    ∀ statement ∈ (buildMethod dataClass (.named product)).body, IsReadable statement := by
  simp [buildMethod, IsReadable, Statement.within, Expression.within, Expression.withinAll,
    isReadable, Java.isScannable, Java.isPlaced, Java.isChoice, isNumber, Java.isInstantiable,
    Java.isValued, Java.typeKind]

theorem isReadable_factoryMethod (dataClass : DataClass) (builder : String) :
    ∀ statement ∈ (factoryMethod dataClass (.named builder)).body, IsReadable statement := by
  simp [factoryMethod, IsReadable, Statement.within, Expression.within, isReadable,
    Java.isScannable, Java.isPlaced, isNumber, Java.isInstantiable, Java.isValued, Java.typeKind]

theorem readable_of_mem_builderMethods {policy : Policy} {product builder : String}
    {dataClass : DataClass} {ancestors : List DataClass} {method : Method}
    (member : method ∈ builderMethods policy (.named product) (.named builder) dataClass
      ancestors) :
    ∀ statement ∈ method.body, IsReadable statement := by
  simp only [builderMethods, List.mem_append, List.mem_singleton] at member
  rcases member with ((setter | init) | inherited) | build
  · obtain ⟨property, -, rfl⟩ := List.mem_map.1 setter
    exact isReadable_setterOf policy (.named builder) property
  · subst init
    intro statement inside
    rcases List.mem_append.1 inside with early | last
    · obtain ⟨property, -, rfl⟩ := List.mem_map.1 early
      exact isReadable_initStatementOf policy property
    · rw [List.mem_singleton.1 last]
      exact isReadable_initEnd ancestors
  · obtain ⟨ancestor, -, property, -, hidden, rfl⟩ := of_mem_inheritedSetters inherited
    exact isReadable_override policy (.named builder) hidden property
  · split at build
    · cases build
    · rw [List.mem_singleton.1 build]
      exact isReadable_buildMethod dataClass product

theorem readable_of_mem_productMethods {builder : String} {dataClass : DataClass} {method : Method}
    (member : method ∈ productMethods dataClass (.named builder)) :
    ∀ statement ∈ method.body, IsReadable statement := by
  unfold productMethods at member
  split at member
  · cases member
  · rw [List.mem_singleton.1 member]
    exact isReadable_factoryMethod dataClass builder

/-- The fields of a builder start with null if they have an initial value. -/
theorem initializer_of_mem_builderFields {policy : Policy} {dataClass : DataClass}
    {field : Code.Field} (member : field ∈ builderFields policy dataClass) {initial : Expression}
    (starts : field.initializer = some initial) : initial = .null := by
  obtain ⟨property, -, rfl⟩ := List.mem_map.1 member
  unfold Handling.field at starts
  split at starts <;> cases starts
  rfl

end Builder

/-! ### Runs -/

namespace Run

open Builder (Workshop)
open Code (Declaration Expression TypeId)
open Java (IsUsable ReadsAs expressionText tree)
open Schema (Hierarchy)

/-- With legal names in the classes, every expression in the types of a run reads back. -/
theorem Completes.values_read_back {hierarchy : Hierarchy} {config : Config} {workshop : Workshop}
    (completes : Completes hierarchy config workshop) (usable : IsUsable config.builderName)
    (legal : ∀ dataClass ∈ hierarchy.classes, dataClass.Legal) {id : TypeId}
    {declaration : Declaration} (found : workshop.model.get? id = some declaration)
    {value : Expression}
    (written : (∃ method ∈ declaration.methods, ∃ statement ∈ method.body,
        value ∈ statement.within) ∨
      ∃ field ∈ declaration.fields, field.initializer = some value)
    (package : Option String) (read : Java.Tree) :
    ReadsAs (expressionText package value) read ↔ read = tree package value := by
  have names := (legal_iff_of_completes usable completes).2 legal id declaration found
  rcases written with ⟨method, member, statement, inside, here⟩ | ⟨field, member, starts⟩
  · have readable : Builder.IsReadable statement := by
      obtain ⟨dataClass, -, product, builder, ⟨ancestors, -, ofBuilder⟩ | ofProduct⟩ :=
        completes.method_cases found member
      · exact Builder.readable_of_mem_builderMethods ofBuilder statement inside
      · exact Builder.readable_of_mem_productMethods ofProduct statement inside
    have each : ∀ part ∈ value.within, Java.isLegal part = true ∧ Java.isReadable part = true := by
      intro part deeper
      have there := Code.Statement.mem_within_trans here deeper
      have ⟨readable, plain⟩ := readable part there
      have legal := (names.methods method member).body statement inside part there
      exact ⟨Java.isLegal_of_legal legal plain, readable⟩
    exact Java.reads_back package (fun part deeper => (each part deeper).1)
      (fun part deeper => (each part deeper).2) read
  · have null : value = .null := by
      obtain ⟨dataClass, -, source, -, rfl⟩ | ⟨dataClass, -, ofBuilder⟩ :=
        completes.field_cases found member
      · cases starts
      · exact Builder.initializer_of_mem_builderFields ofBuilder starts
    subst null
    exact Java.reads_back package (by decide) (by decide) read

end Run

end BuilderSynthesis
