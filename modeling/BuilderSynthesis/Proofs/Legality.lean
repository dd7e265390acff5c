import BuilderSynthesis.Proofs.Completion
import BuilderSynthesis.Proofs.Faithfulness
import BuilderSynthesis.Proofs.Identifier

/-!
Contract: which names reach the types that a run leaves.

`Legal` says of types and members that a Java program can have all names in them. No step of a
run makes a legal name of an illegal one or an illegal name of legal ones, so the types that a run
leaves are legal exactly if the classes that it started from are, with the nested types that they
have already and the classes that their fields mention.

Acceptance looks at the names of classes, fields, the package and builders. It does not look at
those of nested types, and of the names of classes outside the manifest it does not ask that they
are free of reserved words. `names_legal_iff` says that nothing else is missing.

Owns: `Model.Legal`, `DataClass.Legal`, `legal_iff_of_completes`, `UnseenLegal` and
`names_legal_iff`.
-/

namespace BuilderSynthesis

open Java (IsUsable)
open Manifest (IsUsablePath)

/-! ### Legal types and members -/

namespace Code

/-- A Java program can have the names that a type mentions. -/
def TypeRef.Legal : TypeRef → Prop
  | .array element => element.Legal
  | .list element => element.Legal
  | .named className => IsUsablePath className
  | .var parameter => IsUsable parameter
  | .primitive _ => True
  | .unit => True

/-- The names that an expression mentions itself, not those inside other expressions. -/
def Expression.Legal : Expression → Prop
  | .ident name => IsUsable name
  | .field _ name => IsUsable name
  | .new type => type.Legal
  | .call _ method _ => IsUsable method
  | .superCall method _ => IsUsable method
  | _ => True

def Statement.Legal (statement : Statement) : Prop :=
  ∀ expression ∈ statement.within, expression.Legal

/-- The names of a field and of its type, and those that its initial value mentions. -/
structure Field.Legal (field : Field) : Prop where
  name : IsUsable field.name
  type : field.type.Legal
  initializer : ∀ initial, field.initializer = some initial →
    ∀ expression ∈ initial.within, expression.Legal

/-- The names of a method, of its parameters and of all types, and those that its body
mentions. -/
structure Method.Legal (method : Method) : Prop where
  name : IsUsable method.name
  parameters : ∀ parameter ∈ method.parameters, IsUsable parameter.name ∧ parameter.type.Legal
  typeParameters : ∀ parameter ∈ method.typeParameters, IsUsable parameter.name ∧
    ∀ bound ∈ parameter.bounds, bound.Legal
  returns : ∀ result, method.returns = some result → result.Legal
  body : ∀ statement ∈ method.body, statement.Legal

/-- The names of a type and of its members. -/
structure Declaration.Legal (declaration : Declaration) : Prop where
  name : IsUsable declaration.name
  qualifiedName : IsUsablePath declaration.qualifiedName
  nested : ∀ entry ∈ declaration.nested, IsUsable entry.1
  fields : ∀ field ∈ declaration.fields, field.Legal
  methods : ∀ method ∈ declaration.methods, method.Legal

/-- All names in the types of a program. -/
def Model.Legal (model : Model) : Prop :=
  ∀ id declaration, model.get? id = some declaration → declaration.Legal

theorem TypeRef.legal_ofField_iff (element : Schema.Element) (cardinality : Schema.Cardinality) :
    (TypeRef.ofField element cardinality).Legal ↔ (TypeRef.ofElement element).Legal := by
  cases cardinality <;> rfl

/-! ### Requests -/

section

variable {declaration : Declaration}

theorem Declaration.legal_addField_iff (field : Field) :
    (declaration.addField field).Legal ↔ declaration.Legal ∧ field.Legal := by
  constructor
  · rintro ⟨name, qualifiedName, nested, fields, methods⟩
    obtain ⟨fields, field⟩ := List.forall_mem_append.1 fields
    exact ⟨⟨name, qualifiedName, nested, fields, methods⟩, List.forall_mem_singleton.1 field⟩
  · rintro ⟨⟨name, qualifiedName, nested, fields, methods⟩, legal⟩
    exact ⟨name, qualifiedName, nested,
      List.forall_mem_append.2 ⟨fields, List.forall_mem_singleton.2 legal⟩, methods⟩

theorem Declaration.legal_addMethod_iff (method : Method) :
    (declaration.addMethod method).Legal ↔ declaration.Legal ∧ method.Legal := by
  constructor
  · rintro ⟨name, qualifiedName, nested, fields, methods⟩
    obtain ⟨methods, method⟩ := List.forall_mem_append.1 methods
    exact ⟨⟨name, qualifiedName, nested, fields, methods⟩, List.forall_mem_singleton.1 method⟩
  · rintro ⟨⟨name, qualifiedName, nested, fields, methods⟩, legal⟩
    exact ⟨name, qualifiedName, nested, fields,
      List.forall_mem_append.2 ⟨methods, List.forall_mem_singleton.2 legal⟩⟩

theorem Declaration.legal_addNested_iff (name : String) (id : TypeId) :
    (declaration.addNested name id).Legal ↔ declaration.Legal ∧ IsUsable name := by
  constructor
  · rintro ⟨own, qualifiedName, nested, fields, methods⟩
    obtain ⟨nested, last⟩ := List.forall_mem_append.1 nested
    exact ⟨⟨own, qualifiedName, nested, fields, methods⟩, last _ List.mem_cons_self⟩
  · rintro ⟨⟨own, qualifiedName, nested, fields, methods⟩, usable⟩
    exact ⟨own, qualifiedName,
      List.forall_mem_append.2 ⟨nested, List.forall_mem_cons.2 ⟨usable, List.forall_mem_nil _⟩⟩,
      fields, methods⟩

theorem Declaration.legal_superclass_iff (superclass : Option TypeId) :
    ({ declaration with superclass := superclass } : Declaration).Legal ↔ declaration.Legal :=
  ⟨fun legal => ⟨legal.name, legal.qualifiedName, legal.nested, legal.fields, legal.methods⟩,
    fun legal => ⟨legal.name, legal.qualifiedName, legal.nested, legal.fields, legal.methods⟩⟩

end

namespace Model

variable {model : Model}

theorem legal_empty : ({} : Model).Legal := by
  intro id declaration found
  cases found

theorem legal_insert_iff (declaration : Declaration) :
    (model.insert declaration).Legal ↔ model.Legal ∧ declaration.Legal := by
  constructor
  · intro legal
    exact ⟨fun id other found => legal id other (get?_insert_of_some found),
      legal _ _ (get?_insert_size model declaration)⟩
  · rintro ⟨legal, last⟩ id other found
    rcases get?_insert_cases found with old | ⟨-, rfl⟩
    · exact legal id other old
    · exact last

variable {id : TypeId} {change : Declaration → Declaration}

theorem Legal.update (legal : model.Legal)
    (keeps : ∀ declaration, declaration.Legal → (change declaration).Legal) :
    (model.update id change).Legal := by
  intro other declaration found
  rcases get?_update_cases found with ⟨-, before, present, rfl⟩ | ⟨-, present⟩
  · exact keeps before (legal id before present)
  · exact legal other declaration present

theorem legal_of_update (legal : (model.update id change).Legal)
    (grows : ∀ declaration, (change declaration).Legal → declaration.Legal) : model.Legal := by
  intro other declaration found
  have after := get?_update model id change other
  split at after
  · rw [found] at after
    exact grows declaration (legal other _ after)
  · rw [found] at after
    exact legal other declaration after

theorem legal_setSuperclass_iff (superclass : TypeId) :
    (model.setSuperclass id superclass).Legal ↔ model.Legal :=
  ⟨fun legal => legal_of_update legal fun _ => (Declaration.legal_superclass_iff _).1,
    fun legal => legal.update fun _ => (Declaration.legal_superclass_iff _).2⟩

theorem exists_get?_of_declareNested {outer : TypeId} {header : Header} {after : Model}
    (declared : model.declareNested outer header = .ok (id, after)) :
    ∃ parent, after.get? outer = some parent := by
  obtain ⟨parent, found, -, -, rfl⟩ := declareNested_eq_ok_iff.1 declared
  exact ⟨_, get?_nestIn_outer found _⟩

/-- A nested type has the one name that is new in what its request adds. -/
theorem legal_declareNested_iff {outer : TypeId} {header : Header} {after : Model}
    (declared : model.declareNested outer header = .ok (id, after)) :
    after.Legal ↔ model.Legal ∧ IsUsable header.name := by
  obtain ⟨parent, found, -, -, rfl⟩ := declareNested_eq_ok_iff.1 declared
  constructor
  · intro legal
    have inserted := legal_of_update legal fun _ both =>
      ((Declaration.legal_addNested_iff _ _).1 both).1
    obtain ⟨before, last⟩ := (legal_insert_iff _).1 inserted
    exact ⟨before, last.name⟩
  · rintro ⟨legal, usable⟩
    refine ((legal_insert_iff _).2 ⟨legal, ?_⟩).update fun _ own =>
      (Declaration.legal_addNested_iff _ _).2 ⟨own, usable⟩
    exact
      { name := usable
        qualifiedName := Manifest.isUsablePath_append_iff.2
          ⟨(legal outer parent found).qualifiedName, usable.isUsablePath⟩
        nested := fun _ member => nomatch member
        fields := fun _ member => nomatch member
        methods := fun _ member => nomatch member }

end Model

end Code

/-! ### Declaring -/

namespace Schema

/-- The names of a class, of its fields, of the classes that these mention and of the nested types
that the class has already. -/
structure DataClass.Legal (dataClass : DataClass) : Prop where
  name : IsUsablePath dataClass.name
  nested : ∀ name ∈ dataClass.nested, IsUsable name
  fields : ∀ field ∈ dataClass.fields,
    IsUsable field.name ∧ (Code.TypeRef.ofElement field.element).Legal

end Schema

namespace Run

open Code (Declaration Model TypeId TypeRef)
open Schema (ClassId DataClass Hierarchy)

theorem legal_declaredField_iff (field : Schema.Field) :
    (declaredField field).Legal ↔
      IsUsable field.name ∧ (TypeRef.ofElement field.element).Legal := by
  rw [← TypeRef.legal_ofField_iff field.element field.cardinality]
  exact ⟨fun legal => ⟨legal.name, legal.type⟩,
    fun ⟨usable, type⟩ => ⟨usable, type, fun _ initial => nomatch initial⟩⟩

theorem legal_productDeclaration_iff (dataClass : DataClass) :
    (productDeclaration dataClass []).Legal ↔ IsUsablePath dataClass.name ∧
      ∀ field ∈ dataClass.fields,
        IsUsable field.name ∧ (TypeRef.ofElement field.element).Legal := by
  constructor
  · intro legal
    refine ⟨legal.qualifiedName, fun field member => ?_⟩
    exact (legal_declaredField_iff field).1 (legal.fields _ (List.mem_map_of_mem member))
  · rintro ⟨path, fields⟩
    exact
      { name := path.afterLastDot
        qualifiedName := path
        nested := fun _ member => nomatch member
        fields := List.forall_mem_map.2 fun field member =>
          (legal_declaredField_iff field).2 (fields field member)
        methods := fun _ member => nomatch member }

/-- A nested type that is refused has the name of one that its outer type has already. -/
theorem legal_declareNestedTypes_iff {dataClass : DataClass} {outer : TypeId} {model : Model}
    {parent : Declaration} (found : model.get? outer = some parent) (names : List String) :
    (declareNestedTypes dataClass outer names model).1.Legal ↔
      model.Legal ∧ ∀ name ∈ names, IsUsable name := by
  induction names generalizing model parent with
  | nil => simp [declareNestedTypes]
  | cons name rest inductionHypothesis =>
      unfold declareNestedTypes
      rw [List.forall_mem_cons, ← and_assoc]
      cases answer : model.declareNested outer { name := name, isStatic := true } with
      | ok result =>
          obtain ⟨grown, there⟩ := Model.exists_get?_of_declareNested answer
          rw [← Model.legal_declareNested_iff answer]
          exact inductionHypothesis there
      | error conflict =>
          have known : model.Legal → IsUsable name := by
            intro legal
            cases used : parent.nested? name with
            | none => simp [Model.declareNested, found, used] at answer
            | some id => exact (legal outer parent found).nested _ (Keyed.mem_of_value? used)
          rw [and_iff_left_of_imp known]
          exact inductionHypothesis found

theorem legal_declareDataClass_iff {dataClass : DataClass} {model : Model}
    {result : Model × List Diagnostic} (declared : declareDataClass dataClass model = .ok result) :
    result.1.Legal ↔ model.Legal ∧ dataClass.Legal := by
  obtain ⟨-, -, rfl⟩ := declareDataClass_eq_ok_iff.1 declared
  rw [legal_declareNestedTypes_iff (Model.get?_insert_size model _), Model.legal_insert_iff,
    legal_productDeclaration_iff, and_assoc, and_assoc]
  refine and_congr_right fun _ => ⟨?_, ?_⟩
  · rintro ⟨path, fields, nested⟩
    exact ⟨path, nested, fields⟩
  · rintro ⟨path, nested, fields⟩
    exact ⟨path, fields, nested⟩

theorem legal_declareClasses_iff {classes : List DataClass} {model after : Model}
    {reports : List Diagnostic} (declared : declareClasses classes model = .ok (after, reports)) :
    after.Legal ↔ model.Legal ∧ ∀ dataClass ∈ classes, dataClass.Legal := by
  induction classes generalizing model reports with
  | nil =>
      cases declared
      simp
  | cons dataClass rest inductionHypothesis =>
      obtain ⟨middle, first, others, later⟩ := declareClasses_cons_eq_ok_iff.1 ⟨reports, declared⟩
      rw [inductionHypothesis later, legal_declareDataClass_iff first, List.forall_mem_cons,
        and_assoc]

theorem legal_linkSuperclass_iff (hierarchy : Hierarchy) (model : Model) (dataClass : DataClass) :
    (linkSuperclass hierarchy model dataClass).Legal ↔ model.Legal := by
  unfold linkSuperclass
  split
  · rfl
  · split
    · exact Model.legal_setSuperclass_iff _
    · rfl

/-- The types of a hierarchy are legal exactly if its classes are. -/
theorem legal_declareHierarchy_iff {hierarchy : Hierarchy} {model : Model}
    {reports : List Diagnostic} (success : declareHierarchy hierarchy = .ok (model, reports)) :
    model.Legal ↔ ∀ dataClass ∈ hierarchy.classes, dataClass.Legal := by
  obtain ⟨unlinked, declared, rfl⟩ := declareHierarchy_eq_ok_iff.1 success
  have linked : ∀ (classes : List DataClass) (model : Model),
      (classes.foldl (linkSuperclass hierarchy) model).Legal ↔ model.Legal := by
    intro classes
    induction classes with
    | nil => exact fun _ => Iff.rfl
    | cons dataClass rest inductionHypothesis =>
        intro model
        rw [List.foldl_cons, inductionHypothesis, legal_linkSuperclass_iff]
  rw [linked, legal_declareClasses_iff declared]
  exact and_iff_right Model.legal_empty

end Run

/-! ### Builders -/

namespace Builder

open Code (Expression Method Model Statement TypeRef)
open Schema (ClassId DataClass Hierarchy Policy)

theorem legal_registerClass_iff {builderName : String} (usable : IsUsable builderName)
    {id : ClassId} {dataClass : DataClass} {workshop after : Workshop}
    (registering : registerClass builderName workshop id dataClass = (after, none)) :
    after.model.Legal ↔ workshop.model.Legal := by
  unfold registerClass at registering
  cases type : workshop.model.lookup dataClass.name with
  | none =>
      rw [type] at registering
      cases registering
  | some product =>
      simp only [type] at registering
      cases answer : workshop.model.declareNested product
          (builderHeader dataClass builderName) with
      | error conflict =>
          rw [answer] at registering
          cases registering
          rfl
      | ok result =>
          obtain ⟨builder, grown⟩ := result
          rw [answer] at registering
          cases registering
          rw [Model.legal_declareNested_iff answer]
          exact and_iff_left usable

/-- Registering builders of a usable name keeps the types of a program as legal as they are. -/
theorem legal_registerAll_iff {builderName : String} (usable : IsUsable builderName)
    {entries : List (ClassId × DataClass)} {workshop after : Workshop}
    (registering : registerAll builderName entries workshop = (after, none)) :
    after.model.Legal ↔ workshop.model.Legal := by
  induction entries generalizing workshop with
  | nil =>
      cases registering
      rfl
  | cons entry rest inductionHypothesis =>
      obtain ⟨id, dataClass⟩ := entry
      unfold registerAll at registering
      cases step : registerClass builderName workshop id dataClass with
      | mk middle failure =>
          rw [step] at registering
          cases failure with
          | none =>
              rw [inductionHypothesis registering]
              exact legal_registerClass_iff usable step
          | some failure => cases registering

/-- What a request adds has legal names. -/
def Request.Legal : Request → Prop
  | .field _ declared => declared.Legal
  | .method _ declared => declared.Legal
  | .properties _ _ => True
  | .superclass _ _ => True

theorem legal_effect {workshop : Workshop} (legal : workshop.model.Legal) {request : Request}
    (allowed : request.Legal) : (effect workshop request).model.Legal := by
  cases request with
  | field owner field =>
      exact legal.update fun _ own => (Code.Declaration.legal_addField_iff field).2 ⟨own, allowed⟩
  | method owner method =>
      exact legal.update fun _ own => (Code.Declaration.legal_addMethod_iff method).2 ⟨own, allowed⟩
  | properties key properties =>
      change (noting workshop key properties).model.Legal
      rwa [model_noting]
  | superclass id superclass => exact (Model.legal_setSuperclass_iff superclass).2 legal

theorem legal_of_effect {workshop : Workshop} {request : Request}
    (legal : (effect workshop request).model.Legal) : workshop.model.Legal := by
  cases request with
  | field owner field =>
      exact Model.legal_of_update legal fun _ both =>
        ((Code.Declaration.legal_addField_iff field).1 both).1
  | method owner method =>
      exact Model.legal_of_update legal fun _ both =>
        ((Code.Declaration.legal_addMethod_iff method).1 both).1
  | properties key properties =>
      change (noting workshop key properties).model.Legal at legal
      rwa [model_noting] at legal
  | superclass id superclass => exact (Model.legal_setSuperclass_iff superclass).1 legal

/-- Legal requests keep the types of a program as legal as they are. -/
theorem legal_foldl_effect_iff {requests : List Request} {workshop : Workshop}
    (allowed : workshop.model.Legal → ∀ request ∈ requests, request.Legal) :
    (requests.foldl effect workshop).model.Legal ↔ workshop.model.Legal := by
  constructor
  · intro legal
    clear allowed
    induction requests generalizing workshop with
    | nil => exact legal
    | cons request rest inductionHypothesis => exact legal_of_effect (inductionHypothesis legal)
  · intro legal
    replace allowed := allowed legal
    induction requests generalizing workshop with
    | nil => exact legal
    | cons request rest inductionHypothesis =>
        rw [List.forall_mem_cons] at allowed
        exact inductionHypothesis (legal_effect legal allowed.1) allowed.2

/-! ### What is asked for -/

theorem isUsable_initName : IsUsable initName := by
  decide

theorem isUsable_productName : IsUsable productName := by
  decide

theorem isUsable_productTypeName : IsUsable productTypeName := by
  decide

theorem legal_initMethod {productType : TypeRef} (product : productType.Legal)
    {body : List Statement} (legal : ∀ statement ∈ body, statement.Legal) :
    (initMethod productType body).Legal where
  name := isUsable_initName
  parameters := List.forall_mem_singleton.2 ⟨isUsable_productName, isUsable_productTypeName⟩
  typeParameters :=
    List.forall_mem_singleton.2 ⟨isUsable_productTypeName, List.forall_mem_singleton.2 product⟩
  returns _ same := Option.some.inj same ▸ isUsable_productTypeName
  body := legal

theorem legal_initEnd (ancestors : List DataClass) : (initEnd ancestors).Legal := by
  cases ancestors <;>
    simp [initEnd, Statement.Legal, Statement.within, Expression.within, Expression.withinAll,
      Expression.Legal, product, isUsable_productName, isUsable_initName]

theorem legal_buildMethod {productType : TypeRef} (product : productType.Legal)
    (dataClass : DataClass) : (buildMethod dataClass productType).Legal where
  name := show IsUsable buildName by decide
  parameters _ member := nomatch member
  typeParameters _ member := nomatch member
  returns _ same := Option.some.inj same ▸ product
  body := by
    simp [buildMethod, Statement.Legal, Statement.within, Expression.within, Expression.withinAll,
      Expression.Legal, product, isUsable_initName]

theorem legal_factoryMethod {builderType : TypeRef} (builder : builderType.Legal)
    (dataClass : DataClass) : (factoryMethod dataClass builderType).Legal where
  name := show IsUsable factoryName by decide
  parameters _ member := nomatch member
  typeParameters _ member := nomatch member
  returns _ same := Option.some.inj same ▸ builder
  body := by
    simp [factoryMethod, Statement.Legal, Statement.within, Expression.within, Expression.Legal,
      builder]

section

variable {policy : Policy} {builderType : TypeRef} {field : Schema.Field}
  (usable : IsUsable field.name) (type : (TypeRef.ofElement field.element).Legal)

include usable

theorem legal_initStatementOf : (initStatementOf policy (Property.ofField field)).Legal := by
  have name : IsUsable (Property.ofField field).name := usable
  unfold initStatementOf Handling.initStatement Handling.handedOver
  split <;>
    simp [Statement.Legal, Statement.within, Expression.within, Expression.Legal,
      Expression.ownField, product, isUsable_productName, name]

include type

theorem legal_builderField :
    ((Handling.ofProperty policy (Property.ofField field)).field
      (Property.ofField field)).Legal := by
  refine ⟨usable, (TypeRef.legal_ofField_iff _ _).2 type, fun initial starts => ?_⟩
  unfold Handling.field at starts
  split at starts
  · cases starts
    simp [Expression.within, Expression.Legal]
  · cases starts

variable (builder : builderType.Legal)

include builder

theorem legal_setterOf : (setterOf policy builderType (Property.ofField field)).Legal where
  name := isUsable_setterName usable.1
  parameters := by
    refine List.forall_mem_singleton.2 ⟨?_, ?_⟩
    · unfold Handling.parameter
      split <;> exact usable
    · rw [type_parameter, TypeRef.legal_ofField_iff]
      exact type
  typeParameters _ member := nomatch member
  returns _ same := Option.some.inj same ▸ builder
  body := by
    have name : IsUsable (Property.ofField field).name := usable
    unfold setterOf Handling.setter Handling.stored
    split <;>
      simp [Statement.Legal, Statement.within, Expression.within, Expression.Legal,
        Expression.ownField, name]

theorem legal_override (hidden : List String) :
    (override policy builderType hidden (Property.ofField field)).Legal := by
  have setter : (setterOf policy builderType (Property.ofField field)).Legal :=
    legal_setterOf usable type builder
  have name : IsUsable (Property.ofField field).name := usable
  have called : IsUsable (Property.ofField field).setter := setter.name
  unfold override overriding
  split
  · refine ⟨setter.name, setter.parameters, setter.typeParameters, setter.returns, ?_⟩
    simp [delegating, Statement.Legal, Statement.within, Expression.within, Expression.withinAll,
      Expression.Legal, name, called]
  · exact ⟨setter.name, setter.parameters, setter.typeParameters, setter.returns, setter.body⟩

end

/-- Requests for the builder of a class have legal names if the class and its ancestors do. -/
theorem legal_of_mem_requests {hierarchy : Hierarchy} {policy : Policy} {workshop : Workshop}
    {key : String} {descriptor : Descriptor} {dataClass : DataClass} {request : Request}
    (classes : ∀ dataClass ∈ hierarchy.classes, dataClass.Legal) (own : dataClass.Legal)
    (product : (workshop.model.typeRef descriptor.product).Legal)
    (builder : (workshop.model.typeRef descriptor.builder).Legal)
    (member : request ∈ requests hierarchy policy workshop key descriptor dataClass) :
    request.Legal := by
  have properties : ∀ {other : DataClass} {property : Property}, other.Legal →
      property ∈ ownProperties other → ∃ field, property = Property.ofField field ∧
        IsUsable field.name ∧ (TypeRef.ofElement field.element).Legal := by
    intro other property legal listed
    obtain ⟨field, kept, rfl⟩ := List.mem_map.1 listed
    exact ⟨field, rfl, legal.fields field (List.mem_filter.1 kept).1⟩
  rw [requests_eq] at member
  simp only [List.mem_append, List.mem_singleton] at member
  rcases member with ((((property | noted) | superclass) | init) | inherited) | last
  · obtain ⟨one, listed, here⟩ := List.mem_flatMap.1 property
    obtain ⟨field, rfl, usable, type⟩ := properties own listed
    simp only [propertyRequests, List.mem_cons, List.not_mem_nil, or_false] at here
    rcases here with rfl | rfl
    · exact legal_builderField usable type
    · exact legal_setterOf usable type builder
  · subst noted
    trivial
  · obtain ⟨parent, -, rfl⟩ := Option.map_eq_some_iff.1 (Option.mem_toList.1 superclass)
    trivial
  · subst init
    refine legal_initMethod product (List.forall_mem_append.2 ⟨?_, ?_⟩)
    · refine List.forall_mem_map.2 fun property listed => ?_
      obtain ⟨field, rfl, usable, -⟩ := properties own listed
      exact legal_initStatementOf usable
    · exact List.forall_mem_singleton.2 (legal_initEnd _)
  · obtain ⟨method, overrides, rfl⟩ := List.mem_map.1 inherited
    obtain ⟨ancestor, above, property, listed, hidden, rfl⟩ := of_mem_inheritedSetters overrides
    obtain ⟨id, -, found⟩ := List.mem_filterMap.1 above
    obtain ⟨field, rfl, usable, type⟩ :=
      properties (classes ancestor (List.mem_of_getElem? found)) listed
    exact legal_override usable type builder hidden
  · split at last
    · cases last
    · simp only [List.mem_cons, List.not_mem_nil, or_false] at last
      rcases last with rfl | rfl
      · exact legal_buildMethod product dataClass
      · exact legal_factoryMethod builder dataClass

theorem legal_typeRef {model : Model} (legal : model.Legal) {id : Code.TypeId}
    {declaration : Code.Declaration} (found : model.get? id = some declaration) :
    (model.typeRef id).Legal := by
  unfold Model.typeRef Model.qualifiedName
  rw [found]
  exact (legal id declaration found).qualifiedName

/-- Generating the members of builders keeps the types of a program as legal as they are. -/
theorem Ready.legal_generate_iff {hierarchy : Hierarchy} {policy : Policy}
    {workshop after : Workshop} (ready : Ready hierarchy workshop)
    (classes : workshop.model.Legal → ∀ dataClass ∈ hierarchy.classes, dataClass.Legal)
    (generating : generate hierarchy policy workshop = (after, none)) :
    after.model.Legal ↔ workshop.model.Legal := by
  obtain ⟨-, rfl⟩ := generate_eq_iff.1 generating
  refine legal_foldl_effect_iff fun legal request member => ?_
  obtain ⟨entry, registered, requested⟩ := List.mem_flatMap.1 member
  obtain ⟨dataClass, found, -, same⟩ := ready.requestsOf_eq policy registered
  obtain ⟨product, there, -⟩ := ready.product entry registered
  obtain ⟨-, builder, -, -, here, -⟩ := ready.builder entry registered
  rw [same] at requested
  exact legal_of_mem_requests (classes legal)
    (classes legal dataClass (List.mem_of_getElem? found)) (legal_typeRef legal there)
    (legal_typeRef legal here) requested

end Builder

/-! ### Runs -/

namespace Run

open Schema (DataClass Hierarchy)

/-- The types that a run leaves are legal exactly if the classes that it started from are. -/
theorem legal_iff_of_completes {hierarchy : Hierarchy} {config : Config}
    {workshop : Builder.Workshop} (usable : IsUsable config.builderName)
    (completes : Completes hierarchy config workshop) :
    workshop.model.Legal ↔ ∀ dataClass ∈ hierarchy.classes, dataClass.Legal := by
  obtain ⟨model, reports, registered, -, declaring, registering, -, ready, generating⟩ :=
    completes.registered
  have declared := legal_declareHierarchy_iff declaring
  have kept := Builder.legal_registerAll_iff usable registering
  rw [ready.legal_generate_iff (fun legal => declared.1 (kept.1 legal)) generating, kept, declared]

end Run

/-! ### Manifests -/

namespace Manifest

open Code (TypeRef)
open Schema (DataClass Element Primitive)

/-- A name in the type of a field that is neither a primitive nor a class of the manifest has no
reserved words in it. -/
def MentionsLegally (manifest : Manifest) (name : String) : Prop :=
  Primitive.ofName? name = none → ¬ manifest.Declares name →
    ∀ segment ∈ Text.dottedSegments name, Java.isReserved segment = false

/-- What acceptance does not see of the names of a class: those of the nested types that it has
already, and reserved words in the names of classes outside the manifest. -/
structure UnseenLegal (manifest : Manifest) (entry : ClassEntry) : Prop where
  nested : ∀ name ∈ entry.nested, IsUsable name
  foreign : ∀ field ∈ entry.fields, ∀ typeNotation, field.typeNotation? = some typeNotation →
    manifest.MentionsLegally typeNotation.element

variable {manifest : Manifest} (wellFormed : manifest.WellFormed)

include wellFormed

theorem WellFormed.legal_element_iff {name : String} (known : manifest.IsElement name)
    {element : Element} (means : manifest.Means name element) :
    (TypeRef.ofElement element).Legal ↔ manifest.MentionsLegally name := by
  cases means with
  | primitive kind =>
      refine iff_of_true trivial fun plain => ?_
      rw [Primitive.ofName?_name] at plain
      cases plain
  | declared entry plain member named =>
      refine iff_of_true ?_ fun _ unknown => absurd ⟨entry, member, named⟩ unknown
      exact isUsablePath_qualifyIn wellFormed.package (wellFormed.classNames entry member)
  | foreign plain unknown =>
      have outside := ofName?_eq_none_iff.2 plain
      rcases known with ⟨kind, primitive⟩ | declares | ⟨-, identifiers⟩
      · rw [outside] at primitive
        cases primitive
      · exact absurd declares unknown
      · constructor
        · exact fun path _ _ segment member => (path segment member).2
        · exact fun unreserved segment member =>
            ⟨identifiers segment member, unreserved outside unknown segment member⟩

theorem WellFormed.legal_iff {entry : ClassEntry} (member : entry ∈ manifest.classes)
    {dataClass : DataClass} (describes : Describes manifest entry dataClass) :
    dataClass.Legal ↔ manifest.UnseenLegal entry := by
  have fields : (∀ field ∈ dataClass.fields,
      IsUsable field.name ∧ (TypeRef.ofElement field.element).Legal) ↔
        ∀ field ∈ entry.fields, ∀ typeNotation, field.typeNotation? = some typeNotation →
          manifest.MentionsLegally typeNotation.element := by
    refine Lists.forall_mem_iff_of_forall₂ describes.fields fun field inside lowered same => ?_
    obtain ⟨typeNotation, written, -, means⟩ := same.type
    obtain ⟨other, again, known⟩ := wellFormed.fieldTypes entry member field inside
    rw [written, Option.some.injEq] at again
    subst again
    rw [same.name, and_iff_right (wellFormed.fieldNames entry member field inside),
      wellFormed.legal_element_iff known means]
    simp only [written, Option.some.injEq, forall_eq']
  constructor
  · intro legal
    exact ⟨fun name inside => legal.nested name (describes.nested ▸ inside),
      fields.1 legal.fields⟩
  · intro unseen
    refine ⟨?_, fun name inside => unseen.nested name (describes.nested ▸ inside),
      fields.2 unseen.foreign⟩
    rw [describes.name]
    exact isUsablePath_qualifyIn wellFormed.package (wellFormed.classNames entry member)

end Manifest

namespace Run

open Manifest (forwardManifest)

/-- All names in the types that a run on an accepted manifest leaves are legal, if those are that
acceptance does not see, and only then. -/
theorem names_legal_iff {manifest : Manifest} {context : Context}
    (accepted : manifest.validate = .ok ())
    (success : (({} : Pipeline).run manifest).result = .ok context) :
    context.model.Legal ↔ ∀ entry ∈ manifest.classes, manifest.UnseenLegal entry := by
  have wellFormed := Manifest.wellFormed_of_validate accepted
  obtain ⟨hierarchy, lowered, reached⟩ := reached_of_run success
  obtain ⟨other, again, lowers⟩ := Manifest.lower_succeeds (Manifest.accepted_of_validate accepted)
  rw [lowered, Except.ok.injEq] at again
  subst again
  obtain ⟨registry, -, completes⟩ := reached.completes
  have legal := legal_iff_of_completes wellFormed.builderName completes
  refine legal.trans (Lists.forall_mem_iff_of_forall₂ lowers.classes ?_)
  exact fun entry member dataClass stands => wellFormed.legal_iff member stands.describes

theorem forward_names_legal :
    forwardManifest.validate = .ok () ∧
      ∃ context, (({} : Pipeline).run forwardManifest).result = .ok context ∧
        context.model.Legal := by
  have accepted : forwardManifest.validate = .ok () := by
    decide +kernel
  have succeeds : (({} : Pipeline).run forwardManifest).failure = none := by
    decide +kernel
  have nested : ∀ entry ∈ forwardManifest.classes, ∀ name ∈ entry.nested, IsUsable name := by
    decide +kernel
  have foreign : ∀ entry ∈ forwardManifest.classes, ∀ field ∈ entry.fields,
      ∀ typeNotation ∈ field.typeNotation?,
        Schema.Primitive.ofName? typeNotation.element = none →
          ∀ segment ∈ Text.dottedSegments typeNotation.element,
            Java.isReserved segment = false := by
    decide +kernel
  have success := result_of_failure_eq_none succeeds
  refine ⟨accepted, _, success, (names_legal_iff accepted success).2 fun entry member => ?_⟩
  exact ⟨nested entry member, fun field inside typeNotation written plain _ =>
    foreign entry member field inside typeNotation written plain⟩

/-- A field whose type is a class outside the manifest with a reserved word in its name. -/
def reservedSource : String :=
  "[[class]]\nname = \"A\"\n\n[[class.field]]\nname = \"x\"\ntype = \"java.class.Foo\"\n"

theorem not_every_name_is_legal :
    ¬ ∀ file source manifest context, Manifest.read file source = .ok manifest →
      (({} : Pipeline).run manifest).result = .ok context → context.model.Legal := by
  intro always
  have accepted : Manifest.read "fluent.toml" reservedSource = .ok (manifestIn reservedSource) := by
    decide +kernel
  have succeeds : (({} : Pipeline).run (manifestIn reservedSource)).failure = none := by
    decide +kernel
  have types : ((({} : Pipeline).run (manifestIn reservedSource)).context.model.get? 0).map
      (fun declaration => declaration.fields.map Code.Field.type) =
        some [.named "java.class.Foo"] := by
    decide +kernel
  have legal := always _ _ _ _ accepted (result_of_failure_eq_none succeeds)
  obtain ⟨declaration, found, same⟩ := Option.map_eq_some_iff.1 types
  have member : Code.TypeRef.named "java.class.Foo" ∈ declaration.fields.map Code.Field.type := by
    rw [same]
    exact List.mem_singleton_self _
  obtain ⟨field, inside, type⟩ := List.mem_map.1 member
  have path := ((legal 0 declaration found).fields field inside).type
  rw [type] at path
  have usable : IsUsable "class" := path "class" (by decide)
  exact absurd usable (by decide)

end Run

end BuilderSynthesis
