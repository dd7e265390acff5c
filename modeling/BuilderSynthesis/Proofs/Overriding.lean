import BuilderSynthesis.Proofs.Hiding
import BuilderSynthesis.Proofs.Inventory
import BuilderSynthesis.Proofs.Subtyping

/-!
Contract: whether methods of a type may stand below those of the types above it.

A setter stands below setters of builders above and gives the builder at hand, `build` stands
below `build` and gives the product at hand, and the method of a product that makes a builder is
static on every level. `init` takes the product itself, so it has a signature of its own.

Owns: `MayReplace`, `LegalOverriding`, and `overriding_legal`, for any hierarchy on which a run
succeeds.

Does not own: which of the methods runs.
-/

namespace BuilderSynthesis

namespace Code.Method

def erasedResult (method : Method) : TypeRef :=
  method.erase (method.returns.getD .unit)

end Code.Method

namespace Eval

open Code (Method Model TypeId)

/-- A method may stand below another with the same signature: either both belong to objects or
both to types, and what the lower gives can stand for what the upper gives. -/
structure MayReplace (model : Model) (lower upper : Method) : Prop where
  isStatic : lower.isStatic = upper.isStatic
  result : isAssignable model lower.erasedResult upper.erasedResult = true

/-- Below each other there are only methods that may be, and what says that it overrides has
something that it overrides. -/
structure LegalOverriding (model : Model) : Prop where
  replaces : ∀ type above lower upper,
    Relation.TransGen (Walk.Leads model.superclass?) type above → Declares model type lower →
    Declares model above upper → lower.sameSignature upper = true → MayReplace model lower upper
  announced : ∀ type lower, Declares model type lower → lower.isOverride = true →
    ∃ above upper, Relation.TransGen (Walk.Leads model.superclass?) type above ∧
      Declares model above upper ∧ lower.sameSignature upper = true ∧
      MayReplace model lower upper

theorem Declares.mem {model : Model} {type : TypeId} {method : Method}
    {declaration : Code.Declaration} (declares : Declares model type method)
    (found : model.get? type = some declaration) : method ∈ declaration.methods := by
  obtain ⟨other, there, member⟩ := declares
  rw [found, Option.some.injEq] at there
  rwa [there]

end Eval

/-! ### The methods of a builder -/

namespace Builder

open Code (Method TypeRef)
open Schema (DataClass Field Policy)

section

variable {policy : Policy} {productType builderType : TypeRef} {dataClass : DataClass}
  {ancestors : List DataClass} {method : Method}

/-- What says that it overrides is the setter of a property of a class above. -/
theorem inherited_of_isOverride
    (member : method ∈ builderMethods policy productType builderType dataClass ancestors)
    (announced : method.isOverride = true) :
    ∃ holder ∈ ancestors, ∃ field ∈ holder.instanceFields,
      IsSetterOf builderType field method := by
  simp only [builderMethods, List.mem_append, List.mem_singleton] at member
  rcases member with ((own | rfl) | inherited) | build
  · obtain ⟨property, -, rfl⟩ := List.mem_map.1 own
    cases announced
  · cases announced
  · obtain ⟨holder, above, property, known, hidden, rfl⟩ := of_mem_inheritedSetters inherited
    obtain ⟨field, instance', rfl⟩ := List.mem_map.1 known
    exact ⟨holder, above, field, instance', isSetterOf_override policy builderType hidden field⟩
  · split at build
    · cases build
    · rw [List.mem_singleton.1 build] at announced
      cases announced

end

theorem sameSignature_of_setters {lowerBuilder upperBuilder : TypeRef} {field : Field}
    {lower upper : Method} (setter : IsSetterOf lowerBuilder field lower)
    (other : IsSetterOf upperBuilder field upper) : lower.sameSignature upper = true := by
  unfold Method.sameSignature
  rw [setter.name, other.name, setter.parameters, other.parameters, BEq.rfl, BEq.rfl, Bool.and_self]

end Builder

namespace Run

open Builder (IsSetterOf Purpose builderTypeName buildMethod buildName factoryMethod initMethod
  initName productMethods setterName)
open Code (Declaration Method Model TypeId TypeRef)
open Eval (LegalOverriding MayReplace isAssignable)
open Schema (ClassId DataClass Field Hierarchy)

/-! ### Types above each other -/

namespace Program

variable {hierarchy : Hierarchy} {config : Config} {bears : ClassId → Bool} {model : Model}
  (program : Program hierarchy config bears model) (acyclic : hierarchy.Acyclic)
  (inRange : hierarchy.InRange)

include program

/-- Above the type of a class there are only those of its ancestors. -/
theorem exists_of_reaches_product (inRange : hierarchy.InRange) {id : Nat}
    (known : id < hierarchy.size) {above : TypeId}
    (reaches : Relation.TransGen (Walk.Leads model.superclass?)
      (productId hierarchy model id) above) :
    ∃ ancestor, hierarchy.IsAncestor ancestor id ∧ above = productId hierarchy model ancestor := by
  obtain ⟨ancestor, leads, -, same⟩ := Walk.exists_of_reaches_named
    (Hierarchy.superclass_closed inRange) (fun _ => program.superclass?_product) known reaches
  exact ⟨ancestor, leads, same⟩

/-- Above a builder there are only those of the ancestors of its class. -/
theorem exists_of_reaches_builder {id : ClassId} (bearing : bears id = true) {above : TypeId}
    (reaches : Relation.TransGen (Walk.Leads model.superclass?)
      (builderId hierarchy config.builderName model id) above) :
    ∃ ancestor, hierarchy.IsAncestor ancestor id ∧ bears ancestor = true ∧
      above = builderId hierarchy config.builderName model ancestor := by
  obtain ⟨ancestor, leads, bearingToo, same⟩ := Walk.exists_of_reaches_named
    Walk.nearest_closed (fun _ => program.superclass?_builder) bearing reaches
  exact ⟨ancestor, Relation.TransGen.closed (fun _ _ => Walk.reaches_of_nearest) _ _ leads,
    bearingToo, same⟩

/-- What the type of a class declares is for making builders. -/
theorem mem_productMethods {id : ClassId} {dataClass : DataClass}
    (known : hierarchy.get? id = some dataClass) {method : Method}
    (declares : Eval.Declares model (productId hierarchy model id) method) :
    bears id = true ∧ method ∈
      productMethods dataClass (.named (builderTypeName config.builderName dataClass.name)) := by
  obtain ⟨declaration, found, product⟩ := program.product id dataClass known
  have member := declares.mem found
  rw [product.methods] at member
  split at member
  · exact ⟨‹_›, member⟩
  · cases member

theorem declares_builder_iff {id : ClassId} {dataClass : DataClass}
    (known : hierarchy.get? id = some dataClass) (bearing : bears id = true) {method : Method} :
    Eval.Declares model (builderId hierarchy config.builderName model id) method ↔
      method ∈ Builder.builderMethods config.policy (.named dataClass.name)
        (.named (builderTypeName config.builderName dataClass.name)) dataClass
        (bearersAbove hierarchy bears id) := by
  obtain ⟨declaration, found, builder⟩ := program.builder id dataClass known bearing
  rw [← builder.methods]
  exact ⟨fun declares => declares.mem found, fun member => ⟨declaration, found, member⟩⟩

include acyclic inRange

theorem isSubtype_product {id ancestor : Nat} (known : id < hierarchy.size)
    (above : hierarchy.IsAncestor ancestor id) :
    model.isSubtype (productId hierarchy model id) (productId hierarchy model ancestor) = true := by
  unfold Model.isSubtype
  rw [List.contains_iff_mem, program.supertypes_product acyclic inRange known]
  exact List.mem_map_of_mem (List.mem_cons_of_mem _
    ((Hierarchy.mem_ancestors_iff acyclic inRange id ancestor).2 above))

theorem isSubtype_builder {id ancestor : Nat} (bearing : bears id = true)
    (bearingToo : bears ancestor = true) (above : hierarchy.IsAncestor ancestor id) :
    model.isSubtype (builderId hierarchy config.builderName model id)
      (builderId hierarchy config.builderName model ancestor) = true := by
  unfold Model.isSubtype
  rw [List.contains_iff_mem, program.supertypes_builder acyclic inRange bearing]
  exact List.mem_map_of_mem (List.mem_cons_of_mem _ (List.mem_filter.2
    ⟨(Hierarchy.mem_ancestors_iff acyclic inRange id ancestor).2 above, bearingToo⟩))

/-- The builder of a class extends, perhaps not directly, those of its ancestors. -/
theorem reaches_builder {id ancestor : Nat} (bearing : bears id = true)
    (bearingToo : bears ancestor = true) (above : hierarchy.IsAncestor ancestor id) :
    Relation.TransGen (Walk.Leads model.superclass?)
      (builderId hierarchy config.builderName model id)
      (builderId hierarchy config.builderName model ancestor) := by
  have below := program.isSubtype_builder acyclic inRange bearing bearingToo above
  rcases Model.eq_or_reaches_of_isSubtype below with same | reaches
  · obtain rfl := program.builderId_injective bearingToo bearing same
    exact absurd above (acyclic ancestor)
  · exact reaches

/-- The type of a class can stand for those of its ancestors. -/
theorem isAssignable_product {id ancestor : Nat} {dataClass other : DataClass}
    (known : hierarchy.get? id = some dataClass) (knownToo : hierarchy.get? ancestor = some other)
    (above : hierarchy.IsAncestor ancestor id) :
    isAssignable model (.named dataClass.name) (.named other.name) = true := by
  have below : Eval.isSubclass model dataClass.name other.name = true := by
    unfold Eval.isSubclass
    rw [program.lookup_product known, program.lookup_product knownToo]
    exact program.isSubtype_product acyclic inRange (Hierarchy.get?_eq_some_lt known) above
  unfold isAssignable
  rw [below, Bool.or_true]

/-- The builder of a class can stand for those of its ancestors. -/
theorem isAssignable_builder {id ancestor : Nat} {dataClass other : DataClass}
    (known : hierarchy.get? id = some dataClass) (knownToo : hierarchy.get? ancestor = some other)
    (bearing : bears id = true) (bearingToo : bears ancestor = true)
    (above : hierarchy.IsAncestor ancestor id) :
    isAssignable model (.named (builderTypeName config.builderName dataClass.name))
      (.named (builderTypeName config.builderName other.name)) = true := by
  have below : Eval.isSubclass model (builderTypeName config.builderName dataClass.name)
      (builderTypeName config.builderName other.name) = true := by
    unfold Eval.isSubclass
    rw [program.lookup_builder known bearing, program.lookup_builder knownToo bearingToo]
    exact program.isSubtype_builder acyclic inRange bearing bearingToo above
  unfold isAssignable
  rw [below, Bool.or_true]

end Program

/-! ### Methods above each other -/

section

variable {model : Model} {lowerClass upperClass : DataClass}
  {lowerAncestors upperAncestors : List DataClass}
  {lower upper : Method}

theorem initName_ne_buildName : initName ≠ buildName := by
  decide

theorem setter_mayReplace {lowerName upperName : String} {field other : Field}
    (setter : IsSetterOf (.named lowerName) field lower)
    (above : IsSetterOf (.named upperName) other upper)
    (builders : isAssignable model (.named lowerName) (.named upperName) = true) :
    MayReplace model lower upper := by
  refine ⟨setter.isInstance.trans above.isInstance.symm, ?_⟩
  unfold Method.erasedResult
  rw [setter.returns, above.returns]
  exact builders

/-- Of two builders, where one can stand for the other and so can what they make, methods with
the same signature are for the same thing. -/
theorem builder_mayReplace {lowerName upperName lowerBuilderName upperBuilderName : String}
    (products : isAssignable model (.named lowerName) (.named upperName) = true)
    (builders : isAssignable model (.named lowerBuilderName) (.named upperBuilderName) = true)
    (below : Purpose (.named lowerName) (.named lowerBuilderName) lowerClass lowerAncestors lower)
    (above : Purpose (.named upperName) (.named upperBuilderName) upperClass upperAncestors upper)
    (same : lower.sameSignature upper = true) : MayReplace model lower upper := by
  unfold Method.sameSignature at same
  rw [Bool.and_eq_true, beq_iff_eq, beq_iff_eq] at same
  obtain ⟨names, parameters⟩ := same
  cases below with
  | set field isSet setter =>
      rw [setter.name] at names
      cases above with
      | set other isSetToo setterToo =>
          exact setter_mayReplace setter setterToo builders
      | init body => exact absurd names (Builder.setterName_ne_initName field.name)
      | build => exact absurd names (Builder.setterName_ne_buildName field.name)
  | init body =>
      cases above with
      | set other isSet setter =>
          rw [setter.name] at names
          exact absurd names.symm (Builder.setterName_ne_initName other.name)
      | init other =>
          exact ⟨rfl, products⟩
      | build => exact absurd names initName_ne_buildName
  | build =>
      cases above with
      | set other isSet setter =>
          rw [setter.name] at names
          exact absurd names.symm (Builder.setterName_ne_buildName other.name)
      | init body => exact absurd names initName_ne_buildName.symm
      | build => exact ⟨rfl, products⟩

/-- What a class has for making builders can stand below what another has for that. -/
theorem factory_mayReplace {lowerName upperName : String}
    (builders : isAssignable model (.named lowerName) (.named upperName) = true)
    (below : lower ∈ productMethods lowerClass (.named lowerName))
    (above : upper ∈ productMethods upperClass (.named upperName)) :
    MayReplace model lower upper := by
  unfold productMethods at below above
  split at below
  · cases below
  · split at above
    · cases above
    · rw [List.mem_singleton.1 below, List.mem_singleton.1 above]
      exact ⟨rfl, builders⟩

end

/-! ### Whole programs -/

section

variable {hierarchy : Hierarchy} {config : Config} {workshop : Builder.Workshop}
  (completes : Completes hierarchy config workshop) (distinct : workshop.model.names.Nodup)
  (acyclic : hierarchy.Acyclic) (inRange : hierarchy.InRange)

include completes distinct acyclic inRange

theorem mayReplace_of_reaches {type above : TypeId}
    (reaches : Relation.TransGen (Walk.Leads workshop.model.superclass?) type above)
    {lower upper : Method} (lowerHere : Eval.Declares workshop.model type lower)
    (upperHere : Eval.Declares workshop.model above upper)
    (same : lower.sameSignature upper = true) : MayReplace workshop.model lower upper := by
  have program := program_of_completes completes distinct inRange
  have ⟨declaration, found, member⟩ := lowerHere
  cases origin_of_completes completes distinct found with
  | product id dataClass known here =>
      subst here
      obtain ⟨ancestor, isAbove, rfl⟩ := program.exists_of_reaches_product inRange
        (Hierarchy.get?_eq_some_lt known) reaches
      obtain ⟨other, knownToo⟩ := Hierarchy.exists_get?
        (Walk.lt_of_reaches (Hierarchy.bounded_of_inRange inRange) isAbove)
      obtain ⟨bearing, below⟩ := program.mem_productMethods known lowerHere
      obtain ⟨bearingToo, above⟩ := program.mem_productMethods knownToo upperHere
      have builders := program.isAssignable_builder acyclic inRange known knownToo bearing
        bearingToo isAbove
      exact factory_mayReplace builders below above
  | builder id dataClass known bearing here =>
      subst here
      obtain ⟨ancestor, isAbove, bearingToo, rfl⟩ :=
        program.exists_of_reaches_builder bearing reaches
      obtain ⟨other, knownToo⟩ := Hierarchy.exists_get? (program.known ancestor bearingToo)
      have products := program.isAssignable_product acyclic inRange known knownToo isAbove
      have builders := program.isAssignable_builder acyclic inRange known knownToo bearing
        bearingToo isAbove
      have below := Builder.purpose_of_mem_builderMethods
        ((program.declares_builder_iff known bearing).1 lowerHere)
      have above := Builder.purpose_of_mem_builderMethods
        ((program.declares_builder_iff knownToo bearingToo).1 upperHere)
      exact builder_mayReplace products builders below above same
  | host id dataClass known outer name listed blank =>
      rw [blank] at member
      cases member

theorem exists_of_isOverride {type : TypeId} {lower : Method}
    (lowerHere : Eval.Declares workshop.model type lower) (announced : lower.isOverride = true) :
    ∃ above upper, Relation.TransGen (Walk.Leads workshop.model.superclass?) type above ∧
      Eval.Declares workshop.model above upper ∧ lower.sameSignature upper = true := by
  have program := program_of_completes completes distinct inRange
  have ⟨declaration, found, member⟩ := lowerHere
  cases origin_of_completes completes distinct found with
  | product id dataClass known here =>
      subst here
      obtain ⟨-, below⟩ := program.mem_productMethods known lowerHere
      unfold productMethods at below
      split at below
      · cases below
      · rw [List.mem_singleton.1 below] at announced
        cases announced
  | builder id dataClass known bearing here =>
      -- What is overridden is the setter that the class of the property declares itself.
      subst here
      obtain ⟨holder, listed, field, declares, setter⟩ := Builder.inherited_of_isOverride
        ((program.declares_builder_iff known bearing).1 lowerHere) announced
      obtain ⟨ancestor, isAbove, bearingToo, knownToo⟩ :=
        (mem_bearersAbove_iff acyclic inRange).1 listed
      have own := Builder.isSetterOf_setterOf config.policy
        (.named (builderTypeName config.builderName holder.name)) field
      have declared := (program.declares_builder_iff knownToo bearingToo).2
        (Builder.setter_mem_builderMethods declares)
      exact ⟨_, _, program.reaches_builder acyclic inRange bearing bearingToo isAbove, declared,
        Builder.sameSignature_of_setters setter own⟩
  | host id dataClass known outer name listed blank =>
      rw [blank] at member
      cases member

end

/-- Overriding is legal in whatever a run on a hierarchy leaves. -/
theorem overriding_legal {hierarchy : Hierarchy} {config : Config} {context : Context}
    (acyclic : hierarchy.Acyclic) (inRange : hierarchy.InRange)
    (success : (({} : Pipeline).runHierarchy hierarchy config).result = .ok context)
    (distinct : context.model.names.Nodup) : LegalOverriding context.model := by
  obtain ⟨registry, -, completes⟩ := (reached_of_runHierarchy success).completes
  constructor
  · intro type above lower upper reaches lowerHere upperHere same
    exact mayReplace_of_reaches completes distinct acyclic inRange reaches lowerHere upperHere same
  · intro type lower lowerHere announced
    obtain ⟨above, upper, reaches, upperHere, same⟩ :=
      exists_of_isOverride completes distinct acyclic inRange lowerHere announced
    exact ⟨above, upper, reaches, upperHere, same,
      mayReplace_of_reaches completes distinct acyclic inRange reaches lowerHere upperHere same⟩

/-- Four classes in a line: an abstract one, one without a builder, one that declares a property
again, and one that adds nothing. -/
def redeclaringHierarchy : Hierarchy :=
  ⟨[{ name := "A"
      isAbstract := true
      fields := [
        { name := "x", element := .primitive .int },
        { name := "names", element := .primitive .string, cardinality := .list }] },
    { name := "B"
      superclass := some 0
      nested := ["Builder"] },
    { name := "C"
      superclass := some 1
      fields := [{ name := "x", element := .primitive .int }] },
    { name := "D"
      superclass := some 2 }]⟩

theorem redeclaring_overriding_legal :
    ∃ context type lower,
      (({} : Pipeline).runHierarchy redeclaringHierarchy {}).result = .ok context ∧
      LegalOverriding context.model ∧ Eval.Declares context.model type lower ∧
      lower.isOverride = true := by
  have acyclic : redeclaringHierarchy.Acyclic := by
    apply Hierarchy.acyclic_of_descending
    intro id superclass link
    match id, link with
    | 1, link => exact Option.some.inj link ▸ by decide
    | 2, link => exact Option.some.inj link ▸ by decide
    | 3, link => exact Option.some.inj link ▸ by decide
  have inRange : redeclaringHierarchy.InRange := by
    unfold Hierarchy.InRange
    decide
  let ending := ({} : Pipeline).runHierarchy redeclaringHierarchy {}
  have success : ending.result = .ok ending.context :=
    result_of_failure_eq_none (by decide +kernel)
  have distinct : ending.context.model.names.Nodup := by
    decide +kernel
  have announced : ∃ declaration ∈ ending.context.model.types, ∃ method ∈ declaration.methods,
      method.isOverride = true := by
    decide +kernel
  obtain ⟨declaration, member, lower, declares, announces⟩ := announced
  obtain ⟨type, found⟩ := List.mem_iff_getElem?.1 member
  exact ⟨ending.context, type, lower, success, overriding_legal acyclic inRange success distinct,
    ⟨declaration, found, declares⟩, announces⟩

end Run

end BuilderSynthesis
