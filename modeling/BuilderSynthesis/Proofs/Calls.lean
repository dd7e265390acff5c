import BuilderSynthesis.Proofs.Binding
import BuilderSynthesis.Proofs.Signature
import BuilderSynthesis.Proofs.Synthesis

/-!
Contract: which methods the calls between callers, builders and products are bound to.

Owns:
- `methods_builder`, the methods of a builder class by class of its chain;
- the candidates for setters, for `init`, for `build` and for the method of a product that
  makes a builder;
- what each of these calls is resolved and dispatched to.

Does not own: what the methods do.
-/

namespace BuilderSynthesis.Run.Synthesis

open BuilderSynthesis.Builder (Property buildMethod buildName factoryMethod factoryName initEnd
  initMethod initName initStatementOf ownProperties overriding productMethods setterName setterOf)
open BuilderSynthesis.Code (Declaration Method TypeRef)
open BuilderSynthesis.Eval (Binding Candidate accepts acceptsAll appliesPacked appliesPlainly
  candidates declaredCandidates dispatch overrides resolve)
open BuilderSynthesis.Schema (ClassId DataClass Field)

variable (synthesis : Synthesis)

/-- The setter of a property of a class in the builder of another. -/
def setterIn (id holder : ClassId) (field : Field) : Method :=
  let setter := setterOf synthesis.config.policy (.named (synthesis.builderName id))
    (Property.ofField field)
  if id = holder then setter else overriding setter

def initIn (id : ClassId) : Method :=
  initMethod (.named (synthesis.productName id))
    ((ownProperties (synthesis.classAt id)).map (initStatementOf synthesis.config.policy) ++
      [initEnd (bearersAbove synthesis.hierarchy synthesis.bears id)])

def buildIn? (id : ClassId) : Option Method :=
  if (synthesis.classAt id).isAbstract then none
  else some (buildMethod (synthesis.classAt id) (.named (synthesis.productName id)))

def factoryIn? (id : ClassId) : Option Method :=
  if synthesis.bears id && !(synthesis.classAt id).isAbstract then
    some (factoryMethod (synthesis.classAt id) (.named (synthesis.builderName id)))
  else none

/-- The properties that a builder sets, with the classes that declare them. -/
def properties (id : ClassId) : List (ClassId × Field) :=
  (synthesis.chain id).flatMap (fun holder =>
    (synthesis.classAt holder).instanceFields.map (fun field => (holder, field)))

variable {synthesis}

/-! ### Properties -/

theorem mem_properties_iff {id holder : ClassId} {field : Field} :
    (holder, field) ∈ synthesis.properties id ↔
      holder ∈ synthesis.chain id ∧ synthesis.Declares holder field := by
  unfold properties
  rw [List.mem_flatMap]
  constructor
  · rintro ⟨other, member, here⟩
    obtain ⟨declared, declares, same⟩ := List.mem_map.1 here
    obtain ⟨rfl, rfl⟩ := Prod.mk.inj same
    exact ⟨member, declares⟩
  · rintro ⟨member, declares⟩
    exact ⟨holder, member, List.mem_map.2 ⟨field, declares, rfl⟩⟩

theorem identifier_of_declares {id : Nat} (known : id < synthesis.hierarchy.size) {field : Field}
    (declares : synthesis.Declares id field) : Java.nameFault? field.name = none :=
  synthesis.wellFormed.identifiers _ (classAt_mem known) field (List.mem_filter.1 declares).1

/-- The setters that a builder can have differ in their names. -/
theorem setterNames_nodup {id : ClassId} (bearing : synthesis.bears id = true) :
    ((synthesis.properties id).map (fun entry => setterName entry.2.name)).Nodup := by
  have known := known_of_bears bearing
  have apart : ∀ left ∈ synthesis.properties id, ∀ right ∈ synthesis.properties id,
      setterName left.2.name = setterName right.2.name → left = right := by
    intro left one right two same
    obtain ⟨above, declares⟩ := mem_properties_iff.1 one
    obtain ⟨aboveToo, declaresToo⟩ := mem_properties_iff.1 two
    obtain ⟨holders, fields⟩ := property_unique known (mem_lineage_of_mem_chain above) declares
      (mem_lineage_of_mem_chain aboveToo) declaresToo
      (Builder.propertyStem_eq_of_setterName_eq same)
    exact Prod.ext holders fields
  have once : (synthesis.properties id).Nodup := by
    unfold properties
    rw [List.nodup_flatMap]
    constructor
    · intro holder member
      have declared := fields_nodup (known_of_bears (bears_of_mem_chain bearing member))
      have instance' := declared.of_map.filter Field.isInstance
      exact instance'.map (fun left right same => (Prod.mk.inj same).2)
    · refine (chain_nodup bearing).imp ?_
      intro earlier later different entry one two
      obtain ⟨_, _, rfl⟩ := List.mem_map.1 one
      obtain ⟨_, _, same⟩ := List.mem_map.1 two
      exact different (Prod.mk.inj same).1.symm
  exact List.Nodup.map_on apart once

/-! ### The methods of a builder -/

theorem bearersAbove_eq {id : ClassId} (bearing : synthesis.bears id = true) :
    bearersAbove synthesis.hierarchy synthesis.bears id =
      ((synthesis.hierarchy.ancestors id).filter synthesis.bears).map synthesis.classAt := by
  have known : ∀ holder ∈ (synthesis.hierarchy.ancestors id).filter synthesis.bears,
      synthesis.hierarchy.get? holder = some (synthesis.classAt holder) := by
    intro holder member
    have above : holder ∈ synthesis.chain id := List.mem_cons_of_mem id member
    exact get?_classAt (known_of_bears (bears_of_mem_chain bearing above))
  unfold bearersAbove
  rw [← List.filterMap_eq_map]
  exact List.filterMap_congr known

theorem properties_eq (id : ClassId) :
    (synthesis.properties id).map (fun entry => Property.ofField entry.2) =
      ownProperties (synthesis.classAt id) ++
        (((synthesis.hierarchy.ancestors id).filter synthesis.bears).map
          synthesis.classAt).flatMap ownProperties := by
  unfold properties chain ownProperties
  rw [List.flatMap_cons, List.map_append, List.map_map, List.map_flatMap, List.flatMap_map]
  simp only [List.map_map]
  rfl

/-- Every setter of a class above is overridden by a setter that stores as well, since no two
properties of a chain have one setter. -/
theorem inheritedSetters_builder {id : ClassId} (bearing : synthesis.bears id = true)
    (builderType : TypeRef) :
    Builder.inheritedSetters synthesis.config.policy builderType
        (bearersAbove synthesis.hierarchy synthesis.bears id)
        ((ownProperties (synthesis.classAt id)).map (fun property =>
          (setterOf synthesis.config.policy builderType property).signature))
        ((ownProperties (synthesis.classAt id)).map Property.name) =
      ((bearersAbove synthesis.hierarchy synthesis.bears id).flatMap ownProperties).map
        (fun property => overriding (setterOf synthesis.config.policy builderType property)) := by
  have names := setterNames_nodup bearing
  have known : ∀ entry ∈ synthesis.properties id, Java.nameFault? entry.2.name = none := by
    intro entry member
    obtain ⟨above, declares⟩ := mem_properties_iff.1 member
    exact identifier_of_declares (known_of_bears (bears_of_mem_chain bearing above)) declares
  have signatures : ((synthesis.properties id).map (fun entry =>
      (setterOf synthesis.config.policy builderType (Property.ofField entry.2)).signature)).Nodup
      := by
    rw [List.Nodup, List.pairwise_map] at names ⊢
    refine names.imp_of_mem ?_
    intro left right one two different same
    apply different
    have stems := Builder.propertyStem_eq_of_signature (known left one) (known right two) same
    exact congrArg ("with" ++ ·) stems
  have fields : ((synthesis.properties id).map (fun entry => entry.2.name)).Nodup := by
    rw [List.Nodup, List.pairwise_map] at names ⊢
    exact names.imp (fun different same => different (congrArg setterName same))
  rw [bearersAbove_eq bearing]
  apply Builder.inheritedSetters_eq
  · rw [← List.map_append, ← properties_eq, List.map_map]
    exact signatures
  · rw [← List.map_append, ← properties_eq, List.map_map]
    exact fields

/-- The methods of a builder: setters, `init`, further setters, and `build` for a class that is
not abstract. -/
theorem methods_builder {id : ClassId} (bearing : synthesis.bears id = true)
    {declaration : Declaration}
    (isBuilder : IsBuilder synthesis.hierarchy synthesis.config synthesis.bears synthesis.model id
      (synthesis.classAt id) declaration) :
    ∃ own inherited, declaration.methods =
        own ++ [synthesis.initIn id] ++ inherited ++ (synthesis.buildIn? id).toList ∧
      own ++ inherited = (synthesis.properties id).map (fun entry =>
        synthesis.setterIn id entry.1 entry.2) := by
  let policy := synthesis.config.policy
  let builderType : TypeRef := .named (synthesis.builderName id)
  refine ⟨(ownProperties (synthesis.classAt id)).map (setterOf policy builderType),
    ((bearersAbove synthesis.hierarchy synthesis.bears id).flatMap ownProperties).map
      (fun property => overriding (setterOf policy builderType property)), ?_, ?_⟩
  · rw [isBuilder.methods]
    unfold Builder.builderMethods
    rw [← inheritedSetters_builder bearing builderType]
    have last : (if (synthesis.classAt id).isAbstract then []
        else [buildMethod (synthesis.classAt id) (.named (synthesis.productName id))]) =
          (synthesis.buildIn? id).toList := by
      unfold buildIn?
      split <;> rfl
    rw [← last]
    rfl
  · have others : ∀ holder ∈ (synthesis.hierarchy.ancestors id).filter synthesis.bears,
        id ≠ holder := by
      intro holder member same
      exact (List.nodup_cons.1 (chain_nodup bearing)).1 (same ▸ member)
    rw [bearersAbove_eq bearing]
    unfold properties chain ownProperties
    rw [List.flatMap_cons, List.map_append, List.map_map, List.map_map, List.map_flatMap,
      List.flatMap_map, List.map_flatMap]
    congr 1
    · apply List.map_congr_left
      intro field _
      simp only [setterIn, Function.comp_apply, if_true]
      rfl
    · apply List.flatMap_congr
      intro holder member
      rw [List.map_map, List.map_map]
      apply List.map_congr_left
      intro field _
      simp only [setterIn, Function.comp_apply, if_neg (others holder member)]
      rfl

/-! ### Methods by name -/

theorem isSetterOf_setterIn (id holder : ClassId) (field : Field) :
    Builder.IsSetterOf (.named (synthesis.builderName id)) field
      (synthesis.setterIn id holder field) := by
  unfold setterIn
  by_cases own : id = holder
  · simp only [own, if_true]
    exact Builder.isSetterOf_setterOf _ _ field
  · simp only [own, if_false]
    exact Builder.isSetterOf_override _ _ [] field

/-- Whether a call of a method, by its name, can mean a method of an object. -/
def named (name : String) (method : Method) : Bool :=
  method.name == name && method.isStatic == false

theorem named_setterIn (id holder : ClassId) (field : Field) (name : String) :
    named name (synthesis.setterIn id holder field) = (setterName field.name == name) := by
  have setter := @isSetterOf_setterIn synthesis id holder field
  unfold named
  rw [setter.name, setter.isInstance]
  exact Bool.and_true _

theorem filter_eq_nil_of_name_ne {name : String} {methods : List Method}
    (different : ∀ method ∈ methods, method.name ≠ name) : methods.filter (named name) = [] := by
  rw [List.filter_eq_nil_iff]
  intro method member holds
  simp only [named, Bool.and_eq_true, beq_iff_eq] at holds
  exact different method member holds.1

theorem name_of_mem_buildIn? {id : ClassId} {method : Method}
    (member : method ∈ (synthesis.buildIn? id).toList) : method.name = buildName := by
  unfold buildIn? at member
  split at member
  · cases member
  · rw [Option.toList_some, List.mem_singleton] at member
    rw [member]
    rfl

section

variable {id : ClassId} (bearing : synthesis.bears id = true) {declaration : Declaration}
  (isBuilder : IsBuilder synthesis.hierarchy synthesis.config synthesis.bears synthesis.model id
    (synthesis.classAt id) declaration)

include bearing isBuilder

theorem filter_setters (field : String) :
    declaration.methods.filter (named (setterName field)) =
      ((synthesis.properties id).filter (fun entry =>
        setterName entry.2.name == setterName field)).map (fun entry =>
          synthesis.setterIn id entry.1 entry.2) := by
  obtain ⟨own, inherited, methods, setters⟩ := methods_builder bearing isBuilder
  have init : [synthesis.initIn id].filter (named (setterName field)) = [] := by
    apply filter_eq_nil_of_name_ne
    intro method member
    rw [List.mem_singleton.1 member]
    exact (Builder.setterName_ne_initName field).symm
  have build : (synthesis.buildIn? id).toList.filter (named (setterName field)) = [] := by
    apply filter_eq_nil_of_name_ne
    intro method member
    rw [name_of_mem_buildIn? member]
    exact (Builder.setterName_ne_buildName field).symm
  rw [methods, List.filter_append, List.filter_append, List.filter_append, init, build,
    List.append_nil, List.append_nil, ← List.filter_append, setters, List.filter_map]
  congr 2
  funext entry
  exact named_setterIn id entry.1 entry.2 (setterName field)

/-- Under a name that no setter has there are at most `init` and `build`. -/
theorem filter_others {name : String} (different : ∀ field, setterName field ≠ name) :
    declaration.methods.filter (named name) =
      [synthesis.initIn id].filter (named name) ++
        (synthesis.buildIn? id).toList.filter (named name) := by
  obtain ⟨own, inherited, methods, setters⟩ := methods_builder bearing isBuilder
  have others : ∀ method ∈ own ++ inherited, method.name ≠ name := by
    intro method member
    rw [setters] at member
    obtain ⟨entry, -, rfl⟩ := List.mem_map.1 member
    rw [(isSetterOf_setterIn id entry.1 entry.2).name]
    exact different entry.2.name
  have before := filter_eq_nil_of_name_ne (fun method member =>
    others method (List.mem_append_left inherited member))
  have after := filter_eq_nil_of_name_ne (fun method member =>
    others method (List.mem_append_right own member))
  rw [methods, List.filter_append, List.filter_append, List.filter_append, before, after,
    List.nil_append, List.append_nil]

theorem filter_init : declaration.methods.filter (named initName) = [synthesis.initIn id] := by
  have build : (synthesis.buildIn? id).toList.filter (named initName) = [] := by
    apply filter_eq_nil_of_name_ne
    intro method member
    rw [name_of_mem_buildIn? member]
    decide
  rw [filter_others bearing isBuilder Builder.setterName_ne_initName, build, List.append_nil]
  rfl

theorem filter_build :
    declaration.methods.filter (named buildName) = (synthesis.buildIn? id).toList := by
  have init : [synthesis.initIn id].filter (named buildName) = [] := by
    apply filter_eq_nil_of_name_ne
    intro method member
    rw [List.mem_singleton.1 member]
    exact show initName ≠ buildName by decide
  have build : (synthesis.buildIn? id).toList.filter (named buildName) =
      (synthesis.buildIn? id).toList := by
    unfold buildIn?
    split <;> rfl
  rw [filter_others bearing isBuilder Builder.setterName_ne_buildName, init, build,
    List.nil_append]

end

/-- What a builder of a chain declares under the name of the setter of a property. -/
theorem filter_setter {view id holder : ClassId} (bearing : synthesis.bears view = true)
    (member : id ∈ synthesis.chain view) (above : holder ∈ synthesis.chain view) {field : Field}
    (declares : synthesis.Declares holder field) {declaration : Declaration}
    (isBuilder : IsBuilder synthesis.hierarchy synthesis.config synthesis.bears synthesis.model id
      (synthesis.classAt id) declaration) :
    declaration.methods.filter (named (setterName field.name)) =
      (if holder ∈ synthesis.chain id then some (synthesis.setterIn id holder field)
        else none).toList := by
  have bears := bears_of_mem_chain bearing member
  rw [filter_setters bears isBuilder]
  by_cases seen : holder ∈ synthesis.chain id
  · have entry : (holder, field) ∈ synthesis.properties id :=
      mem_properties_iff.2 ⟨seen, declares⟩
    have single := Lists.filter_key_of_nodup (setterNames_nodup bears) entry
    rw [if_pos seen, single]
    rfl
  · have none' : (synthesis.properties id).filter (fun entry =>
        setterName entry.2.name == setterName field.name) = [] := by
      rw [List.filter_eq_nil_iff]
      rintro ⟨other, declared⟩ listed same
      obtain ⟨there, declaresToo⟩ := mem_properties_iff.1 listed
      have stems := Builder.propertyStem_eq_of_setterName_eq (beq_iff_eq.1 same)
      have holders := (property_unique (known_of_bears bearing)
        (mem_lineage_of_mem_chain (chain_subset bearing member there)) declaresToo
        (mem_lineage_of_mem_chain above) declares stems).1
      exact seen (holders ▸ there)
    rw [if_neg seen, none']
    rfl

/-! ### Candidates -/

theorem declaredCandidates_builder {id : ClassId} (bearing : synthesis.bears id = true)
    {name : String} {methods : List Method}
    (declared : ∀ declaration, IsBuilder synthesis.hierarchy synthesis.config synthesis.bears
      synthesis.model id (synthesis.classAt id) declaration →
        declaration.methods.filter (named name) = methods) :
    declaredCandidates synthesis.model name false (synthesis.builder id) =
      methods.map (Candidate.mk (synthesis.builder id)) := by
  obtain ⟨declaration, found, isBuilder⟩ := synthesis.isBuilder bearing
  unfold declaredCandidates
  rw [found]
  exact congrArg (List.map (Candidate.mk (synthesis.builder id))) (declared declaration isBuilder)

theorem find?_overrides_builder {id : ClassId} (bearing : synthesis.bears id = true)
    (binding : Binding) {methods : List Method}
    (declared : ∀ declaration, IsBuilder synthesis.hierarchy synthesis.config synthesis.bears
      synthesis.model id (synthesis.classAt id) declaration →
        declaration.methods.filter (named binding.method.name) = methods) :
    (synthesis.model.get? (synthesis.builder id)).bind (fun declaration =>
        declaration.methods.find? (overrides binding)) =
      methods.find? (overrides binding) := by
  obtain ⟨declaration, found, isBuilder⟩ := synthesis.isBuilder bearing
  rw [found, Option.bind_some, ← declared declaration isBuilder]
  apply Lists.find?_eq_find?_filter
  intro method holds
  simp only [overrides, Bool.and_eq_true, Bool.not_eq_true'] at holds
  simp only [named, holds.1.1, holds.1.2, BEq.rfl, Bool.and_self]

theorem overrides_self {owner : Code.TypeId} {method : Method} {isPacked : Bool}
    (isInstance : method.isStatic = false) : overrides ⟨owner, method, isPacked⟩ method = true := by
  simp [overrides, isInstance]

section Setter

variable {view holder : ClassId} (above : holder ∈ synthesis.chain view) {field : Field}
  (declares : synthesis.Declares holder field)

include above declares

theorem candidates_setter (bearing : synthesis.bears view = true) :
    candidates synthesis.model (synthesis.builder view) (setterName field.name) false =
      [⟨synthesis.builder view, synthesis.setterIn view holder field⟩] := by
  let declared : ClassId → Option Method := fun id =>
    if holder ∈ synthesis.chain id then some (synthesis.setterIn id holder field) else none
  have single : ∀ id ∈ synthesis.chain view,
      declaredCandidates synthesis.model (setterName field.name) false (synthesis.builder id) =
        (declared id).toList.map (Candidate.mk (synthesis.builder id)) := by
    intro id member
    apply declaredCandidates_builder (bears_of_mem_chain bearing member)
    intro declaration isBuilder
    exact filter_setter bearing member above declares isBuilder
  have alike : ∀ id ∈ synthesis.chain view, ∀ method, declared id = some method →
      method.erasedParameters = [.ofField field.element field.cardinality] := by
    intro id _ method found
    have same := Option.some.inj (Option.ite_none_right_eq_some.1 found).2
    rw [← same]
    exact (isSetterOf_setterIn id holder field).parameters
  rw [Eval.candidates_of_alike (supertypes_builder bearing) single alike]
  have first : declared view = some (synthesis.setterIn view holder field) := if_pos above
  unfold chain
  rw [List.findSome?_cons, first]
  rfl

theorem dispatch_setter {id : ClassId} (bearingToo : synthesis.bears id = true)
    (member : view ∈ synthesis.chain id) (isPacked : Bool) :
    dispatch synthesis.model (synthesis.builder id)
        ⟨synthesis.builder view, synthesis.setterIn view holder field, isPacked⟩ =
      ⟨synthesis.builder id, synthesis.setterIn id holder field, isPacked⟩ := by
  have own := chain_subset bearingToo member above
  let declared : ClassId → Option Method := fun id =>
    if holder ∈ synthesis.chain id then some (synthesis.setterIn id holder field) else none
  have single : ∀ other ∈ synthesis.chain id,
      (synthesis.model.get? (synthesis.builder other)).bind (fun declaration =>
        declaration.methods.find? (overrides
          ⟨synthesis.builder view, synthesis.setterIn view holder field, isPacked⟩)) =
        declared other := by
    intro other there
    have methods : ∀ declaration, IsBuilder synthesis.hierarchy synthesis.config synthesis.bears
        synthesis.model other (synthesis.classAt other) declaration →
          declaration.methods.filter (named (synthesis.setterIn view holder field).name) =
            (declared other).toList := by
      intro declaration isBuilder
      rw [(isSetterOf_setterIn view holder field).name]
      exact filter_setter bearingToo there own declares isBuilder
    rw [find?_overrides_builder (bears_of_mem_chain bearingToo there) _ methods]
    · simp only [declared]
      split
      · have setter := @isSetterOf_setterIn synthesis other holder field
        have viewed := @isSetterOf_setterIn synthesis view holder field
        rw [Option.toList_some, List.find?_cons_of_pos]
        simp only [overrides, setter.name, viewed.name, setter.isInstance, setter.parameters,
          viewed.parameters, BEq.rfl, Bool.not_false, Bool.and_self]
      · rfl
  have nearest : (synthesis.chain id).find? (fun other => (declared other).isSome) = some id := by
    have first : (declared id).isSome = true := by
      simp only [declared, if_pos own, Option.isSome_some]
    unfold chain
    rw [List.find?_cons, first]
  exact Eval.dispatch_eq (supertypes_builder bearingToo) single member rfl (if_pos above) nearest
    (if_pos own)

/-- A call of a setter with an argument of the type of the property. -/
theorem resolve_setter_plain (bearing : synthesis.bears view = true) {argument : Option TypeRef}
    (fits : accepts synthesis.model (.ofField field.element field.cardinality) argument = true) :
    resolve synthesis.model (synthesis.builder view) (setterName field.name) [argument] false =
      .ok ⟨synthesis.builder view, synthesis.setterIn view holder field, false⟩ := by
  apply Eval.resolve_plain (candidates_setter above declares bearing)
  show acceptsAll synthesis.model (synthesis.setterIn view holder field).erasedParameters
    [argument] = true
  rw [(isSetterOf_setterIn view holder field).parameters]
  exact (Eval.acceptsAll_single _ _).2 ⟨argument, rfl, fits⟩

/-- A call of a setter with elements of an array. -/
theorem resolve_setter_packed (bearing : synthesis.bears view = true)
    {arguments : List (Option TypeRef)}
    (misfits : acceptsAll synthesis.model [.ofField field.element field.cardinality] arguments =
      false)
    (packed : appliesPacked synthesis.model arguments (synthesis.setterIn view holder field) =
      true) :
    resolve synthesis.model (synthesis.builder view) (setterName field.name) arguments false =
      .ok ⟨synthesis.builder view, synthesis.setterIn view holder field, true⟩ := by
  apply Eval.resolve_packed (candidates_setter above declares bearing) ?_ packed
  show acceptsAll synthesis.model (synthesis.setterIn view holder field).erasedParameters
    arguments = false
  rw [(isSetterOf_setterIn view holder field).parameters]
  exact misfits

/-- A call of a setter with other arguments is refused. -/
theorem resolve_setter_none (bearing : synthesis.bears view = true)
    {arguments : List (Option TypeRef)}
    (misfits : acceptsAll synthesis.model [.ofField field.element field.cardinality] arguments =
      false)
    (unpacked : appliesPacked synthesis.model arguments (synthesis.setterIn view holder field) =
      false) :
    ∃ fault, resolve synthesis.model (synthesis.builder view) (setterName field.name) arguments
      false = .error fault := by
  apply Eval.resolve_none
  rw [candidates_setter above declares bearing]
  intro candidate member
  rw [List.mem_singleton.1 member]
  refine ⟨?_, unpacked⟩
  show acceptsAll synthesis.model (synthesis.setterIn view holder field).erasedParameters
    arguments = false
  rw [(isSetterOf_setterIn view holder field).parameters]
  exact misfits

omit above declares in
/-- A setter gathers arguments exactly if its property is an array and all are of the element
type. -/
theorem appliesPacked_setter (arguments : List (Option TypeRef)) :
    appliesPacked synthesis.model arguments (synthesis.setterIn view holder field) = true ↔
      field.cardinality = .array ∧
        ∀ argument ∈ arguments, accepts synthesis.model (.ofElement field.element) argument =
          true := by
  have parameters := (@isSetterOf_setterIn synthesis view holder field).parameters
  have variadic : (synthesis.setterIn view holder field).isVariadic =
      (field.cardinality == .array) := by
    unfold setterIn
    obtain ⟨name, element, cardinality, isStatic, doc⟩ := field
    by_cases own : view = holder <;> cases cardinality <;> simp only [own, if_true, if_false] <;>
      rfl
  unfold appliesPacked
  rw [parameters, variadic]
  cases count : field.cardinality with
  | single => simp
  | list => simp
  | array =>
      simp [TypeRef.ofField, TypeRef.element?, acceptsAll, List.all_eq_true]

end Setter

/-- A call of a setter of no property is refused. -/
theorem resolve_setter_unknown {view : ClassId} (bearing : synthesis.bears view = true)
    {name : String}
    (unknown : ∀ entry ∈ synthesis.properties view, setterName entry.2.name ≠ setterName name)
    (arguments : List (Option TypeRef)) :
    ∃ fault, resolve synthesis.model (synthesis.builder view) (setterName name) arguments
      false = .error fault := by
  let declared : ClassId → Option Method := fun _ => none
  have nowhere : ∀ id ∈ synthesis.chain view,
      declaredCandidates synthesis.model (setterName name) false (synthesis.builder id) =
        (declared id).toList.map (Candidate.mk (synthesis.builder id)) := by
    intro id member
    have bears := bears_of_mem_chain bearing member
    apply declaredCandidates_builder bears
    intro declaration isBuilder
    have others : (synthesis.properties id).filter (fun entry =>
        setterName entry.2.name == setterName name) = [] := by
      rw [List.filter_eq_nil_iff]
      rintro ⟨holder, field⟩ listed same
      obtain ⟨above, declares⟩ := mem_properties_iff.1 listed
      exact unknown (holder, field)
        (mem_properties_iff.2 ⟨chain_subset bearing member above, declares⟩) (beq_iff_eq.1 same)
    rw [filter_setters bears isBuilder, others]
    rfl
  have alike : ∀ id ∈ synthesis.chain view, ∀ method, declared id = some method →
      method.erasedParameters = [] := by
    intro id _ method impossible
    cases impossible
  have none' : (synthesis.chain view).findSome? (fun id =>
      (declared id).map (Candidate.mk (synthesis.builder id))) = none :=
    List.findSome?_eq_none_iff.2 (fun _ _ => rfl)
  apply Eval.resolve_none
  rw [Eval.candidates_of_alike (supertypes_builder bearing) nowhere alike, none']
  intro candidate impossible
  cases impossible

/-! ### Calls of `init` -/

/-- A product is accepted for every class of its lineage. -/
theorem accepts_product {id holder : Nat} (known : id < synthesis.hierarchy.size)
    (above : holder ∈ synthesis.lineage id) :
    accepts synthesis.model (.named (synthesis.productName holder))
      (some (.named (synthesis.productName id))) = true := by
  have there := known_of_mem_lineage known above
  have subtype : Eval.isSubclass synthesis.model (synthesis.productName id)
      (synthesis.productName holder) = true := by
    unfold Eval.isSubclass
    rw [lookup_product known, lookup_product there]
    show (synthesis.model.supertypes (synthesis.product id)).contains
      (synthesis.product holder) = true
    rw [supertypes_product known, List.contains_iff_mem]
    exact List.mem_map.2 ⟨holder, above, rfl⟩
  show (synthesis.productName id == synthesis.productName holder ||
    synthesis.productName holder == Code.objectType ||
      Eval.isSubclass synthesis.model (synthesis.productName id) (synthesis.productName holder)) =
        true
  rw [subtype, Bool.or_true]

theorem erasedParameters_initIn (id : ClassId) :
    (synthesis.initIn id).erasedParameters = [.named (synthesis.productName id)] := rfl

theorem resolve_init {id view : ClassId} (bearing : synthesis.bears view = true)
    (known : id < synthesis.hierarchy.size) (above : view ∈ synthesis.lineage id) :
    resolve synthesis.model (synthesis.builder view) initName
        [some (.named (synthesis.productName id))] false =
      .ok ⟨synthesis.builder view, synthesis.initIn view, false⟩ := by
  have single : ∀ other ∈ synthesis.chain view,
      declaredCandidates synthesis.model initName false (synthesis.builder other) =
        [⟨synthesis.builder other, synthesis.initIn other⟩] := by
    intro other member
    have bears := bears_of_mem_chain bearing member
    exact declaredCandidates_builder bears (fun _ isBuilder => filter_init bears isBuilder)
  have apart : (synthesis.chain view).Pairwise (fun earlier later =>
      (synthesis.initIn earlier).erasedParameters ≠
        (synthesis.initIn later).erasedParameters) := by
    refine (chain_nodup bearing).imp_of_mem ?_
    intro earlier later one two different same
    rw [erasedParameters_initIn, erasedParameters_initIn, List.cons.injEq,
      TypeRef.named.injEq] at same
    exact different (eq_of_productName_eq (known_of_bears (bears_of_mem_chain bearing one))
      (known_of_bears (bears_of_mem_chain bearing two)) same.1)
  have found := Eval.candidates_of_apart (supertypes_builder bearing) single apart
  have accepted : ∀ {lower : Nat}, lower < synthesis.hierarchy.size →
      view ∈ synthesis.lineage lower → ∀ other ∈ synthesis.chain view,
        acceptsAll synthesis.model (synthesis.initIn other).erasedParameters
          [some (.named (synthesis.productName lower))] = true := by
    intro lower small below other member
    rw [erasedParameters_initIn]
    apply (Eval.acceptsAll_single _ _).2 ⟨_, rfl, ?_⟩
    apply accepts_product small
    obtain ⟨before, split⟩ := lineage_suffix below
    rw [split]
    exact List.mem_append_right before (mem_lineage_of_mem_chain member)
  unfold chain at found accepted
  rw [List.map_cons] at found
  apply Eval.resolve_nearest found
  · intro candidate member
    rw [← List.map_cons (f := fun other => (⟨synthesis.builder other, synthesis.initIn other⟩ :
      Candidate))] at member
    obtain ⟨other, there, rfl⟩ := List.mem_map.1 member
    exact accepted known above other there
  · intro candidate member
    rw [← List.map_cons (f := fun other => (⟨synthesis.builder other, synthesis.initIn other⟩ :
      Candidate))] at member
    obtain ⟨other, there, rfl⟩ := List.mem_map.1 member
    exact accepted (known_of_bears bearing) List.mem_cons_self other there

theorem dispatch_init {id view : ClassId} (bearing : synthesis.bears id = true)
    (member : view ∈ synthesis.chain id) :
    dispatch synthesis.model (synthesis.builder id)
        ⟨synthesis.builder view, synthesis.initIn view, false⟩ =
      ⟨synthesis.builder view, synthesis.initIn view, false⟩ := by
  let declared : ClassId → Option Method := fun other =>
    if other = view then some (synthesis.initIn view) else none
  have single : ∀ other ∈ synthesis.chain id,
      (synthesis.model.get? (synthesis.builder other)).bind (fun declaration =>
        declaration.methods.find? (overrides
          ⟨synthesis.builder view, synthesis.initIn view, false⟩)) = declared other := by
    intro other there
    have bears := bears_of_mem_chain bearing there
    have methods : ∀ declaration, IsBuilder synthesis.hierarchy synthesis.config synthesis.bears
        synthesis.model other (synthesis.classAt other) declaration →
          declaration.methods.filter (named (synthesis.initIn view).name) =
            [synthesis.initIn other] :=
      fun _ isBuilder => filter_init bears isBuilder
    rw [find?_overrides_builder bears _ methods]
    simp only [declared]
    by_cases same : other = view
    · rw [if_pos same, same, List.find?_cons_of_pos (overrides_self rfl)]
    · have different : ¬ overrides ⟨synthesis.builder view, synthesis.initIn view, false⟩
          (synthesis.initIn other) = true := by
        intro again
        simp only [overrides, Bool.and_eq_true, beq_iff_eq, erasedParameters_initIn,
          List.cons.injEq, TypeRef.named.injEq] at again
        exact same (eq_of_productName_eq (known_of_bears bears)
          (known_of_bears (bears_of_mem_chain bearing member)) again.2.1)
      rw [if_neg same, List.find?_cons_of_neg different, List.find?_nil]
  have own : declared view = some (synthesis.initIn view) := if_pos rfl
  have nearest : (synthesis.chain id).find? (fun other => (declared other).isSome) =
      some view := by
    apply Lists.find?_eq_of_unique member
    · rw [own]
      rfl
    · intro other _ holds
      by_contra different
      simp only [declared, if_neg different] at holds
      cases holds
  exact Eval.dispatch_eq (supertypes_builder bearing) single member rfl own nearest own

/-! ### Calls of `build` -/

theorem declaredCandidates_build {view id : ClassId} (bearing : synthesis.bears view = true)
    (member : id ∈ synthesis.chain view) :
    declaredCandidates synthesis.model buildName false (synthesis.builder id) =
      (synthesis.buildIn? id).toList.map (Candidate.mk (synthesis.builder id)) := by
  have bears := bears_of_mem_chain bearing member
  exact declaredCandidates_builder bears (fun _ isBuilder => filter_build bears isBuilder)

theorem of_buildIn?_eq_some {id : ClassId} {method : Method}
    (found : synthesis.buildIn? id = some method) :
    method = buildMethod (synthesis.classAt id) (.named (synthesis.productName id)) :=
  (Option.some.inj (Option.ite_none_left_eq_some.1 found).2).symm

theorem candidates_build {view : ClassId} (bearing : synthesis.bears view = true) :
    candidates synthesis.model (synthesis.builder view) buildName false =
      ((synthesis.chain view).findSome? (fun id =>
        (synthesis.buildIn? id).map (Candidate.mk (synthesis.builder id)))).toList := by
  have alike : ∀ id ∈ synthesis.chain view, ∀ method, synthesis.buildIn? id = some method →
      method.erasedParameters = [] := by
    intro id _ method found
    rw [of_buildIn?_eq_some found]
    rfl
  exact Eval.candidates_of_alike (supertypes_builder bearing)
    (fun id member => declaredCandidates_build bearing member) alike

/-- The nearest class of a chain that is not abstract. -/
def maker? (synthesis : Synthesis) (id : ClassId) : Option ClassId :=
  (synthesis.chain id).find? (fun other => (synthesis.buildIn? other).isSome)

theorem maker?_eq_self {id : ClassId} (isConcrete : (synthesis.classAt id).isAbstract = false) :
    synthesis.maker? id = some id := by
  have own : (synthesis.buildIn? id).isSome = true := by
    unfold buildIn?
    rw [isConcrete]
    rfl
  unfold maker? chain
  rw [List.find?_cons, own]

theorem buildIn?_of_maker? {id maker : ClassId} (found : synthesis.maker? id = some maker) :
    synthesis.buildIn? maker =
      some (buildMethod (synthesis.classAt maker) (.named (synthesis.productName maker))) := by
  have builds := List.find?_some (show (synthesis.chain id).find? _ = some maker from found)
  obtain ⟨method, own⟩ := Option.isSome_iff_exists.1 builds
  rw [own, of_buildIn?_eq_some own]

theorem resolve_build {view maker : ClassId} (bearing : synthesis.bears view = true)
    (found : synthesis.maker? view = some maker) :
    resolve synthesis.model (synthesis.builder view) buildName [] false =
      .ok ⟨synthesis.builder maker, buildMethod (synthesis.classAt maker)
        (.named (synthesis.productName maker)), false⟩ := by
  have first : (synthesis.chain view).findSome? (fun id =>
      (synthesis.buildIn? id).map (Candidate.mk (synthesis.builder id))) =
        some ⟨synthesis.builder maker, buildMethod (synthesis.classAt maker)
          (.named (synthesis.productName maker))⟩ := by
    apply @Lists.findSome?_eq_of_find? _ _ _ _ maker
    · simp only [Option.isSome_map]
      exact found
    · rw [buildIn?_of_maker? found]
      rfl
  have single := candidates_build bearing
  rw [first] at single
  exact Eval.resolve_plain single rfl

/-- A call of `build` is refused where all classes are abstract. -/
theorem resolve_build_none {view : ClassId} (bearing : synthesis.bears view = true)
    (absent : synthesis.maker? view = none) :
    ∃ fault, resolve synthesis.model (synthesis.builder view) buildName [] false =
      .error fault := by
  have none' : (synthesis.chain view).findSome? (fun id =>
      (synthesis.buildIn? id).map (Candidate.mk (synthesis.builder id))) = none := by
    rw [List.findSome?_eq_none_iff]
    intro id member
    have abstract' := List.find?_eq_none.1 absent id member
    cases here : synthesis.buildIn? id with
    | none => rfl
    | some method =>
        rw [here] at abstract'
        exact absurd rfl abstract'
  apply Eval.resolve_none
  rw [candidates_build bearing, none']
  intro candidate member
  cases member

/-- The product that is made is that of the nearest class of the object that is not abstract,
whatever type the object is seen as. -/
theorem dispatch_build {id view maker other : ClassId} (bearing : synthesis.bears id = true)
    (member : view ∈ synthesis.chain id) (found : synthesis.maker? id = some maker)
    (viewed : synthesis.maker? view = some other) :
    dispatch synthesis.model (synthesis.builder id)
        ⟨synthesis.builder other, buildMethod (synthesis.classAt other)
          (.named (synthesis.productName other)), false⟩ =
      ⟨synthesis.builder maker, buildMethod (synthesis.classAt maker)
        (.named (synthesis.productName maker)), false⟩ := by
  have single : ∀ lower ∈ synthesis.chain id,
      (synthesis.model.get? (synthesis.builder lower)).bind (fun declaration =>
        declaration.methods.find? (overrides ⟨synthesis.builder other,
          buildMethod (synthesis.classAt other) (.named (synthesis.productName other)),
          false⟩)) = synthesis.buildIn? lower := by
    intro lower there
    have bears := bears_of_mem_chain bearing there
    have methods : ∀ declaration, IsBuilder synthesis.hierarchy synthesis.config synthesis.bears
        synthesis.model lower (synthesis.classAt lower) declaration →
          declaration.methods.filter (named (buildMethod (synthesis.classAt other)
            (.named (synthesis.productName other))).name) =
            (synthesis.buildIn? lower).toList :=
      fun _ isBuilder => filter_build bears isBuilder
    rw [find?_overrides_builder bears _ methods]
    cases here : synthesis.buildIn? lower with
    | none => rfl
    | some method =>
        rw [of_buildIn?_eq_some here]
        rfl
  have above : other ∈ synthesis.chain id :=
    chain_subset bearing member (List.mem_of_find?_eq_some viewed)
  exact Eval.dispatch_eq (supertypes_builder bearing) single above rfl (buildIn?_of_maker? viewed)
    found (buildIn?_of_maker? found)

theorem maker?_of_view {id view : ClassId} (bearing : synthesis.bears id = true)
    (member : view ∈ synthesis.chain id) {other : ClassId}
    (viewed : synthesis.maker? view = some other) : ∃ maker, synthesis.maker? id = some maker := by
  have builds : (synthesis.buildIn? other).isSome = true := by
    rw [buildIn?_of_maker? viewed]
    rfl
  apply Option.isSome_iff_exists.1
  unfold maker?
  rw [List.find?_isSome]
  exact ⟨other, chain_subset bearing member (List.mem_of_find?_eq_some viewed), builds⟩

/-! ### Making builders -/

theorem declaredCandidates_factory {id : Nat} (known : id < synthesis.hierarchy.size) :
    declaredCandidates synthesis.model factoryName true (synthesis.product id) =
      (synthesis.factoryIn? id).toList.map (Candidate.mk (synthesis.product id)) := by
  obtain ⟨declaration, found, isProduct⟩ := synthesis.isProduct known
  have methods : declaration.methods = (synthesis.factoryIn? id).toList := by
    rw [isProduct.methods]
    unfold factoryIn? productMethods
    cases synthesis.bears id with
    | false => rfl
    | true => cases (synthesis.classAt id).isAbstract <;> rfl
  unfold declaredCandidates
  rw [found]
  simp only [methods]
  congr 1
  unfold factoryIn?
  split <;> rfl

/-- A call of the method of a class that makes a builder. -/
theorem resolve_factory {id : ClassId} (bearing : synthesis.bears id = true)
    (isConcrete : (synthesis.classAt id).isAbstract = false) :
    resolve synthesis.model (synthesis.product id) factoryName [] true =
      .ok ⟨synthesis.product id, factoryMethod (synthesis.classAt id)
        (.named (synthesis.builderName id)), false⟩ := by
  have known := known_of_bears bearing
  have own : synthesis.factoryIn? id = some (factoryMethod (synthesis.classAt id)
      (.named (synthesis.builderName id))) := by
    unfold factoryIn?
    rw [bearing, isConcrete]
    rfl
  have alike : ∀ other ∈ synthesis.lineage id, ∀ method, synthesis.factoryIn? other = some method →
      method.erasedParameters = [] := by
    intro other _ method found
    have same := Option.some.inj (Option.ite_none_right_eq_some.1 found).2
    rw [← same]
    rfl
  have single := Eval.candidates_of_alike (supertypes_product known)
    (fun other member => declaredCandidates_factory (known_of_mem_lineage known member)) alike
  unfold lineage at single
  rw [List.findSome?_cons, own] at single
  exact Eval.resolve_plain single rfl

end BuilderSynthesis.Run.Synthesis
