import BuilderSynthesis.Proofs.Creation

/-!
Contract: what a call of `build` does.

`build` makes a product and passes it to `init`. The `init` of a builder writes the
properties of its own class and passes the product on to the nearest class above that has a
builder as well. So the product gets what the builder holds for its whole chain, and the
properties of classes without a builder keep their defaults.

Owns: `handed`, what is handed over, and `yields_build`.
-/

namespace BuilderSynthesis

/-! ### Writing several slots -/

namespace Eval.Store

def writeAll (store : Store) (object : Object) (slots : Instance) : Store :=
  slots.foldl (fun store entry => store.write object entry.1 entry.2) store

theorem length_objects_writeAll (store : Store) (object : Object) (slots : Instance) :
    (store.writeAll object slots).objects.length = store.objects.length := by
  unfold writeAll
  induction slots generalizing store with
  | nil => rfl
  | cons entry rest inductionHypothesis =>
      rw [List.foldl_cons, inductionHypothesis, length_objects_write]

theorem lists_writeAll (store : Store) (object : Object) (slots : Instance) :
    (store.writeAll object slots).lists = store.lists := by
  unfold writeAll
  induction slots generalizing store with
  | nil => rfl
  | cons entry rest inductionHypothesis => exact inductionHypothesis _

theorem arrays_writeAll (store : Store) (object : Object) (slots : Instance) :
    (store.writeAll object slots).arrays = store.arrays := by
  unfold writeAll
  induction slots generalizing store with
  | nil => rfl
  | cons entry rest inductionHypothesis => exact inductionHypothesis _

theorem writeAll_append (store : Store) (object : Object) (slots others : Instance) :
    store.writeAll object (slots ++ others) =
      (store.writeAll object slots).writeAll object others :=
  List.foldl_append

/-- The order of the writes does not matter, since no slot is written twice. -/
theorem slot?_writeAll (store : Store) {object : Object}
    (known : object.place < store.objects.length) {slots : Instance}
    (distinct : (slots.map Prod.fst).Nodup) (other : Object) (slot : Slot) :
    (store.writeAll object slots).slot? other slot =
      if other.place = object.place then (Keyed.value? slots slot).or (store.slot? other slot)
      else store.slot? other slot := by
  induction slots generalizing store with
  | nil =>
      rw [Keyed.value?, Option.none_or, ite_self]
      rfl
  | cons entry rest inductionHypothesis =>
      rw [List.map_cons, List.nodup_cons] at distinct
      have still : object.place < (store.write object entry.1 entry.2).objects.length := by
        rw [length_objects_write]
        exact known
      have later := inductionHypothesis (store.write object entry.1 entry.2) still distinct.2
      rw [writeAll, List.foldl_cons, ← writeAll, later, slot?_write store known]
      by_cases place : other.place = object.place
      · rw [if_pos place, if_pos place, Keyed.value?]
        by_cases here : entry.1 = slot
        · have absent : Keyed.value? rest slot = none := by
            rw [Keyed.value?_eq_none_iff]
            exact here ▸ distinct.1
          rw [absent, Option.none_or, if_pos ⟨place, here.symm⟩, if_pos here, Option.some_or]
        · rw [if_neg here, if_neg (fun both => here both.2.symm)]
      · rw [if_neg place, if_neg place, if_neg (fun both => place both.1)]

end Eval.Store

namespace Run.Synthesis

open Builder (Handling Property buildMethod buildName initEnd initName initStatementOf)
open Code (Model Statement TypeId TypeRef)
open Eval (Object Store Typed Value Yields accepts)
open Schema (ClassId Field Policy)

variable {synthesis : Synthesis}

/-! ### Handing over one property -/

/-- What `init` hands over of a value of a builder. -/
def handed (policy : Policy) (field : Field) : Value → Value
  | .list place isReadOnly =>
      .list place (isReadOnly || (policy == .defensive && field.cardinality == .list))
  | value => value

/-- What can be handed over: under the defensive policy a list must be one, or null. -/
def Handable (policy : Policy) (field : Field) (value : Value) : Prop :=
  policy = .defensive → field.cardinality = .list →
    value = .null ∨ ∃ place isReadOnly, value = .list place isReadOnly

/-- A builder holds values for the properties of a chain. -/
def Holds (synthesis : Synthesis) (store : Store) (object : Object) (ids : List ClassId)
    (held : ClassId → Field → Value) : Prop :=
  ∀ holder ∈ ids, ∀ field, synthesis.Declares holder field →
    store.slot? object (synthesis.builder holder, field.name) = some (held holder field) ∧
      Handable synthesis.config.policy field (held holder field)

theorem handed_eq_self {policy : Policy} {field : Field}
    (plain : ¬ (policy = .defensive ∧ field.cardinality = .list)) (value : Value) :
    handed policy field value = value := by
  have never : (policy == .defensive && field.cardinality == .list) = false := by
    rw [← Bool.not_eq_true, Bool.and_eq_true, beq_iff_eq, beq_iff_eq]
    exact plain
  cases value with
  | list place isReadOnly =>
      show Value.list place (isReadOnly || _) = _
      rw [never, Bool.or_false]
  | _ => rfl

theorem handedOver_eq (policy : Policy) (field : Field) :
    (Handling.ofProperty policy (Property.ofField field)).handedOver (Property.ofField field) =
      if policy = .defensive ∧ field.cardinality = .list then
        .readOnlyList (.ownField field.name)
      else .ownField field.name := by
  obtain ⟨name, element, cardinality, isStatic, doc⟩ := field
  cases policy <;> cases cardinality <;> rfl

section Statement

variable {id : ClassId} (bearing : synthesis.bears id = true) {powers : Eval.Powers}
  {frame : Eval.Frame} {object : Object} (here : frame.this = some object)
  (owner : frame.owner = synthesis.builder id)

include bearing here owner

theorem yields_handedOver {field : Field} (declares : synthesis.Declares id field) {store : Store}
    {value : Value}
    (slot : store.slot? object (synthesis.builder id, field.name) = some value)
    (handable : Handable synthesis.config.policy field value) :
    Yields (Eval.evaluate synthesis.model powers frame
        ((Handling.ofProperty synthesis.config.policy (Property.ofField field)).handedOver
          (Property.ofField field))) store
      ⟨handed synthesis.config.policy field value,
        some (.ofField field.element field.cardinality)⟩ store := by
  have this : Yields (Eval.evaluate synthesis.model powers frame .this) store
      ⟨.object object, some (.named (synthesis.builderName id))⟩ store := by
    rw [← typeRef_builder bearing, ← owner]
    exact Eval.yields_this here store
  have read : Yields (Eval.evaluate synthesis.model powers frame (.ownField field.name)) store
      ⟨value, some (.ofField field.element field.cardinality)⟩ store :=
    Eval.yields_field this
      (Eval.receiver_object (lookup_builder bearing) object field.name)
      (fieldOwner_builder bearing List.mem_cons_self declares) slot
      (fieldType_builder bearing declares)
  rw [handedOver_eq]
  by_cases freezes : synthesis.config.policy = .defensive ∧ field.cardinality = .list
  · rw [if_pos freezes]
    unfold Eval.evaluate
    apply read.bind
    rcases handable freezes.1 freezes.2 with rfl | ⟨place, isReadOnly, rfl⟩
    · exact Eval.yields_frozen_null _ store
    · have always : handed synthesis.config.policy field (.list place isReadOnly) =
          .list place true := by
        unfold handed
        rw [freezes.1, freezes.2]
        exact congrArg (Value.list place) (Bool.or_true isReadOnly)
      rw [always]
      exact Eval.yields_frozen_list _ place isReadOnly store
  · rw [if_neg freezes, handed_eq_self freezes]
    exact read

/-- `init` writes one property of the product after the other. -/
theorem yields_initStatements {target : Object} (apart : object.place ≠ target.place)
    (parameter : frame.local? Builder.productName =
      some ⟨.object target, some (.named (synthesis.productName id))⟩)
    {held : Field → Value} {rest : List Statement} {result : Option Typed} {after : Store}
    {fields : List Field} (declare : ∀ field ∈ fields, synthesis.Declares id field) {store : Store}
    (known : target.place < store.objects.length)
    (holds : ∀ field ∈ fields,
      store.slot? object (synthesis.builder id, field.name) = some (held field) ∧
        Handable synthesis.config.policy field (held field))
    (continued : Yields (Eval.execute synthesis.model powers frame rest)
      (store.writeAll target (fields.map (fun field =>
        ((synthesis.product id, field.name), handed synthesis.config.policy field (held field)))))
      result after) :
    Yields (Eval.execute synthesis.model powers frame
      (fields.map (fun field =>
        initStatementOf synthesis.config.policy (Property.ofField field)) ++ rest))
      store result after := by
  induction fields generalizing store with
  | nil => exact continued
  | cons field others inductionHypothesis =>
      rw [List.forall_mem_cons] at declare holds
      have value := @yields_handedOver _ _ bearing powers _ _ here owner _ declare.1 _ _
        holds.1.1 holds.1.2
      have there := known_of_bears bearing
      have product := @Eval.yields_ident synthesis.model powers _ _ _ parameter store
      have assigned : Yields (Eval.assign synthesis.model powers frame
          (.field Builder.product field.name)
          ⟨handed synthesis.config.policy field (held field),
            some (.ofField field.element field.cardinality)⟩) store ⟨⟩
          (store.write target (synthesis.product id, field.name)
            (handed synthesis.config.policy field (held field))) :=
        Eval.yields_assign product
          (Eval.receiver_object (lookup_product there) target field.name)
          (fieldOwner_product there List.mem_cons_self declare.1)
          (fieldType_product there declare.1) (Eval.accepts_self synthesis.model _)
      rw [List.map_cons, List.cons_append]
      apply Eval.yields_execute_assign value assigned
      apply inductionHypothesis declare.2
      · rw [Store.length_objects_write]
        exact known
      · intro other member
        rw [Store.slot?_write store known, if_neg (fun both => apart both.1)]
        exact holds.2 other member
      · exact continued

end Statement

/-! ### `init` -/

theorem body_initIn (id : ClassId) :
    (synthesis.initIn id).body =
      (synthesis.classAt id).instanceFields.map (fun field =>
        initStatementOf synthesis.config.policy (Property.ofField field)) ++
        [initEnd (Run.bearersAbove synthesis.hierarchy synthesis.bears id)] := by
  unfold initIn Builder.initMethod Builder.ownProperties
  rw [List.map_map]
  rfl

theorem superclass?_builder {id : ClassId} (bearing : synthesis.bears id = true) :
    synthesis.model.superclass? (synthesis.builder id) =
      ((synthesis.hierarchy.ancestors id).find? synthesis.bears).map synthesis.builder := by
  obtain ⟨declaration, found, isBuilder⟩ := synthesis.isBuilder bearing
  unfold Model.superclass?
  rw [found, Option.bind_some, isBuilder.superclass]
  rfl

/-- The chain of a class ends with it, or goes on with that of the nearest class above that has a
builder, whose builder its own extends. -/
theorem chain_cases {id : ClassId} (bearing : synthesis.bears id = true) :
    (Run.bearersAbove synthesis.hierarchy synthesis.bears id = [] ∧ synthesis.chain id = [id]) ∨
      ∃ superior ∈ synthesis.chain id, ∃ others,
        Run.bearersAbove synthesis.hierarchy synthesis.bears id =
          synthesis.classAt superior :: others ∧
        synthesis.chain id = id :: synthesis.chain superior ∧
        synthesis.model.superclass? (synthesis.builder id) = some (synthesis.builder superior) := by
  have above := @chain_eq synthesis id
  have parent := superclass?_builder bearing
  have first := @List.head?_filter _ synthesis.bears (synthesis.hierarchy.ancestors id)
  rw [bearersAbove_eq bearing]
  cases nearest : (synthesis.hierarchy.ancestors id).find? synthesis.bears with
  | none =>
      rw [nearest] at above first
      rw [List.head?_eq_none_iff.1 first]
      exact .inl ⟨rfl, above⟩
  | some superior =>
      rw [nearest] at above first parent
      obtain ⟨others, split⟩ := List.head?_eq_some_iff.1 first
      refine .inr ⟨superior, ?_, others.map synthesis.classAt, ?_, above, parent⟩
      · rw [above]
        exact List.mem_cons_of_mem id List.mem_cons_self
      · rw [split, List.map_cons]

/-- What a product is given for the classes of a chain. -/
def handovers (synthesis : Synthesis) (held : ClassId → Field → Value) (ids : List ClassId) :
    Eval.Instance :=
  slotsOf synthesis synthesis.product
    (fun holder field => handed synthesis.config.policy field (held holder field)) ids

theorem handovers_cons (held : ClassId → Field → Value) (id : ClassId) (rest : List ClassId) :
    handovers synthesis held (id :: rest) =
      (synthesis.classAt id).instanceFields.map (fun field =>
        ((synthesis.product id, field.name),
          handed synthesis.config.policy field (held id field))) ++
        handovers synthesis held rest := by
  unfold handovers slotsOf
  rw [List.flatMap_cons]

/-- The slots of a builder stay while a product is written. -/
theorem Holds.writeAll {store : Store} {object target : Object} {ids : List ClassId}
    {held : ClassId → Field → Value} (holds : Holds synthesis store object ids held)
    (apart : object.place ≠ target.place) (known : target.place < store.objects.length)
    {slots : Eval.Instance} (distinct : (slots.map Prod.fst).Nodup) :
    Holds synthesis (store.writeAll target slots) object ids held := by
  intro holder member field declares
  rw [Store.slot?_writeAll store known distinct, if_neg apart]
  exact holds holder member field declares

theorem nodup_keys_instanceFields {id : ClassId} (known : id < synthesis.hierarchy.size)
    (held : Field → Value) :
    (((synthesis.classAt id).instanceFields.map (fun field =>
      ((synthesis.product id, field.name), held field))).map Prod.fst).Nodup := by
  have single := @nodup_keys_slotsOf synthesis synthesis.product (fun _ => held) [id]
    (List.nodup_singleton id)
    (fun one first other second _ =>
      (List.mem_singleton.1 first).trans (List.mem_singleton.1 second).symm)
    (fun other member => List.mem_singleton.1 member ▸ known)
  unfold slotsOf at single
  rw [List.flatMap_singleton] at single
  exact single

/-- The `init` of a builder passes the product up its chain, one pending call for each class. -/
theorem yields_initIn {object target : Object} (apart : object.place ≠ target.place)
    {held : ClassId → Field → Value} {depth : Nat} {id : ClassId}
    (bearing : synthesis.bears id = true) (enough : (synthesis.chain id).length ≤ depth)
    {store : Store} (known : target.place < store.objects.length)
    (holds : Holds synthesis store object (synthesis.chain id) held) (type : TypeRef) :
    Yields (Eval.invoke synthesis.model depth (some object)
        ⟨synthesis.builder id, synthesis.initIn id, false⟩ [⟨.object target, some type⟩]) store
      ⟨.object target, some type⟩
      (store.writeAll target (handovers synthesis held (synthesis.chain id))) := by
  induction depth generalizing id store type with
  | zero => exact absurd enough (by simp [chain])
  | succ depth inductionHypothesis =>
      let argument : Typed := ⟨.object target, some type⟩
      let product : Typed := ⟨.object target, some (.named (synthesis.productName id))⟩
      let powers := Eval.powersWith synthesis.model depth
      let frame := Eval.frameOf (some object)
        ⟨synthesis.builder id, synthesis.initIn id, false⟩ [argument]
      have parameter : frame.local? Builder.productName = some product := rfl
      have ident := @Eval.yields_ident synthesis.model powers frame _ _ parameter
      have executed : Yields (Eval.execute synthesis.model powers frame
          (synthesis.initIn id).body) store (some product)
          (store.writeAll target (handovers synthesis held (synthesis.chain id))) := by
        rw [body_initIn]
        apply yields_initStatements bearing rfl rfl apart parameter (fun _ member => member) known
          (fun field member => holds id List.mem_cons_self field member)
        obtain ⟨last, alone⟩ | ⟨superior, there, others, split, above, parent⟩ :=
          chain_cases bearing
        · rw [last, alone, handovers_cons, Store.writeAll_append]
          exact Eval.yields_execute_return (ident _)
        · have superBears := bears_of_mem_chain bearing there
          have shorter : (synthesis.chain superior).length ≤ depth := by
            rw [above] at enough
            exact Nat.le_of_succ_le_succ enough
          have distinct := nodup_keys_instanceFields (known_of_bears bearing)
            (fun field => handed synthesis.config.policy field (held id field))
          rw [split, above, handovers_cons, Store.writeAll_append]
          apply Eval.yields_execute_return
          apply Eval.yields_superCall rfl (Eval.yields_evaluateAll_single (ident _)) parent
            (resolve_init superBears (known_of_bears bearing) (mem_lineage_of_mem_chain there))
          apply inductionHypothesis superBears shorter
          · rw [Store.length_objects_writeAll]
            exact known
          · intro holder member
            exact (holds.writeAll apart known distinct) holder (chain_subset bearing there member)
      rw [Eval.invoke_succ]
      have ran := @Eval.yields_runMethod synthesis.model powers (some object)
        ⟨synthesis.builder id, synthesis.initIn id, false⟩ _ _ _ _ _ _ _
        (Eval.yields_packed_plain rfl [argument] store) executed rfl
        (Eval.accepts_self synthesis.model _)
      exact ran

/-! ### `build` -/

/-- The product that a class makes in a store. -/
def productOf (synthesis : Synthesis) (maker : ClassId) (store : Store) : Object :=
  ⟨store.objects.length, synthesis.product maker⟩

def made (synthesis : Synthesis) (held : ClassId → Field → Value) (maker : ClassId)
    (store : Store) : Store :=
  (store.newObject (synthesis.product maker)
    (newSlots synthesis synthesis.product (synthesis.lineage maker))).2.writeAll
      (productOf synthesis maker store) (handovers synthesis held (synthesis.chain maker))

section Made

variable (held : ClassId → Field → Value) (maker : ClassId) (store : Store)

theorem length_objects_made :
    (synthesis.made held maker store).objects.length = store.objects.length + 1 := by
  unfold made
  rw [Store.length_objects_writeAll, Store.length_objects_newObject]

theorem lists_made : (synthesis.made held maker store).lists = store.lists := by
  unfold made
  rw [Store.lists_writeAll]
  rfl

theorem arrays_made : (synthesis.made held maker store).arrays = store.arrays := by
  unfold made
  rw [Store.arrays_writeAll]
  rfl

end Made

theorem isConcrete_of_maker? {id maker : ClassId} (found : synthesis.maker? id = some maker) :
    (synthesis.classAt maker).isAbstract = false := by
  have builds := buildIn?_of_maker? found
  unfold buildIn? at builds
  rw [Option.ite_none_left_eq_some] at builds
  exact Bool.eq_false_iff.2 builds.1

theorem mem_chain_of_maker? {id maker : ClassId} (found : synthesis.maker? id = some maker) :
    maker ∈ synthesis.chain id :=
  List.mem_of_find?_eq_some found

/-- The slots of a builder stay when an object is made. -/
theorem Holds.newObject {store : Store} {object : Object} {ids : List ClassId}
    {held : ClassId → Field → Value} (holds : Holds synthesis store object ids held)
    (known : object.place < store.objects.length) (type : TypeId) (slots : Eval.Instance) :
    Holds synthesis (store.newObject type slots).2 object ids held := by
  intro holder member field declares
  rw [Store.slot?_newObject, if_neg (Nat.ne_of_lt known)]
  exact holds holder member field declares

section Call

variable {id view maker : ClassId} (bearing : synthesis.bears id = true)
  (member : view ∈ synthesis.chain id) {object : Object}

include bearing member

/-- A builder builds the product of the nearest class of its chain that is not abstract. -/
theorem yields_build {other : ClassId} (own : object.type = synthesis.builder id)
    (found : synthesis.maker? id = some maker) (viewed : synthesis.maker? view = some other)
    (enough : (synthesis.chain maker).length ≤ 255) {store : Store}
    (known : object.place < store.objects.length) {held : ClassId → Field → Value}
    (holds : Holds synthesis store object (synthesis.chain maker) held) :
    Yields (Eval.call synthesis.model ⟨.object object, some (.named (synthesis.builderName view))⟩
        buildName []) store
      ⟨.object (synthesis.productOf maker store), some (.named (synthesis.productName maker))⟩
      (synthesis.made held maker store) := by
  let binding : Eval.Binding := ⟨synthesis.builder maker,
    buildMethod (synthesis.classAt maker) (.named (synthesis.productName maker)), false⟩
  let target := synthesis.productOf maker store
  let frame := Eval.frameOf (some object) binding []
  let powers := Eval.powersWith synthesis.model 255
  let between := (store.newObject (synthesis.product maker)
    (newSlots synthesis synthesis.product (synthesis.lineage maker))).2
  have viewBears := bears_of_mem_chain bearing member
  have makerMember := mem_chain_of_maker? found
  have makerBears := bears_of_mem_chain bearing makerMember
  have there := known_of_bears makerBears
  have apart : object.place ≠ target.place := Nat.ne_of_lt known
  have created : Yields (Eval.evaluate synthesis.model powers frame
      (.new (.named (synthesis.productName maker)))) store
      ⟨.object target, some (.named (synthesis.productName maker))⟩ between := by
    obtain ⟨pending, size⟩ := exists_size there
    apply Eval.yields_new (findClass_product there)
    show Yields (Eval.create synthesis.model _ synthesis.model.size _) _ _ _
    rw [size]
    exact yields_create_product there (isConcrete_of_maker? found) _ pending store
  have room : target.place < between.objects.length := by
    rw [Store.length_objects_newObject]
    exact Nat.lt_succ_self _
  have filled : Yields (powers.invoke (some object)
      (Eval.dispatch synthesis.model object.type
        ⟨synthesis.builder maker, synthesis.initIn maker, false⟩)
      [⟨.object target, some (.named (synthesis.productName maker))⟩]) between
      ⟨.object target, some (.named (synthesis.productName maker))⟩
      (synthesis.made held maker store) := by
    rw [own, dispatch_init bearing makerMember]
    exact yields_initIn apart makerBears enough room (holds.newObject known _ _) _
  have executed : Yields (Eval.execute synthesis.model powers frame binding.method.body) store
      (some ⟨.object target, some (.named (synthesis.productName maker))⟩)
      (synthesis.made held maker store) := by
    apply Eval.yields_execute_return
    exact Eval.yields_call_this rfl (Eval.yields_evaluateAll_single created)
      (resolve_init makerBears there List.mem_cons_self) filled
  unfold Eval.call Eval.callOn
  apply (Eval.yields_settled (Eval.receiver_object (lookup_builder viewBears) object buildName)
    store).bind
  apply (Eval.yields_settled (resolve_build viewBears viewed) store).bind
  rw [own, dispatch_build bearing member found viewed, show Eval.maximalDepth = 255 + 1 from rfl,
    Eval.invoke_succ]
  have ran := @Eval.yields_runMethod synthesis.model powers (some object) binding _ _ _ _ _ _ _
    (Eval.yields_packed_plain rfl [] store) executed rfl (Eval.accepts_self synthesis.model _)
  exact ran

/-- Where all classes of a view are abstract, `build` is refused. -/
theorem faults_build (absent : synthesis.maker? view = none) (store : Store) :
    Eval.Faults (Eval.call synthesis.model
      ⟨.object object, some (.named (synthesis.builderName view))⟩ buildName []) store := by
  have viewBears := bears_of_mem_chain bearing member
  obtain ⟨fault, resolved⟩ := resolve_build_none viewBears absent
  unfold Eval.call Eval.callOn
  apply (Eval.yields_settled (Eval.receiver_object (lookup_builder viewBears) object buildName)
    store).bind_faults
  exact (Eval.faults_settled resolved store).bind _

end Call

/-! ### The product -/

section Product

variable {maker : ClassId} (bearing : synthesis.bears maker = true)
  (held : ClassId → Field → Value) (store : Store)

include bearing

theorem nodup_keys_handovers :
    ((synthesis.handovers held (synthesis.chain maker)).map Prod.fst).Nodup := by
  have known : ∀ id ∈ synthesis.chain maker, id < synthesis.hierarchy.size :=
    fun id member => known_of_bears (bears_of_mem_chain bearing member)
  exact nodup_keys_slotsOf (chain_nodup bearing)
    (fun one first other second => product_injective (known one first) (known other second)) known

/-- Making a product changes no other object. -/
theorem slot?_made (other : Object) (slot : Eval.Slot) :
    (synthesis.made held maker store).slot? other slot =
      if other.place = store.objects.length then
        (Keyed.value? (synthesis.handovers held (synthesis.chain maker)) slot).or
          (Keyed.value? (newSlots synthesis synthesis.product (synthesis.lineage maker)) slot)
      else store.slot? other slot := by
  have room : (synthesis.productOf maker store).place <
      (store.newObject (synthesis.product maker)
        (newSlots synthesis synthesis.product (synthesis.lineage maker))).2.objects.length := by
    rw [Store.length_objects_newObject]
    exact Nat.lt_succ_self _
  have place : (synthesis.productOf maker store).place = store.objects.length := rfl
  unfold made
  rw [Store.slot?_writeAll _ room (nodup_keys_handovers bearing held), Store.slot?_newObject,
    place]
  by_cases new : other.place = store.objects.length
  · rw [if_pos new, if_pos new, if_pos new]
  · rw [if_neg new, if_neg new, if_neg new]

/-- A product holds what was handed over for the classes of the chain, and defaults for the
classes that have no builder. -/
theorem slot?_made_product {holder : ClassId} (member : holder ∈ synthesis.lineage maker)
    {field : Field} (declares : synthesis.Declares holder field) :
    (synthesis.made held maker store).slot? (synthesis.productOf maker store)
        (synthesis.product holder, field.name) =
      some (if holder ∈ synthesis.chain maker then
          handed synthesis.config.policy field (held holder field)
        else defaultOf field) := by
  have known := known_of_bears bearing
  have inRange : ∀ id ∈ synthesis.lineage maker, id < synthesis.hierarchy.size :=
    fun id there => known_of_mem_lineage known there
  have injective : ∀ one ∈ synthesis.lineage maker, ∀ other ∈ synthesis.lineage maker,
      synthesis.product one = synthesis.product other → one = other :=
    fun one first other second => product_injective (inRange one first) (inRange other second)
  have default := @value?_slotsOf synthesis synthesis.product (fun _ field => defaultOf field) _
    (lineage_nodup maker) injective inRange _ member _ declares
  have place : (synthesis.productOf maker store).place = store.objects.length := rfl
  rw [slot?_made bearing, if_pos place]
  by_cases here : holder ∈ synthesis.chain maker
  · have given := @value?_slotsOf synthesis synthesis.product
      (fun holder field => handed synthesis.config.policy field (held holder field)) _
      (chain_nodup bearing)
      (fun one first other second => injective one (mem_lineage_of_mem_chain first) other
        (mem_lineage_of_mem_chain second))
      (fun id there => inRange id (mem_lineage_of_mem_chain there)) _ here _ declares
    unfold handovers
    rw [given, Option.some_or, if_pos here]
  · have absent : Keyed.value? (synthesis.handovers held (synthesis.chain maker))
        (synthesis.product holder, field.name) = none := by
      rw [Keyed.value?_eq_none_iff]
      intro listed
      obtain ⟨entry, there, key⟩ := List.mem_map.1 listed
      obtain ⟨other, above, declared, -, rfl⟩ := mem_slotsOf_iff.1 there
      have same := injective other (mem_lineage_of_mem_chain above) holder member
        (Prod.mk.inj key).1
      exact here (same ▸ above)
    unfold newSlots
    rw [absent, Option.none_or, default, if_neg here]

end Product

/-- Reading a property of a product. -/
theorem yields_fieldValue {id holder : Nat} (known : id < synthesis.hierarchy.size)
    (member : holder ∈ synthesis.lineage id) {field : Field}
    (declares : synthesis.Declares holder field) {object : Object}
    (own : object.type = synthesis.product id) {type : Option TypeRef} {store : Store}
    {value : Value}
    (slot : store.slot? object (synthesis.product holder, field.name) = some value) :
    Yields (Eval.fieldValue synthesis.model ⟨.object object, type⟩ field.name) store value
      store := by
  have owned := fieldOwner_product known member declares
  rw [← own] at owned
  exact (Eval.yields_settled owned store).bind (Eval.yields_readSlot slot)

end Run.Synthesis

end BuilderSynthesis
