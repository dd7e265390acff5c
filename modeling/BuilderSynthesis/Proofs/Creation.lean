import BuilderSynthesis.Proofs.Calls
import BuilderSynthesis.Proofs.Execution

/-!
Contract: new objects of products and of builders.

Every field starts with the default of its type; an array of a builder starts with null,
which is that default. So making an object evaluates nothing that could fail.

Owns: `yields_create_product`, `yields_create_builder`, and `yields_factory`, the call with
which a caller gets a builder.
-/

namespace BuilderSynthesis

namespace Eval

open Code (Field Model TypeId)

theorem yields_mapM {step : α → Exec β} {items : List α} {result : α → β} {store : Store}
    (each : ∀ item ∈ items, Yields (step item) store (result item) store) :
    Yields (items.mapM step) store (items.map result) store := by
  induction items with
  | nil => exact yields_pure [] store
  | cons item rest inductionHypothesis =>
      rw [List.forall_mem_cons] at each
      rw [List.mapM_cons, List.map_cons]
      apply each.1.bind
      apply (inductionHypothesis each.2).bind
      exact yields_pure _ store

/-- A field starts with the default of its type. -/
def StartsWithDefault (field : Field) : Prop :=
  field.initializer = none ∨ field.initializer = some .null ∧ defaultValue field.type = .null

theorem yields_initialValue {model : Model} {powers : Powers} {frame : Frame} {field : Field}
    (starts : StartsWithDefault field) (store : Store) :
    Yields (initialValue model powers frame field) store (defaultValue field.type) store := by
  unfold initialValue
  rcases starts with absent | ⟨null, default⟩
  · rw [absent]
    exact yields_pure _ store
  · rw [null, default]
    rfl

def blankSlots (fields : List (TypeId × Field)) : Instance :=
  fields.map (fun entry => ((entry.1, entry.2.name), defaultValue entry.2.type))

theorem yields_newInstance {model : Model} {powers : Powers} {type : TypeId}
    {declaration : Code.Declaration} (found : model.get? type = some declaration)
    (isConcrete : declaration.header.isAbstract = false)
    (starts : ∀ entry ∈ instanceFields model type, StartsWithDefault entry.2) (store : Store) :
    Yields (newInstance model powers type) store
      ⟨.object ⟨store.objects.length, type⟩, some (model.typeRef type)⟩
      (store.newObject type (blankSlots (instanceFields model type))).2 := by
  unfold newInstance
  rw [found]
  simp only [isConcrete, Bool.false_eq_true, if_false]
  have slots : Yields ((instanceFields model type).mapM (fun entry => do
      return ((entry.1, entry.2.name), ← initialValue model powers ⟨none, type, []⟩ entry.2)))
      store (blankSlots (instanceFields model type)) store := by
    apply yields_mapM
    intro entry member
    exact (yields_initialValue (starts entry member) store).bind (yields_pure _ store)
  apply slots.bind
  apply (yields_get store).bind
  apply (yields_set store _).bind
  exact yields_pure _ _

end Eval

namespace Run.Synthesis

open Builder (Handling Property factoryMethod factoryName)
open Code (Model TypeId TypeRef)
open Eval (Object Store Typed Yields blankSlots callStatic create defaultValue instanceFields)
open Schema (ClassId Field)

variable {synthesis : Synthesis}

/-- The value that a property starts with: null, unless it is a single number, truth value or
character. -/
def defaultOf (field : Field) : Eval.Value :=
  match field.cardinality, field.element with
  | .single, .primitive .int | .single, .primitive .long | .single, .primitive .byte => .int 0
  | .single, .primitive .float | .single, .primitive .double => .float ⟨0⟩
  | .single, .primitive .bool => .bool false
  | .single, .primitive .char => .char '\x00'
  | _, _ => .null

theorem defaultValue_ofField (field : Field) :
    defaultValue (.ofField field.element field.cardinality) = defaultOf field := by
  unfold defaultOf
  rcases field.cardinality with _ | _ | _
  · rcases field.element with kind | className
    · cases kind <;> rfl
    · rfl
  · rfl
  · rfl

theorem defaultOf_list {field : Field} (list : field.cardinality = .list) :
    defaultOf field = .null := by
  unfold defaultOf
  rw [list]

def slotsOf (synthesis : Synthesis) (position : ClassId → TypeId)
    (value : ClassId → Field → Eval.Value) (ids : List ClassId) : Eval.Instance :=
  ids.flatMap (fun id => (synthesis.classAt id).instanceFields.map (fun field =>
    ((position id, field.name), value id field)))

def newSlots (synthesis : Synthesis) (position : ClassId → TypeId) (ids : List ClassId) :
    Eval.Instance :=
  slotsOf synthesis position (fun _ field => defaultOf field) ids

/-! ### Slots of classes -/

section Slots

variable {position : ClassId → TypeId} {value : ClassId → Field → Eval.Value} {ids : List ClassId}

theorem mem_slotsOf_iff {entry : Eval.Slot × Eval.Value} :
    entry ∈ slotsOf synthesis position value ids ↔
      ∃ holder ∈ ids, ∃ field, synthesis.Declares holder field ∧
        entry = ((position holder, field.name), value holder field) := by
  unfold slotsOf
  rw [List.mem_flatMap]
  constructor
  · rintro ⟨holder, member, here⟩
    obtain ⟨field, declares, rfl⟩ := List.mem_map.1 here
    exact ⟨holder, member, field, declares, rfl⟩
  · rintro ⟨holder, member, field, declares, rfl⟩
    exact ⟨holder, member, List.mem_map.2 ⟨field, declares, rfl⟩⟩

variable (distinct : ids.Nodup)
  (injective : ∀ one ∈ ids, ∀ other ∈ ids, position one = position other → one = other)
  (known : ∀ id ∈ ids, id < synthesis.hierarchy.size)

include distinct injective known

theorem nodup_keys_slotsOf : ((slotsOf synthesis position value ids).map Prod.fst).Nodup := by
  unfold slotsOf
  rw [List.map_flatMap, List.nodup_flatMap]
  constructor
  · intro id there
    have names := (fields_nodup (known id there)).sublist
      ((List.filter_sublist (p := Field.isInstance)).map Field.name)
    rw [List.map_map]
    refine List.Nodup.of_map Prod.snd ?_
    rw [List.map_map]
    exact names
  · refine distinct.imp_of_mem ?_
    intro one other first second different slot here there
    obtain ⟨left, one', rfl⟩ := List.mem_map.1 here
    obtain ⟨right, two', same⟩ := List.mem_map.1 there
    obtain ⟨_, -, rfl⟩ := List.mem_map.1 one'
    obtain ⟨_, -, rfl⟩ := List.mem_map.1 two'
    exact different (injective one first other second (Prod.mk.inj same).1.symm)

theorem value?_slotsOf {holder : ClassId} (member : holder ∈ ids) {field : Field}
    (declares : synthesis.Declares holder field) :
    Keyed.value? (slotsOf synthesis position value ids) (position holder, field.name) =
      some (value holder field) :=
  Keyed.value?_of_mem (nodup_keys_slotsOf distinct injective known)
    (mem_slotsOf_iff.2 ⟨holder, member, field, declares, rfl⟩)

end Slots

/-! ### Slots of new objects -/

theorem instanceFields_builder {id : ClassId} (bearing : synthesis.bears id = true) :
    instanceFields synthesis.model (synthesis.builder id) =
      (synthesis.chain id).flatMap (fun holder =>
        (synthesis.classAt holder).instanceFields.map (fun field =>
          (synthesis.builder holder, synthesis.builderField field))) := by
  unfold instanceFields
  rw [supertypes_builder bearing, List.flatMap_map]
  apply List.flatMap_congr
  intro holder member
  obtain ⟨declaration, found, isBuilder⟩ := synthesis.isBuilder (bears_of_mem_chain bearing member)
  have all : declaration.fields.filter (fun field => !field.isStatic) = declaration.fields := by
    rw [List.filter_eq_self, fields_builder isBuilder]
    intro field listed
    obtain ⟨declared, -, rfl⟩ := List.mem_map.1 listed
    rfl
  rw [found]
  show (declaration.fields.filter (fun field => !field.isStatic)).map _ = _
  rw [all, fields_builder isBuilder, List.map_map]
  rfl

theorem instanceFields_product {id : Nat} (known : id < synthesis.hierarchy.size) :
    instanceFields synthesis.model (synthesis.product id) =
      (synthesis.lineage id).flatMap (fun holder =>
        (synthesis.classAt holder).instanceFields.map (fun field =>
          (synthesis.product holder, declaredField field))) := by
  unfold instanceFields
  rw [supertypes_product known, List.flatMap_map]
  apply List.flatMap_congr
  intro holder member
  obtain ⟨declaration, found, isProduct⟩ :=
    synthesis.isProduct (known_of_mem_lineage known member)
  rw [found]
  show (declaration.fields.filter (fun field => !field.isStatic)).map _ = _
  rw [isProduct.fields, List.filter_map, List.map_map]
  rfl

theorem startsWithDefault_builderField (field : Field) :
    Eval.StartsWithDefault (synthesis.builderField field) := by
  obtain ⟨name, element, cardinality, isStatic, doc⟩ := field
  cases cardinality with
  | single => exact .inl rfl
  | list => exact .inl rfl
  | array => exact .inr ⟨rfl, rfl⟩

theorem blankSlots_builder {id : ClassId} (bearing : synthesis.bears id = true) :
    blankSlots (instanceFields synthesis.model (synthesis.builder id)) =
      newSlots synthesis synthesis.builder (synthesis.chain id) := by
  unfold blankSlots newSlots slotsOf
  rw [instanceFields_builder bearing, List.map_flatMap]
  simp only [List.map_map, ← defaultValue_ofField]
  rfl

theorem blankSlots_product {id : Nat} (known : id < synthesis.hierarchy.size) :
    blankSlots (instanceFields synthesis.model (synthesis.product id)) =
      newSlots synthesis synthesis.product (synthesis.lineage id) := by
  unfold blankSlots newSlots slotsOf
  rw [instanceFields_product known, List.map_flatMap]
  simp only [List.map_map, ← defaultValue_ofField]
  rfl

theorem value?_newSlots_builder {id : ClassId} (bearing : synthesis.bears id = true)
    {holder : ClassId} (member : holder ∈ synthesis.chain id) {field : Field}
    (declares : synthesis.Declares holder field) :
    Keyed.value? (newSlots synthesis synthesis.builder (synthesis.chain id))
      (synthesis.builder holder, field.name) = some (defaultOf field) := by
  have bears : ∀ {other}, other ∈ synthesis.chain id → synthesis.bears other = true :=
    fun there => bears_of_mem_chain bearing there
  exact @value?_slotsOf synthesis synthesis.builder (fun _ field => defaultOf field) _
    (chain_nodup bearing)
    (fun one first other second => builder_injective (bears first) (bears second))
    (fun other there => known_of_bears (bears there)) _ member _ declares

/-! ### Making objects -/

theorem yields_create_builder {id : ClassId} (bearing : synthesis.bears id = true)
    (invoker : Eval.Invoker) (pending : Nat) (store : Store) :
    Yields (create synthesis.model invoker (pending + 1) (synthesis.builder id)) store
      ⟨.object ⟨store.objects.length, synthesis.builder id⟩,
        some (.named (synthesis.builderName id))⟩
      (store.newObject (synthesis.builder id)
        (newSlots synthesis synthesis.builder (synthesis.chain id))).2 := by
  obtain ⟨declaration, found, isBuilder⟩ := synthesis.isBuilder bearing
  rw [← typeRef_builder bearing, ← blankSlots_builder bearing]
  apply Eval.yields_newInstance found
  · rw [isBuilder.header]
    rfl
  · intro entry member
    rw [instanceFields_builder bearing, List.mem_flatMap] at member
    obtain ⟨holder, -, here⟩ := member
    obtain ⟨field, -, rfl⟩ := List.mem_map.1 here
    exact startsWithDefault_builderField field

theorem yields_create_product {id : Nat} (known : id < synthesis.hierarchy.size)
    (isConcrete : (synthesis.classAt id).isAbstract = false) (invoker : Eval.Invoker)
    (pending : Nat) (store : Store) :
    Yields (create synthesis.model invoker (pending + 1) (synthesis.product id)) store
      ⟨.object ⟨store.objects.length, synthesis.product id⟩,
        some (.named (synthesis.productName id))⟩
      (store.newObject (synthesis.product id)
        (newSlots synthesis synthesis.product (synthesis.lineage id))).2 := by
  obtain ⟨declaration, found, isProduct⟩ := synthesis.isProduct known
  rw [← typeRef_product known, ← blankSlots_product known]
  apply Eval.yields_newInstance found
  · rw [isProduct.header]
    exact isConcrete
  · intro entry member
    rw [instanceFields_product known, List.mem_flatMap] at member
    obtain ⟨holder, -, here⟩ := member
    obtain ⟨field, -, rfl⟩ := List.mem_map.1 here
    exact .inl rfl

theorem exists_size {id : Nat} (known : id < synthesis.hierarchy.size) :
    ∃ pending, synthesis.model.size = pending + 1 := by
  have size := synthesis.program.size
  exact Nat.exists_eq_succ_of_ne_zero (by omega)

theorem findClass_product {id : Nat} (known : id < synthesis.hierarchy.size) :
    Eval.findClass synthesis.model (synthesis.productName id) = .ok (synthesis.product id) := by
  unfold Eval.findClass
  rw [lookup_product known]

theorem findClass_builder {id : ClassId} (bearing : synthesis.bears id = true) :
    Eval.findClass synthesis.model (synthesis.builderName id) = .ok (synthesis.builder id) := by
  unfold Eval.findClass
  rw [lookup_builder bearing]

/-- A class that has a builder and is not abstract makes a new builder when it is asked for
one. -/
theorem yields_factory {id : ClassId} (bearing : synthesis.bears id = true)
    (isConcrete : (synthesis.classAt id).isAbstract = false) (store : Store) :
    Yields (callStatic synthesis.model (synthesis.productName id) factoryName []) store
      ⟨.object ⟨store.objects.length, synthesis.builder id⟩,
        some (.named (synthesis.builderName id))⟩
      (store.newObject (synthesis.builder id)
        (newSlots synthesis synthesis.builder (synthesis.chain id))).2 := by
  have known := known_of_bears bearing
  obtain ⟨pending, size⟩ := exists_size known
  unfold callStatic
  apply (Eval.yields_settled (findClass_product known) store).bind
  apply (Eval.yields_settled (resolve_factory bearing isConcrete) store).bind
  have created := yields_create_builder bearing (Eval.invoke synthesis.model 255) pending store
  rw [← size] at created
  have evaluated := @Eval.yields_new synthesis.model (Eval.powersWith synthesis.model 255)
    ⟨none, synthesis.product id, []⟩ _ _ (findClass_builder bearing) _ _ _ created
  rw [show Eval.maximalDepth = 255 + 1 from rfl, Eval.invoke_succ]
  have executed := @Eval.yields_execute_return synthesis.model (Eval.powersWith synthesis.model 255)
    ⟨none, synthesis.product id, []⟩ _ [] _ _ _ evaluated
  have ran := @Eval.yields_runMethod synthesis.model (Eval.powersWith synthesis.model 255) none
    ⟨synthesis.product id, factoryMethod (synthesis.classAt id) (.named (synthesis.builderName id)),
      false⟩ _ _ _ _ _ _ _ (Eval.yields_packed_plain rfl [] store) executed rfl
    (Eval.accepts_self synthesis.model _)
  exact ran

end Run.Synthesis

end BuilderSynthesis
