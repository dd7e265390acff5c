import BuilderSynthesis.Eval.Resolution
import BuilderSynthesis.Proofs.Program
import BuilderSynthesis.Proofs.WellFormed

/-!
Contract: a well-formed hierarchy together with the program that a run on it leaves.

Owns:
- `Synthesis`, and the types, lineages and chains of its classes;
- `property_unique`, that a class sees each property once;
- `HasInstanceField`, the fields of the products of a class;
- where the machine finds the fields of products and of builders.

Does not own: methods.
-/

namespace BuilderSynthesis.Run

open BuilderSynthesis.Builder (Handling Property builderFields builderTypeName)
open BuilderSynthesis.Code (Declaration Model TypeId TypeRef)
open BuilderSynthesis.Eval (fieldOwner fieldOwner? fieldType)
open BuilderSynthesis.Schema (ClassId DataClass Field Hierarchy)

def HasInstanceField (hierarchy : Hierarchy) (id : ClassId) (field : Field) : Prop :=
  ∃ holder dataClass, (holder = id ∨ hierarchy.IsAncestor holder id) ∧
    hierarchy.get? holder = some dataClass ∧ field ∈ dataClass.instanceFields

structure Synthesis where
  hierarchy : Hierarchy
  config : Config
  /-- Which classes have builders. -/
  bears : ClassId → Bool
  model : Model
  wellFormed : hierarchy.WellFormed
  program : Program hierarchy config bears model

namespace Synthesis

variable (synthesis : Synthesis)

def classAt (id : ClassId) : DataClass :=
  (synthesis.hierarchy.get? id).getD default

def product (id : ClassId) : TypeId :=
  productId synthesis.hierarchy synthesis.model id

def builder (id : ClassId) : TypeId :=
  builderId synthesis.hierarchy synthesis.config.builderName synthesis.model id

def productName (id : ClassId) : String :=
  (synthesis.classAt id).name

def builderName (id : ClassId) : String :=
  builderTypeName synthesis.config.builderName (synthesis.productName id)

/-- A class and its ancestors, nearest first. -/
def lineage (id : ClassId) : List ClassId :=
  id :: synthesis.hierarchy.ancestors id

/-- A class and those of its ancestors that have builders, nearest first. -/
def chain (id : ClassId) : List ClassId :=
  id :: (synthesis.hierarchy.ancestors id).filter synthesis.bears

def Declares (id : ClassId) (field : Field) : Prop :=
  field ∈ (synthesis.classAt id).instanceFields

def builderField (field : Field) : Code.Field :=
  (Handling.ofProperty synthesis.config.policy (Property.ofField field)).field
    (Property.ofField field)

variable {synthesis}

/-! ### Classes -/

theorem classAt_eq {id : ClassId} {dataClass : DataClass}
    (known : synthesis.hierarchy.get? id = some dataClass) : synthesis.classAt id = dataClass := by
  unfold classAt
  rw [known, Option.getD_some]

theorem get?_classAt {id : Nat} (known : id < synthesis.hierarchy.size) :
    synthesis.hierarchy.get? id = some (synthesis.classAt id) := by
  obtain ⟨dataClass, found⟩ := Hierarchy.exists_get? known
  rw [classAt_eq found]
  exact found

theorem classAt_mem {id : Nat} (known : id < synthesis.hierarchy.size) :
    synthesis.classAt id ∈ synthesis.hierarchy.classes :=
  List.mem_of_getElem? (get?_classAt known)

theorem known_of_bears {id : Nat} (bearing : synthesis.bears id = true) :
    id < synthesis.hierarchy.size :=
  synthesis.program.known id bearing

theorem known_of_mem_lineage {id other : Nat} (known : id < synthesis.hierarchy.size)
    (member : other ∈ synthesis.lineage id) : other < synthesis.hierarchy.size := by
  rcases List.mem_cons.1 member with same | above
  · exact same ▸ known
  · exact Hierarchy.ancestors_lt synthesis.wellFormed.acyclic synthesis.wellFormed.inRange above

theorem mem_lineage_iff {id holder : ClassId} :
    holder ∈ synthesis.lineage id ↔
      holder = id ∨ synthesis.hierarchy.IsAncestor holder id := by
  unfold lineage
  rw [List.mem_cons,
    Hierarchy.mem_ancestors_iff synthesis.wellFormed.acyclic synthesis.wellFormed.inRange]

theorem declares_iff {id : ClassId} {dataClass : DataClass}
    (known : synthesis.hierarchy.get? id = some dataClass) (field : Field) :
    synthesis.Declares id field ↔ field ∈ dataClass.instanceFields := by
  unfold Declares
  rw [classAt_eq known]

theorem lineage_suffix {id other : Nat} (member : other ∈ synthesis.lineage id) :
    ∃ before, synthesis.lineage id = before ++ synthesis.lineage other := by
  rcases List.mem_cons.1 member with same | above
  · exact ⟨[], same ▸ rfl⟩
  · rw [Hierarchy.ancestors_eq_path] at above
    obtain ⟨before, split, -⟩ := Walk.path_split synthesis.wellFormed.acyclic
      (Hierarchy.bounded_of_inRange synthesis.wellFormed.inRange) above
    refine ⟨id :: before, ?_⟩
    unfold lineage
    rw [Hierarchy.ancestors_eq_path, Hierarchy.ancestors_eq_path, split, List.cons_append]

theorem chain_eq_filter {id : ClassId} (bearing : synthesis.bears id = true) :
    synthesis.chain id = (synthesis.lineage id).filter synthesis.bears := by
  unfold chain lineage
  rw [List.filter_cons, if_pos bearing]

theorem mem_lineage_of_mem_chain {id other : ClassId} (member : other ∈ synthesis.chain id) :
    other ∈ synthesis.lineage id := by
  rcases List.mem_cons.1 member with same | above
  · exact List.mem_cons.2 (.inl same)
  · exact List.mem_cons_of_mem id (List.mem_filter.1 above).1

theorem bears_of_mem_chain {id other : ClassId} (bearing : synthesis.bears id = true)
    (member : other ∈ synthesis.chain id) : synthesis.bears other = true := by
  rw [chain_eq_filter bearing] at member
  exact (List.mem_filter.1 member).2

theorem chain_suffix {id other : ClassId} (bearing : synthesis.bears id = true)
    (member : other ∈ synthesis.chain id) :
    ∃ before, synthesis.chain id = before ++ synthesis.chain other := by
  obtain ⟨before, split⟩ := lineage_suffix (mem_lineage_of_mem_chain member)
  refine ⟨before.filter synthesis.bears, ?_⟩
  rw [chain_eq_filter bearing, chain_eq_filter (bears_of_mem_chain bearing member), split,
    List.filter_append]

theorem chain_subset {id other : ClassId} (bearing : synthesis.bears id = true)
    (member : other ∈ synthesis.chain id) : synthesis.chain other ⊆ synthesis.chain id := by
  obtain ⟨before, split⟩ := chain_suffix bearing member
  rw [split]
  exact List.subset_append_right before _

theorem lineage_nodup (id : ClassId) : (synthesis.lineage id).Nodup :=
  Hierarchy.nodup_cons_ancestors synthesis.wellFormed.acyclic id

theorem chain_nodup {id : ClassId} (bearing : synthesis.bears id = true) :
    (synthesis.chain id).Nodup := by
  rw [chain_eq_filter bearing]
  exact (lineage_nodup id).filter _

/-- A chain goes on with the chain of the nearest class above that has a builder. -/
theorem chain_eq (id : ClassId) :
    synthesis.chain id = id :: match (synthesis.hierarchy.ancestors id).find? synthesis.bears with
      | none => []
      | some parent => synthesis.chain parent := by
  have bounded := Hierarchy.bounded_of_inRange synthesis.wellFormed.inRange
  have path : ∀ position, (synthesis.hierarchy.ancestors position).filter synthesis.bears =
      Walk.path (Walk.nearest synthesis.hierarchy.superclass synthesis.hierarchy.size
        synthesis.bears) synthesis.hierarchy.size position := by
    intro position
    rw [Walk.path_nearest synthesis.wellFormed.acyclic bounded, Hierarchy.ancestors_eq_path]
  have unfolded := Walk.path_eq
    (Walk.acyclic_nearest synthesis.wellFormed.acyclic synthesis.bears)
    (Walk.bounded_nearest bounded synthesis.bears) id
  have link : Walk.nearest synthesis.hierarchy.superclass synthesis.hierarchy.size
      synthesis.bears id = (synthesis.hierarchy.ancestors id).find? synthesis.bears := by
    rw [Hierarchy.ancestors_eq_path]
    rfl
  unfold chain
  rw [path, unfolded, link]
  cases (synthesis.hierarchy.ancestors id).find? synthesis.bears with
  | none => rfl
  | some parent => simp only [path]

/-! ### Properties -/

/-- Of the properties that a class sees no two have one stem. -/
theorem property_unique {id left right : Nat} (known : id < synthesis.hierarchy.size)
    {field other : Field} (member : left ∈ synthesis.lineage id)
    (declares : synthesis.Declares left field) (too : right ∈ synthesis.lineage id)
    (declaresToo : synthesis.Declares right other)
    (same : Schema.propertyStem field.name = Schema.propertyStem other.name) :
    left = right ∧ field = other := by
  have visible : ∀ {holder : Nat} {field : Field}, holder ∈ synthesis.lineage id →
      synthesis.Declares holder field →
      (holder, field) ∈ synthesis.hierarchy.visibleProperties id := by
    intro holder field above declares
    refine List.mem_flatMap.2 ⟨holder, ?_, ?_⟩
    · rw [List.mem_append, List.mem_reverse, List.mem_singleton]
      exact (List.mem_cons.1 above).symm
    · unfold Hierarchy.ownProperties
      rw [get?_classAt (known_of_mem_lineage known above)]
      exact List.mem_map.2 ⟨field, declares, rfl⟩
  have entries := List.inj_on_of_nodup_map (synthesis.wellFormed.stems id)
    (visible member declares) (visible too declaresToo) same
  exact Prod.mk.inj entries

theorem property_unique_of_name {id left right : Nat} (known : id < synthesis.hierarchy.size)
    {field other : Field} (member : left ∈ synthesis.lineage id)
    (declares : synthesis.Declares left field) (too : right ∈ synthesis.lineage id)
    (declaresToo : synthesis.Declares right other) (same : field.name = other.name) :
    left = right ∧ field = other :=
  property_unique known member declares too declaresToo (same ▸ rfl)

theorem fields_nodup {id : Nat} (known : id < synthesis.hierarchy.size) :
    ((synthesis.classAt id).fields.map Field.name).Nodup :=
  synthesis.wellFormed.fields _ (classAt_mem known)

/-! ### Types -/

theorem isProduct {id : Nat} (known : id < synthesis.hierarchy.size) :
    ∃ declaration, synthesis.model.get? (synthesis.product id) = some declaration ∧
      IsProduct synthesis.hierarchy synthesis.config synthesis.bears synthesis.model id
        (synthesis.classAt id) declaration :=
  synthesis.program.product id _ (get?_classAt known)

theorem isBuilder {id : ClassId} (bearing : synthesis.bears id = true) :
    ∃ declaration, synthesis.model.get? (synthesis.builder id) = some declaration ∧
      IsBuilder synthesis.hierarchy synthesis.config synthesis.bears synthesis.model id
        (synthesis.classAt id) declaration :=
  synthesis.program.builder id _ (get?_classAt (known_of_bears bearing)) bearing

theorem lookup_product {id : Nat} (known : id < synthesis.hierarchy.size) :
    synthesis.model.lookup (synthesis.productName id) = some (synthesis.product id) :=
  synthesis.program.lookup_product (get?_classAt known)

theorem lookup_builder {id : ClassId} (bearing : synthesis.bears id = true) :
    synthesis.model.lookup (synthesis.builderName id) = some (synthesis.builder id) :=
  synthesis.program.lookup_builder (get?_classAt (known_of_bears bearing)) bearing

theorem typeRef_product {id : Nat} (known : id < synthesis.hierarchy.size) :
    synthesis.model.typeRef (synthesis.product id) = .named (synthesis.productName id) :=
  synthesis.program.typeRef_product (get?_classAt known)

theorem typeRef_builder {id : ClassId} (bearing : synthesis.bears id = true) :
    synthesis.model.typeRef (synthesis.builder id) = .named (synthesis.builderName id) :=
  synthesis.program.typeRef_builder (get?_classAt (known_of_bears bearing)) bearing

theorem supertypes_product {id : Nat} (known : id < synthesis.hierarchy.size) :
    synthesis.model.supertypes (synthesis.product id) =
      (synthesis.lineage id).map synthesis.product :=
  synthesis.program.supertypes_product synthesis.wellFormed.acyclic synthesis.wellFormed.inRange
    known

theorem supertypes_builder {id : ClassId} (bearing : synthesis.bears id = true) :
    synthesis.model.supertypes (synthesis.builder id) =
      (synthesis.chain id).map synthesis.builder :=
  synthesis.program.supertypes_builder synthesis.wellFormed.acyclic synthesis.wellFormed.inRange
    bearing

theorem eq_of_productName_eq {left right : Nat} (known : left < synthesis.hierarchy.size)
    (too : right < synthesis.hierarchy.size)
    (same : synthesis.productName left = synthesis.productName right) : left = right :=
  Hierarchy.eq_of_name synthesis.program.classes (get?_classAt known) (get?_classAt too) same

theorem product_injective {left right : Nat} (known : left < synthesis.hierarchy.size)
    (too : right < synthesis.hierarchy.size)
    (same : synthesis.product left = synthesis.product right) : left = right :=
  synthesis.program.productId_injective known too same

theorem builder_injective {left right : ClassId} (bearing : synthesis.bears left = true)
    (too : synthesis.bears right = true)
    (same : synthesis.builder left = synthesis.builder right) : left = right :=
  synthesis.program.builderId_injective bearing too same

/-! ### Fields -/

theorem fields_builder {id : ClassId} {declaration : Declaration}
    (isBuilder : IsBuilder synthesis.hierarchy synthesis.config synthesis.bears synthesis.model id
      (synthesis.classAt id) declaration) :
    declaration.fields = (synthesis.classAt id).instanceFields.map synthesis.builderField := by
  rw [isBuilder.fields]
  unfold builderFields Builder.ownProperties
  rw [List.map_map]
  rfl

/-- A builder has the fields of its class that are not static. -/
theorem field?_builder {id : ClassId} (bearing : synthesis.bears id = true) (name : String) :
    (synthesis.model.get? (synthesis.builder id)).bind (fun declaration =>
        declaration.field? name) =
      ((synthesis.classAt id).instanceFields.find? (fun field => field.name == name)).map
        synthesis.builderField := by
  obtain ⟨declaration, found, isBuilder⟩ := synthesis.isBuilder bearing
  rw [found, Option.bind_some]
  unfold Declaration.field?
  rw [fields_builder isBuilder, List.find?_map]
  rfl

/-- A product has all fields of its class. -/
theorem field?_product {id : Nat} (known : id < synthesis.hierarchy.size) (name : String) :
    (synthesis.model.get? (synthesis.product id)).bind (fun declaration =>
        declaration.field? name) =
      ((synthesis.classAt id).fields.find? (fun field => field.name == name)).map
        declaredField := by
  obtain ⟨declaration, found, isProduct⟩ := synthesis.isProduct known
  rw [found, Option.bind_some]
  unfold Declaration.field?
  rw [isProduct.fields, List.find?_map]
  rfl

theorem find?_instanceFields {id : Nat} (known : id < synthesis.hierarchy.size) {field : Field}
    (declares : synthesis.Declares id field) :
    (synthesis.classAt id).instanceFields.find? (fun other => other.name == field.name) =
      some field := by
  have distinct := (fields_nodup known).sublist
    ((List.filter_sublist (p := Field.isInstance)).map Field.name)
  exact Lists.find?_key_of_nodup distinct declares

theorem find?_fields {id : Nat} (known : id < synthesis.hierarchy.size) {field : Field}
    (declares : synthesis.Declares id field) :
    (synthesis.classAt id).fields.find? (fun other => other.name == field.name) = some field :=
  Lists.find?_key_of_nodup (fields_nodup known) (List.mem_filter.1 declares).1

/-- The owner of a field is the nearest of the classes whose types have the field. -/
theorem fieldOwner_of_nearest {type : TypeId} {types : ClassId → TypeId} {ids : List ClassId}
    (supertypes : synthesis.model.supertypes type = ids.map types) {name : String}
    {holder : ClassId}
    (nearest : ids.find? (fun other =>
      ((synthesis.model.get? (types other)).bind (fun declaration =>
        declaration.field? name)).any (fun found => !found.isStatic)) = some holder) :
    fieldOwner synthesis.model type name = .ok (types holder) := by
  have owner : fieldOwner? synthesis.model type name = some (types holder) := by
    unfold fieldOwner?
    rw [supertypes, List.find?_map, ← Option.map_some, ← nearest]
    congr 2
    funext other
    rw [Function.comp_apply]
    cases (synthesis.model.get? (types other)).bind (fun declaration =>
      declaration.field? name) <;> rfl
  unfold fieldOwner
  rw [owner]

theorem fieldOwner_builder {id holder : ClassId} (bearing : synthesis.bears id = true)
    (member : holder ∈ synthesis.chain id) {field : Field}
    (declares : synthesis.Declares holder field) :
    fieldOwner synthesis.model (synthesis.builder id) field.name =
      .ok (synthesis.builder holder) := by
  have known := known_of_bears bearing
  apply fieldOwner_of_nearest (supertypes_builder bearing)
  apply Lists.find?_eq_of_unique member
  · have bears := bears_of_mem_chain bearing member
    rw [field?_builder bears, find?_instanceFields (known_of_bears bears) declares]
    rfl
  · intro other above holds
    rw [field?_builder (bears_of_mem_chain bearing above)] at holds
    cases found : (synthesis.classAt other).instanceFields.find? (fun declared =>
        declared.name == field.name) with
    | none =>
        rw [found] at holds
        cases holds
    | some declared =>
        have same := List.find?_some found
        simp only [beq_iff_eq] at same
        have declaresToo : synthesis.Declares other declared := List.mem_of_find?_eq_some found
        exact (property_unique_of_name known (mem_lineage_of_mem_chain above) declaresToo
          (mem_lineage_of_mem_chain member) declares same).1

theorem fieldType_builder {id : ClassId} (bearing : synthesis.bears id = true) {field : Field}
    (declares : synthesis.Declares id field) :
    fieldType synthesis.model (synthesis.builder id) field.name =
      .ok (.ofField field.element field.cardinality) := by
  unfold fieldType
  rw [field?_builder bearing, find?_instanceFields (known_of_bears bearing) declares]
  rfl

theorem fieldOwner_product {id holder : Nat} (known : id < synthesis.hierarchy.size)
    (member : holder ∈ synthesis.lineage id) {field : Field}
    (declares : synthesis.Declares holder field) :
    fieldOwner synthesis.model (synthesis.product id) field.name =
      .ok (synthesis.product holder) := by
  apply fieldOwner_of_nearest (supertypes_product known)
  apply Lists.find?_eq_of_unique member
  · have there := known_of_mem_lineage known member
    have isInstance := (List.mem_filter.1 declares).2
    rw [field?_product there, find?_fields there declares]
    exact isInstance
  · intro other above holds
    rw [field?_product (known_of_mem_lineage known above)] at holds
    cases found : (synthesis.classAt other).fields.find? (fun declared =>
        declared.name == field.name) with
    | none =>
        rw [found] at holds
        cases holds
    | some declared =>
        rw [found] at holds
        have same := List.find?_some found
        simp only [beq_iff_eq] at same
        have declaresToo : synthesis.Declares other declared :=
          List.mem_filter.2 ⟨List.mem_of_find?_eq_some found, holds⟩
        exact (property_unique_of_name known above declaresToo member declares same).1

theorem fieldType_product {id : Nat} (known : id < synthesis.hierarchy.size) {field : Field}
    (declares : synthesis.Declares id field) :
    fieldType synthesis.model (synthesis.product id) field.name =
      .ok (.ofField field.element field.cardinality) := by
  unfold fieldType
  rw [field?_product known, find?_fields known declares]
  rfl

end Synthesis

end BuilderSynthesis.Run
