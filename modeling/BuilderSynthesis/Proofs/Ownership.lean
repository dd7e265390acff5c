import BuilderSynthesis.Proofs.Building
import BuilderSynthesis.Proofs.Session
import BuilderSynthesis.Proofs.Setting

/-!
Contract: which lists belong to builders, and that callers never reach them.

Under the defensive policy a builder keeps copies of lists. The copies are owned: whatever a
caller has at hand, and whatever is in a list, an array or a product, is a view of an owned
list that cannot be changed, or is no owned list at all. So an owned list stays as it is.

Owns:
- `Free` and `Entrusted`, where lists that are owned can occur;
- `Grows`, how a store can change without touching what is owned;
- `Owned`, the invariant, and what keeps it.

Does not own: the operations of callers.
-/

namespace BuilderSynthesis.Run

open Code (TypeId)
open Eval (Object Store Typed Value)
open Schema (ClassId Field Policy)

/-! ### Values -/

def Free (owned : List Nat) (bound : Nat) : Value → Prop
  | .list place isReadOnly => place < bound ∧ (isReadOnly = false → place ∉ owned)
  | _ => True

/-- What an object holds for a property: under the defensive policy an owned list or null where
the property is a list, and anything free otherwise. -/
def Entrusted (policy : Policy) (owned : List Nat) (bound : Nat) (isReadOnly : Bool)
    (field : Field) (value : Value) : Prop :=
  if policy = .defensive ∧ field.cardinality = .list then
    value = .null ∨ ∃ place ∈ owned, value = .list place isReadOnly
  else Free owned bound value

/-- How a store can change, and owned lists become more. -/
structure Grows (owned more : List Nat) (before after : Store) : Prop where
  objects : before.objects.length ≤ after.objects.length
  slots : ∀ object : Object, object.place < before.objects.length → ∀ slot,
    after.slot? object slot = before.slot? object slot
  bound : before.lists.length ≤ after.lists.length
  still : owned ⊆ more
  fresh : ∀ place ∈ more, place ∈ owned ∨ before.lists.length ≤ place
  inRange : ∀ place ∈ more, place < after.lists.length
  lists : ∀ items ∈ after.lists, ∀ value ∈ items, Free more after.lists.length value
  arrays : ∀ items ∈ after.arrays, ∀ value ∈ items, Free more after.lists.length value
  kept : ∀ place ∈ owned, after.lists[place]? = before.lists[place]?

section

variable {owned more : List Nat} {before after : Store}

theorem Free.mono {bound limit : Nat} (larger : bound ≤ limit)
    (fresh : ∀ place ∈ more, place ∈ owned ∨ bound ≤ place) {value : Value}
    (free : Free owned bound value) : Free more limit value := by
  cases value with
  | list place isReadOnly =>
      obtain ⟨small, apart⟩ := free
      refine ⟨Nat.lt_of_lt_of_le small larger, ?_⟩
      intro writable member
      rcases fresh place member with earlier | later
      · exact apart writable earlier
      · exact absurd small (Nat.not_lt.2 later)
  | _ => trivial

theorem Grows.free (grows : Grows owned more before after) {value : Value}
    (free : Free owned before.lists.length value) : Free more after.lists.length value :=
  free.mono grows.bound grows.fresh

theorem Grows.entrusted (grows : Grows owned more before after) {policy : Policy}
    {isReadOnly : Bool} {field : Field} {value : Value}
    (entrusted : Entrusted policy owned before.lists.length isReadOnly field value) :
    Entrusted policy more after.lists.length isReadOnly field value := by
  unfold Entrusted at entrusted ⊢
  split at entrusted
  · rename_i copies
    rw [if_pos copies]
    rcases entrusted with null | ⟨place, member, same⟩
    · exact .inl null
    · exact .inr ⟨place, grows.still member, same⟩
  · rename_i plain
    rw [if_neg plain]
    exact grows.free entrusted

/-- An owned list that is entrusted as a view is free. -/
theorem free_of_entrusted {policy : Policy} {bound : Nat} (inRange : ∀ place ∈ owned, place < bound)
    {field : Field} {value : Value} (entrusted : Entrusted policy owned bound true field value) :
    Free owned bound value := by
  unfold Entrusted at entrusted
  split at entrusted
  · rcases entrusted with rfl | ⟨place, member, rfl⟩
    · trivial
    · exact ⟨inRange place member, fun impossible => by cases impossible⟩
  · exact entrusted

end

/-! ### Objects -/

namespace Synthesis

variable {synthesis : Synthesis}

/-- A builder of a class has a slot for each property, and what it holds is in order. -/
structure BuilderSound (synthesis : Synthesis) (owned : List Nat) (store : Store)
    (builder : Object) (id : ClassId) : Prop where
  bearing : synthesis.bears id = true
  type : builder.type = synthesis.builder id
  place : builder.place < store.objects.length
  slots : ∀ holder ∈ synthesis.chain id, ∀ field, synthesis.Declares holder field →
    ∃ value, store.slot? builder (synthesis.builder holder, field.name) = some value ∧
      Entrusted synthesis.config.policy owned store.lists.length false field value

/-- A product of a class has a slot for each property, and what it holds is in order. -/
structure ProductSound (synthesis : Synthesis) (owned : List Nat) (store : Store)
    (product : Object) (id : ClassId) : Prop where
  known : id < synthesis.hierarchy.size
  type : product.type = synthesis.product id
  place : product.place < store.objects.length
  slots : ∀ holder ∈ synthesis.lineage id, ∀ field, synthesis.Declares holder field →
    ∃ value, store.slot? product (synthesis.product holder, field.name) = some value ∧
      Entrusted synthesis.config.policy owned store.lists.length true field value
  free : ∀ slot value, store.slot? product slot = some value →
    Free owned store.lists.length value

/-- No value that a caller has or can get at hand changes an owned list. -/
structure Owned (synthesis : Synthesis) (session : Session) (owned : List Nat) : Prop where
  inRange : ∀ place ∈ owned, place < session.store.lists.length
  values : ∀ value ∈ session.values, Free owned session.store.lists.length value
  lists : ∀ items ∈ session.store.lists, ∀ value ∈ items,
    Free owned session.store.lists.length value
  arrays : ∀ items ∈ session.store.arrays, ∀ value ∈ items,
    Free owned session.store.lists.length value
  builders : ∀ builder ∈ session.builders, ∃ id,
    BuilderSound synthesis owned session.store builder id
  products : ∀ product ∈ session.products, ∃ id,
    ProductSound synthesis owned session.store product id
  apart : ∀ builder ∈ session.builders, ∀ product ∈ session.products,
    builder.place ≠ product.place

section

variable {owned more : List Nat} {session : Session}

theorem BuilderSound.grow {before after : Store} (grows : Grows owned more before after)
    {builder : Object} {id : ClassId}
    (sound : BuilderSound synthesis owned before builder id) :
    BuilderSound synthesis more after builder id := by
  refine ⟨sound.bearing, sound.type, Nat.lt_of_lt_of_le sound.place grows.objects, ?_⟩
  intro holder member field declares
  obtain ⟨value, slot, entrusted⟩ := sound.slots holder member field declares
  refine ⟨value, ?_, grows.entrusted entrusted⟩
  rw [grows.slots builder sound.place]
  exact slot

theorem ProductSound.grow {before after : Store} (grows : Grows owned more before after)
    {product : Object} {id : ClassId}
    (sound : ProductSound synthesis owned before product id) :
    ProductSound synthesis more after product id := by
  refine ⟨sound.known, sound.type, Nat.lt_of_lt_of_le sound.place grows.objects, ?_, ?_⟩
  · intro holder member field declares
    obtain ⟨value, slot, entrusted⟩ := sound.slots holder member field declares
    refine ⟨value, ?_, grows.entrusted entrusted⟩
    rw [grows.slots product sound.place]
    exact slot
  · intro slot value found
    rw [grows.slots product sound.place] at found
    exact grows.free (sound.free slot value found)

/-- The invariant holds while the store grows. -/
theorem Owned.grow (sound : Owned synthesis session owned) {after : Store}
    (grows : Grows owned more session.store after) :
    Owned synthesis { session with store := after } more := by
  constructor
  · exact grows.inRange
  · exact fun value member => grows.free (sound.values value member)
  · exact grows.lists
  · exact grows.arrays
  · intro builder member
    obtain ⟨id, builderSound⟩ := sound.builders builder member
    exact ⟨id, builderSound.grow grows⟩
  · intro product member
    obtain ⟨id, productSound⟩ := sound.products product member
    exact ⟨id, productSound.grow grows⟩
  · exact sound.apart

/-- A free value may come to hand. -/
theorem Owned.hold (sound : Owned synthesis session owned) {value : Value}
    (free : Free owned session.store.lists.length value) :
    Owned synthesis (session.hold value) owned := by
  refine ⟨sound.inRange, ?_, sound.lists, sound.arrays, sound.builders, sound.products,
    sound.apart⟩
  intro other member
  rcases List.mem_cons.1 member with rfl | earlier
  · exact free
  · exact sound.values other earlier

/-- A builder may store what is entrusted to it. -/
theorem Owned.write (sound : Owned synthesis session owned) {builder : Object}
    (made : builder ∈ session.builders) {holder : ClassId}
    (bearing : synthesis.bears holder = true) {field : Field}
    (declares : synthesis.Declares holder field) {value : Value}
    (entrusted : Entrusted synthesis.config.policy owned session.store.lists.length false field
      value) :
    Owned synthesis
      { session with
        store := session.store.write builder (synthesis.builder holder, field.name) value }
      owned := by
  obtain ⟨own, ownSound⟩ := sound.builders builder made
  have size := Store.length_objects_write session.store builder
    (synthesis.builder holder, field.name) value
  refine ⟨sound.inRange, sound.values, sound.lists, sound.arrays, ?_, ?_, sound.apart⟩
  · intro other member
    obtain ⟨id, otherSound⟩ := sound.builders other member
    refine ⟨id, otherSound.bearing, otherSound.type, ?_, ?_⟩
    · rw [size]
      exact otherSound.place
    · intro above there declared declaresToo
      rw [Store.slot?_write session.store ownSound.place]
      by_cases here : other.place = builder.place ∧
          (synthesis.builder above, declared.name) = (synthesis.builder holder, field.name)
      · have types := (Prod.mk.inj here.2).1
        have holders :=
          builder_injective (bears_of_mem_chain otherSound.bearing there) bearing types
        subst holders
        have same := (property_unique_of_name (known_of_bears bearing) List.mem_cons_self
          declaresToo List.mem_cons_self declares (Prod.mk.inj here.2).2).2
        subst same
        rw [if_pos here]
        exact ⟨value, rfl, entrusted⟩
      · rw [if_neg here]
        exact otherSound.slots above there declared declaresToo
  · intro product member
    obtain ⟨id, productSound⟩ := sound.products product member
    have elsewhere : ∀ slot, (session.store.write builder
        (synthesis.builder holder, field.name) value).slot? product slot =
          session.store.slot? product slot := by
      intro slot
      rw [Store.slot?_write session.store ownSound.place,
        if_neg (fun both => sound.apart builder made product member both.1.symm)]
    refine ⟨id, productSound.known, productSound.type, ?_, ?_, ?_⟩
    · rw [size]
      exact productSound.place
    · intro above there declared declaresToo
      rw [elsewhere]
      exact productSound.slots above there declared declaresToo
    · intro slot found
      rw [elsewhere]
      exact productSound.free slot found

end

/-! ### What builders hold and hand over -/

section

variable {owned : List Nat} {store : Store}

theorem entrusted_defaultOf (policy : Policy) (owned : List Nat) (bound : Nat) (isReadOnly : Bool)
    (field : Field) : Entrusted policy owned bound isReadOnly field (defaultOf field) := by
  unfold Entrusted
  split
  · rename_i copies
    exact .inl (defaultOf_list copies.2)
  · obtain ⟨name, element, cardinality, isStatic, doc⟩ := field
    cases cardinality with
    | single =>
        cases element with
        | primitive kind => cases kind <;> trivial
        | named className => trivial
    | array => trivial
    | list => trivial

/-- What a builder holds can be handed over. -/
theorem BuilderSound.holds {builder : Object} {id : ClassId}
    (builderSound : BuilderSound synthesis owned store builder id) :
    ∃ held, Holds synthesis store builder (synthesis.chain id) held ∧
      ∀ holder ∈ synthesis.chain id, ∀ field, synthesis.Declares holder field →
        Entrusted synthesis.config.policy owned store.lists.length false field
          (held holder field) := by
  refine ⟨fun holder field =>
    (store.slot? builder (synthesis.builder holder, field.name)).getD .null, ?_, ?_⟩
  · intro holder member field declares
    obtain ⟨value, slot, entrusted⟩ := builderSound.slots holder member field declares
    beta_reduce
    rw [slot]
    refine ⟨rfl, ?_⟩
    intro policy list
    unfold Entrusted at entrusted
    rw [if_pos ⟨policy, list⟩] at entrusted
    rcases entrusted with null | ⟨place, -, same⟩
    · exact .inl null
    · exact .inr ⟨place, false, same⟩
  · intro holder member field declares
    obtain ⟨value, slot, entrusted⟩ := builderSound.slots holder member field declares
    beta_reduce
    rw [slot]
    exact entrusted

/-- What is handed over is entrusted to the product, as a view. -/
theorem entrusted_handed {policy : Policy} {bound : Nat} {field : Field} {value : Value}
    (entrusted : Entrusted policy owned bound false field value) :
    Entrusted policy owned bound true field (handed policy field value) := by
  unfold Entrusted at entrusted ⊢
  by_cases copies : policy = .defensive ∧ field.cardinality = .list
  · rw [if_pos copies] at entrusted ⊢
    rcases entrusted with rfl | ⟨place, member, rfl⟩
    · exact .inl rfl
    · refine .inr ⟨place, member, ?_⟩
      unfold handed
      rw [copies.1, copies.2]
      rfl
  · rw [if_neg copies] at entrusted ⊢
    rw [handed_eq_self copies]
    exact entrusted

/-- A new builder holds defaults. -/
theorem builderSound_new {id : ClassId} (bearing : synthesis.bears id = true) :
    BuilderSound synthesis owned
      (store.newObject (synthesis.builder id)
        (newSlots synthesis synthesis.builder (synthesis.chain id))).2
      ⟨store.objects.length, synthesis.builder id⟩ id := by
  refine ⟨bearing, rfl, ?_, ?_⟩
  · rw [Store.length_objects_newObject]
    exact Nat.lt_succ_self _
  · intro holder member field declares
    have slot := value?_newSlots_builder bearing member declares
    refine ⟨defaultOf field, ?_, entrusted_defaultOf _ _ _ _ field⟩
    rw [Store.slot?_newObject, if_pos rfl]
    exact slot

end

/-! ### Changes of the store -/

section

variable {owned : List Nat} {session : Session} (sound : Owned synthesis session owned)

include sound

theorem Owned.grows_refl : Grows owned owned session.store session.store :=
  ⟨Nat.le_refl _, fun _ _ _ => rfl, Nat.le_refl _, List.Subset.refl _,
    fun _ member => .inl member, sound.inRange, sound.lists, sound.arrays, fun _ _ => rfl⟩

/-- A new list, which may become owned. -/
theorem Owned.grows_newList {more : List Nat} (still : owned ⊆ more)
    (fresh : ∀ place ∈ more, place ∈ owned ∨ place = session.store.lists.length)
    {items : List Value}
    (free : ∀ value ∈ items, Free owned session.store.lists.length value) :
    Grows owned more session.store (session.store.newList items).2 := by
  have size : (session.store.newList items).2.lists.length = session.store.lists.length + 1 := by
    simp [Store.newList]
  have larger : session.store.lists.length ≤ (session.store.newList items).2.lists.length := by
    omega
  have later : ∀ place ∈ more, place ∈ owned ∨ session.store.lists.length ≤ place :=
    fun place member => (fresh place member).imp_right (fun same => Nat.le_of_eq same.symm)
  refine ⟨Nat.le_refl _, fun _ _ _ => rfl, larger, still, later, ?_, ?_, ?_, ?_⟩
  · intro place member
    rw [size]
    rcases fresh place member with earlier | rfl
    · exact Nat.lt_succ_of_lt (sound.inRange place earlier)
    · exact Nat.lt_succ_self _
  · intro others member value inside
    rcases List.mem_append.1 member with earlier | new
    · exact (sound.lists others earlier value inside).mono larger later
    · rw [List.mem_singleton.1 new] at inside
      exact (free value inside).mono larger later
  · intro others member value inside
    exact (sound.arrays others member value inside).mono larger later
  · intro place member
    exact List.getElem?_append_left (sound.inRange place member)

theorem Owned.grows_newArray {items : List Value}
    (free : ∀ value ∈ items, Free owned session.store.lists.length value) :
    Grows owned owned session.store (session.store.newArray items).2 := by
  refine ⟨Nat.le_refl _, fun _ _ _ => rfl, Nat.le_refl _, List.Subset.refl _,
    fun _ member => .inl member, sound.inRange, sound.lists, ?_, fun _ _ => rfl⟩
  intro others member value inside
  rcases List.mem_append.1 member with earlier | new
  · exact sound.arrays others earlier value inside
  · rw [List.mem_singleton.1 new] at inside
    exact free value inside

theorem Owned.grows_newObject (type : TypeId) (slots : Eval.Instance) :
    Grows owned owned session.store (session.store.newObject type slots).2 := by
  refine ⟨?_, ?_, Nat.le_refl _, List.Subset.refl _, fun _ member => .inl member, sound.inRange,
    sound.lists, sound.arrays, fun _ _ => rfl⟩
  · rw [Store.length_objects_newObject]
    exact Nat.le_succ _
  · intro object small slot
    rw [Store.slot?_newObject, if_neg (Nat.ne_of_lt small)]

/-- An item more in a list that is not owned. -/
theorem Owned.grows_append {place : Nat} (apart : place ∉ owned) {item : Value}
    (free : Free owned session.store.lists.length item) :
    Grows owned owned session.store (session.store.append place item) := by
  have size : (session.store.append place item).lists.length = session.store.lists.length :=
    List.length_modify _ _ _
  have there : ∀ other, (session.store.append place item).lists[other]? =
      (session.store.lists[other]?).map (fun items =>
        if place = other then items ++ [item] else items) := by
    intro other
    unfold Store.append
    rw [List.getElem?_modify]
    by_cases same : place = other <;> simp only [same, if_true, if_false] <;> rfl
  refine ⟨Nat.le_refl _, fun _ _ _ => rfl, Nat.le_of_eq size.symm, List.Subset.refl _,
    fun _ member => .inl member, ?_, ?_, ?_, ?_⟩
  · rw [size]
    exact sound.inRange
  · rw [size]
    intro items member value inside
    obtain ⟨other, found⟩ := List.mem_iff_getElem?.1 member
    rw [there] at found
    obtain ⟨earlier, known, rfl⟩ := Option.map_eq_some_iff.1 found
    have old := sound.lists earlier (List.mem_of_getElem? known)
    split at inside
    · rcases List.mem_append.1 inside with before | new
      · exact old value before
      · rw [List.mem_singleton.1 new]
        exact free
    · exact old value inside
  · rw [size]
    exact sound.arrays
  · intro other member
    have different : place ≠ other := fun same => apart (same ▸ member)
    rw [there]
    simp only [different, if_false, Option.map_id']

theorem Owned.grows_made {maker : ClassId} (bearing : synthesis.bears maker = true)
    (held : ClassId → Field → Value) :
    Grows owned owned session.store (synthesis.made held maker session.store) := by
  have lists := synthesis.lists_made held maker session.store
  have size := congrArg List.length lists
  refine ⟨?_, ?_, Nat.le_of_eq size.symm, List.Subset.refl _, fun _ member => .inl member, ?_, ?_,
    ?_, ?_⟩
  · rw [length_objects_made]
    exact Nat.le_succ _
  · intro object small slot
    rw [slot?_made bearing, if_neg (Nat.ne_of_lt small)]
  · rw [lists]
    exact sound.inRange
  · rw [lists]
    exact sound.lists
  · rw [lists, arrays_made]
    exact sound.arrays
  · intro place _
    rw [lists]

/-- The items of a list are free, also where there is no list. -/
theorem Owned.free_listItems (place : Nat) :
    ∀ value ∈ session.store.listItems place, Free owned session.store.lists.length value := by
  unfold Store.listItems
  rw [List.getD_eq_getElem?_getD]
  cases found : session.store.lists[place]? with
  | none =>
      intro value impossible
      cases impossible
  | some items => exact sound.lists items (List.mem_of_getElem? found)

theorem Owned.free_arrayItems (place : Nat) :
    ∀ value ∈ session.store.arrayItems place, Free owned session.store.lists.length value := by
  unfold Store.arrayItems
  rw [List.getD_eq_getElem?_getD]
  cases found : session.store.arrays[place]? with
  | none =>
      intro value impossible
      cases impossible
  | some items => exact sound.arrays items (List.mem_of_getElem? found)

/-- What a setter stores is entrusted to the builder; a list that it copies becomes owned. -/
theorem Owned.intake {field : Field} {given value : Value}
    (free : Free owned session.store.lists.length given) {after : Store}
    (taken : intake synthesis.config.policy field given session.store = some (value, after)) :
    ∃ more, Grows owned more session.store after ∧
      Entrusted synthesis.config.policy more after.lists.length false field value := by
  unfold Synthesis.intake at taken
  unfold Entrusted
  by_cases copies : synthesis.config.policy = .defensive ∧ field.cardinality = .list
  · rw [if_pos copies] at taken
    simp only [if_pos copies]
    cases given with
    | null =>
        obtain ⟨rfl, rfl⟩ := Prod.mk.inj (Option.some.inj taken)
        exact ⟨owned, sound.grows_refl, .inl rfl⟩
    | list place isReadOnly =>
        obtain ⟨rfl, rfl⟩ := Prod.mk.inj (Option.some.inj taken)
        refine ⟨session.store.lists.length :: owned, ?_, ?_⟩
        · apply sound.grows_newList (List.subset_cons_self _ _) ?_ (sound.free_listItems place)
          intro other member
          exact (List.mem_cons.1 member).symm
        · exact .inr ⟨session.store.lists.length, List.mem_cons_self, rfl⟩
    | _ => cases taken
  · rw [if_neg copies] at taken
    obtain ⟨rfl, rfl⟩ := Prod.mk.inj (Option.some.inj taken)
    refine ⟨owned, sound.grows_refl, ?_⟩
    rw [if_neg copies]
    exact free

theorem Owned.setting {field : Field} {arguments : List Typed}
    (free : ∀ argument ∈ arguments, Free owned session.store.lists.length argument.value)
    {value : Value} {after : Store}
    (taken : setting synthesis field arguments session.store = some (value, after)) :
    ∃ more, Grows owned more session.store after ∧
      Entrusted synthesis.config.policy more after.lists.length false field value := by
  unfold Synthesis.setting at taken
  cases whole : whole? synthesis field arguments with
  | some argument =>
      rw [whole] at taken
      obtain ⟨rfl, -⟩ := whole?_eq_some_iff.1 whole
      exact sound.intake (free argument List.mem_cons_self) taken
  | none =>
      rw [whole] at taken
      obtain ⟨⟨isArray, -⟩, gathered⟩ := Option.ite_none_right_eq_some.1 taken
      obtain ⟨rfl, rfl⟩ := Prod.mk.inj (Option.some.inj gathered)
      refine ⟨owned, sound.grows_newArray ?_, ?_⟩
      · intro item member
        obtain ⟨argument, listed, rfl⟩ := List.mem_map.1 member
        exact free argument listed
      · unfold Entrusted
        rw [if_neg (fun copies => by rw [isArray] at copies; cases copies.2)]
        trivial

/-- A product that is made is in order. -/
theorem Owned.productSound_made {maker : ClassId} (bearing : synthesis.bears maker = true)
    {held : ClassId → Field → Value}
    (entrusted : ∀ holder ∈ synthesis.chain maker, ∀ field, synthesis.Declares holder field →
      Entrusted synthesis.config.policy owned session.store.lists.length false field
        (held holder field)) :
    ProductSound synthesis owned (synthesis.made held maker session.store)
      (synthesis.productOf maker session.store) maker := by
  refine ⟨known_of_bears bearing, rfl, ?_, ?_, ?_⟩
  · rw [length_objects_made]
    exact Nat.lt_succ_self _
  · intro holder member field declares
    refine ⟨_, slot?_made_product bearing held session.store member declares, ?_⟩
    rw [lists_made]
    split
    · rename_i above
      exact entrusted_handed (entrusted holder above field declares)
    · exact entrusted_defaultOf _ _ _ _ field
  · intro slot value found
    have place : (synthesis.productOf maker session.store).place =
      session.store.objects.length := rfl
    rw [slot?_made bearing, if_pos place] at found
    rw [lists_made]
    rcases Option.or_eq_some_iff.1 found with given | ⟨-, default⟩
    · obtain ⟨holder, above, field, declares, same⟩ :=
        mem_slotsOf_iff.1 (Keyed.mem_of_value? given)
      rw [(Prod.mk.inj same).2]
      exact free_of_entrusted sound.inRange
        (entrusted_handed (entrusted holder above field declares))
    · obtain ⟨holder, -, field, -, same⟩ := mem_slotsOf_iff.1 (Keyed.mem_of_value? default)
      rw [(Prod.mk.inj same).2]
      exact free_of_entrusted sound.inRange
        (entrusted_defaultOf synthesis.config.policy _ _ _ field)

end

end Synthesis

end BuilderSynthesis.Run
