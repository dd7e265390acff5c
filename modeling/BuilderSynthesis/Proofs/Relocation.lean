import BuilderSynthesis.Proofs.Lockstep

/-!
Contract: where a run finds its store does not matter to it.

What a run makes comes after what its store already holds, and a run that starts with nothing in
hand reaches no more than what it makes. On two stores it makes the same then, at places that are
as far behind the ones that were there.

Owns: `Moved` and `MovedStore`, the values and stores of two runs that started on two stores.
-/

namespace BuilderSynthesis.Eval

open BuilderSynthesis.Code (TypeId)

/-- A value is no place, or one as far behind the places of a first store as the other value is
behind the places of a second one. -/
inductive Moved (one two : Store) : Value → Value → Prop where
  | plain (value : Value) (placeless : value.isPlace = false) : Moved one two value value
  | object (distance : Nat) (type : TypeId) :
      Moved one two (.object ⟨one.objects.length + distance, type⟩)
        (.object ⟨two.objects.length + distance, type⟩)
  | array (distance : Nat) :
      Moved one two (.array (one.arrays.length + distance)) (.array (two.arrays.length + distance))
  | list (distance : Nat) (isReadOnly : Bool) :
      Moved one two (.list (one.lists.length + distance) isReadOnly)
        (.list (two.lists.length + distance) isReadOnly)

/-- Two stores have the same behind the places of two earlier ones. -/
structure MovedStore (one two left right : Store) : Prop where
  objects : ∃ count, left.objects.length = one.objects.length + count ∧
    right.objects.length = two.objects.length + count
  arrays : ∃ count, left.arrays.length = one.arrays.length + count ∧
    right.arrays.length = two.arrays.length + count
  lists : ∃ count, left.lists.length = one.lists.length + count ∧
    right.lists.length = two.lists.length + count
  slot : ∀ distance type slot, Option.Rel (Moved one two)
    (left.slot? ⟨one.objects.length + distance, type⟩ slot)
    (right.slot? ⟨two.objects.length + distance, type⟩ slot)
  items : ∀ distance, List.Forall₂ (Moved one two)
    (left.listItems (one.lists.length + distance)) (right.listItems (two.lists.length + distance))

theorem Moved.symm {one two : Store} {value other : Value} (moved : Moved one two value other) :
    Moved two one other value := by
  cases moved with
  | plain value placeless => exact .plain value placeless
  | object distance type => exact .object distance type
  | array distance => exact .array distance
  | list distance isReadOnly => exact .list distance isReadOnly

/-- A store against another one, before anything is made. -/
theorem movedStore_self (one two : Store) : MovedStore one two one two where
  objects := ⟨0, rfl, rfl⟩
  arrays := ⟨0, rfl, rfl⟩
  lists := ⟨0, rfl, rfl⟩
  slot distance type slot := by
    unfold Store.slot?
    rw [List.getD_eq_default _ _ (Nat.le_add_right _ _),
      List.getD_eq_default _ _ (Nat.le_add_right _ _)]
    exact .none
  items distance := by
    unfold Store.listItems
    rw [List.getD_eq_default _ _ (Nat.le_add_right _ _),
      List.getD_eq_default _ _ (Nat.le_add_right _ _)]
    exact .nil

section

variable {one two left right : Store}

theorem MovedStore.symm (moved : MovedStore one two left right) :
    MovedStore two one right left where
  objects := by
    obtain ⟨count, here, there⟩ := moved.objects
    exact ⟨count, there, here⟩
  arrays := by
    obtain ⟨count, here, there⟩ := moved.arrays
    exact ⟨count, there, here⟩
  lists := by
    obtain ⟨count, here, there⟩ := moved.lists
    exact ⟨count, there, here⟩
  slot distance type slot := by
    have same := moved.slot distance type slot
    generalize left.slot? _ slot = value at same ⊢
    generalize right.slot? _ slot = other at same ⊢
    cases same with
    | none => exact .none
    | some here => exact .some here.symm
  items distance := ((moved.items distance).imp fun _ _ same => same.symm).flip

theorem MovedStore.write (moved : MovedStore one two left right) (distance : Nat) (type : TypeId)
    (slot : Slot) {value other : Value} (same : Moved one two value other) :
    MovedStore one two (left.write ⟨one.objects.length + distance, type⟩ slot value)
      (right.write ⟨two.objects.length + distance, type⟩ slot other) := by
  obtain ⟨count, here, there⟩ := moved.objects
  rcases Nat.lt_or_ge distance count with known | unknown
  · have knownLeft : one.objects.length + distance < left.objects.length := by omega
    have knownRight : two.objects.length + distance < right.objects.length := by omega
    refine ⟨⟨count, ?_, ?_⟩, moved.arrays, moved.lists, fun further className wanted => ?_,
      moved.items⟩
    · rw [Store.length_objects_write, here]
    · rw [Store.length_objects_write, there]
    · rw [Store.slot?_write left knownLeft, Store.slot?_write right knownRight]
      simp only [Nat.add_left_cancel_iff]
      split
      · exact .some same
      · exact moved.slot further className wanted
  · have unknownLeft : left.objects.length ≤ one.objects.length + distance := by omega
    have unknownRight : right.objects.length ≤ two.objects.length + distance := by omega
    rw [Store.write_of_length_le unknownLeft, Store.write_of_length_le unknownRight]
    exact moved

theorem MovedStore.newObject (moved : MovedStore one two left right) (type : TypeId)
    {slots others : Instance} (same : List.Forall₂ (SlotAlike (Moved one two)) slots others) :
    MovedStore one two (left.newObject type slots).2 (right.newObject type others).2 := by
  obtain ⟨count, here, there⟩ := moved.objects
  refine ⟨⟨count + 1, ?_, ?_⟩, moved.arrays, moved.lists, fun distance className wanted => ?_,
    moved.items⟩
  · rw [Store.length_objects_newObject, here, Nat.add_assoc]
  · rw [Store.length_objects_newObject, there, Nat.add_assoc]
  · rw [Store.slot?_newObject, Store.slot?_newObject, here, there]
    simp only [Nat.add_left_cancel_iff]
    split
    · exact Keyed.value?_alike same wanted
    · exact moved.slot distance className wanted

theorem MovedStore.newList (moved : MovedStore one two left right) {items others : List Value}
    (same : List.Forall₂ (Moved one two) items others) :
    MovedStore one two (left.newList items).2 (right.newList others).2 := by
  obtain ⟨count, here, there⟩ := moved.lists
  refine ⟨moved.objects, moved.arrays, ⟨count + 1, ?_, ?_⟩, moved.slot, fun distance => ?_⟩
  · simp only [Store.newList, List.length_append, List.length_singleton, here, Nat.add_assoc]
  · simp only [Store.newList, List.length_append, List.length_singleton, there, Nat.add_assoc]
  · rw [Store.listItems_newList, Store.listItems_newList, here, there]
    simp only [Nat.add_left_cancel_iff]
    split
    · exact same
    · exact moved.items distance

theorem MovedStore.newArray (moved : MovedStore one two left right) (items others : List Value) :
    MovedStore one two (left.newArray items).2 (right.newArray others).2 := by
  obtain ⟨count, here, there⟩ := moved.arrays
  refine ⟨moved.objects, ⟨count + 1, ?_, ?_⟩, moved.lists, moved.slot, moved.items⟩
  · simp only [Store.newArray, List.length_append, List.length_singleton, here, Nat.add_assoc]
  · simp only [Store.newArray, List.length_append, List.length_singleton, there, Nat.add_assoc]

end

/-- The machine cannot tell a store from one in which everything lies further behind. -/
theorem likeness_moved (one two : Store) : Likeness (MovedStore one two) (Moved one two) where
  plain := .plain
  shape value other moved := by
    cases moved with
    | plain value placeless => exact .plain value placeless
    | object distance type => exact .object _ _ type
    | array distance => exact .array _ _
    | list distance isReadOnly => exact .list _ _ isReadOnly
  readOnly place placeToo isReadOnly moved := by
    cases moved with
    | plain _ placeless => cases placeless
    | list distance => exact .list distance true
  slot left right object other slot moved same := by
    cases same with
    | plain _ placeless => cases placeless
    | object distance type => exact moved.slot distance type slot
  write left right object other slot value valueToo moved same held := by
    cases same with
    | plain _ placeless => cases placeless
    | object distance type => exact moved.write distance type slot held
  newObject left right type slots others moved same := by
    refine ⟨moved.newObject type same, ?_⟩
    obtain ⟨count, here, there⟩ := moved.objects
    unfold Store.newObject
    rw [here, there]
    exact .object count type
  newArray left right items others moved same := by
    refine ⟨moved.newArray items others, ?_⟩
    obtain ⟨count, here, there⟩ := moved.arrays
    unfold Store.newArray
    rw [here, there]
    exact .array count
  newList left right items others moved same := by
    refine ⟨moved.newList same, ?_⟩
    obtain ⟨count, here, there⟩ := moved.lists
    unfold Store.newList
    rw [here, there]
    exact .list count false
  items left right place placeToo isReadOnly moved same := by
    cases same with
    | plain _ placeless => cases placeless
    | list distance => exact moved.items distance

/-- The machine can tell nothing from itself. -/
theorem likeness_eq : Likeness Eq Eq where
  plain _ _ := rfl
  shape value other same := by
    subst same
    cases value with
    | object => exact .object _ _ _
    | array => exact .array _ _
    | list => exact .list _ _ _
    | _ => exact .plain _ rfl
  readOnly place placeToo isReadOnly same := by
    cases same
    rfl
  slot store other object objectToo slot same alike := by
    cases same
    cases alike
    cases store.slot? object slot with
    | none => exact .none
    | some => exact .some rfl
  write store other object objectToo slot value valueToo same alike held := by
    cases same
    cases alike
    cases held
    rfl
  newObject store other type slots slotsToo same alike := by
    cases same
    have equal : slots = slotsToo :=
      List.forall₂_eq_eq_eq ▸ alike.imp fun _ _ both => Prod.ext both.1 both.2
    cases equal
    exact ⟨rfl, rfl⟩
  newArray store other items itemsToo same alike := by
    cases same
    rw [List.forall₂_eq_eq_eq] at alike
    cases alike
    exact ⟨rfl, rfl⟩
  newList store other items itemsToo same alike := by
    cases same
    rw [List.forall₂_eq_eq_eq] at alike
    cases alike
    exact ⟨rfl, rfl⟩
  items store other place placeToo isReadOnly same alike := by
    cases same
    cases alike
    rw [List.forall₂_eq_eq_eq]

/-- Likeness that goes both ways. -/
structure Alike (stores : Store → Store → Prop) (values : Value → Value → Prop) : Prop where
  forth : Likeness stores values
  back : Likeness (flip stores) (flip values)

theorem alike_eq : Alike Eq Eq := by
  refine ⟨likeness_eq, ?_⟩
  have stores : flip (Eq : Store → Store → Prop) = Eq := by
    funext one two
    exact propext eq_comm
  have values : flip (Eq : Value → Value → Prop) = Eq := by
    funext one two
    exact propext eq_comm
  rw [stores, values]
  exact likeness_eq

theorem alike_moved (one two : Store) : Alike (MovedStore one two) (Moved one two) := by
  refine ⟨likeness_moved one two, ?_⟩
  have stores : flip (MovedStore one two) = MovedStore two one := by
    funext left right
    exact propext ⟨MovedStore.symm, MovedStore.symm⟩
  have values : flip (Moved one two) = Moved two one := by
    funext value other
    exact propext ⟨Moved.symm, Moved.symm⟩
  rw [stores, values]
  exact likeness_moved two one

theorem TypedAlike.flip {values : Value → Value → Prop} {one two : Typed}
    (same : TypedAlike (flip values) one two) : TypedAlike values two one :=
  ⟨same.value, same.type.symm⟩

end BuilderSynthesis.Eval
