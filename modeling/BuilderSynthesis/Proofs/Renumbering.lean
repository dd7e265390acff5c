import BuilderSynthesis.Proofs.Ancestry
import Mathlib.Data.List.Nodup
import Mathlib.Data.List.Perm.Basic

/-!
Contract: hierarchies that have classes in common, at other places.

Links to superclasses are positions, so a class that moves takes the links to it along. Where
the classes above a kept class are kept, they move with it: `Keeps.ancestors`. In another order
all classes are kept.

Owns: `Keeps`, `Hierarchy.reorder`, `Renumbers`, and `renumbers_reorder`.
-/

namespace BuilderSynthesis.Schema

/-- A class with its superclass at another position. -/
def DataClass.renumber (place : ClassId → ClassId) (dataClass : DataClass) : DataClass :=
  { dataClass with superclass := dataClass.superclass.map place }

namespace Hierarchy

/-- The classes of a hierarchy in another order, which lists their positions. -/
def reorder (hierarchy : Hierarchy) (order : List ClassId) : Hierarchy :=
  ⟨(order.filterMap hierarchy.get?).map (DataClass.renumber (fun id => order.idxOf id))⟩

/-! ### Classes in common -/

/-- A hierarchy of as many classes has some of another, each at its place, with all that is above
them. -/
structure Keeps (first second : Hierarchy) (place : ClassId → ClassId) (kept : ClassId → Prop) :
    Prop where
  size : second.size = first.size
  known : ∀ id, kept id → id < first.size
  moved : ∀ id dataClass, kept id → first.get? id = some dataClass →
    second.get? (place id) = some (dataClass.renumber place)
  closed : ∀ id above, kept id → first.superclass id = some above → kept above

namespace Keeps

variable {first second : Hierarchy} {place : ClassId → ClassId} {kept : ClassId → Prop}
  (keeps : Keeps first second place kept)

include keeps

theorem superclass {id : ClassId} (here : kept id) :
    second.superclass (place id) = (first.superclass id).map place := by
  obtain ⟨dataClass, found⟩ := exists_get? (keeps.known id here)
  unfold Hierarchy.superclass
  rw [keeps.moved id dataClass here found, found]
  rfl

/-- What is above a kept class moves with it. -/
theorem ancestors {id : ClassId} (here : kept id) :
    second.ancestors (place id) = (first.ancestors id).map place := by
  unfold Hierarchy.ancestors
  rw [chain_eq_visited, chain_eq_visited, keeps.size, keeps.superclass here]
  cases link : first.superclass id with
  | none => rw [Option.map_none, Walk.visited_none, Walk.visited_none, List.map_nil]
  | some above =>
      exact Walk.visited_map keeps.closed (fun _ => keeps.superclass) first.size
        (keeps.closed id above here link)

theorem kept_ancestors (acyclic : first.Acyclic) (inRange : first.InRange) {id other : ClassId}
    (here : kept id) (member : other ∈ first.ancestors id) : kept other := by
  have above := (mem_ancestors_iff acyclic inRange id other).1 member
  induction above with
  | single link => exact keeps.closed _ _ here link
  | tail further link inductionHypothesis =>
      exact keeps.closed _ _
        (inductionHypothesis ((mem_ancestors_iff acyclic inRange id _).2 further)) link

end Keeps

/-! ### Other orders -/

/-- A hierarchy has the classes of another, each at its place. -/
structure Renumbers (first second : Hierarchy) (place : ClassId → ClassId) : Prop where
  classes : second.classes.Perm (first.classes.map (DataClass.renumber place))
  moved : ∀ id dataClass, first.get? id = some dataClass →
    second.get? (place id) = some (dataClass.renumber place)
  onto : ∀ id : Nat, id < second.size → ∃ earlier : Nat, earlier < first.size ∧ place earlier = id
  injective : ∀ left right : Nat, left < first.size → right < first.size →
    place left = place right → left = right

namespace Renumbers

variable {first second : Hierarchy} {place : ClassId → ClassId}
  (renumbers : Renumbers first second place)

include renumbers

theorem size : second.size = first.size := by
  have lengths := renumbers.classes.length_eq
  rwa [List.length_map] at lengths

/-- What is told of each class, whatever its position. -/
theorem flatMap_perm {α : Type} (told : DataClass → List α)
    (same : ∀ dataClass, told (dataClass.renumber place) = told dataClass) :
    (second.classes.flatMap told).Perm (first.classes.flatMap told) := by
  have perm := renumbers.classes.flatMap_right told
  rwa [List.flatMap_map, funext same] at perm

/-- The classes of a kind, whatever their positions. -/
theorem filter_perm (kind : DataClass → Bool)
    (same : ∀ dataClass, kind (dataClass.renumber place) = kind dataClass) :
    (second.classes.filter kind).Perm
      ((first.classes.filter kind).map (DataClass.renumber place)) := by
  have perm := renumbers.classes.filter kind
  rwa [List.filter_map, show kind ∘ DataClass.renumber place = kind from funext same] at perm

theorem place_lt {id : Nat} (known : id < first.size) : place id < second.size := by
  obtain ⟨dataClass, found⟩ := exists_get? known
  exact get?_eq_some_lt (renumbers.moved id dataClass found)

/-- All positions, in the order of the first hierarchy. -/
theorem range_perm : (List.range second.size).Perm ((List.range first.size).map place) := by
  have distinct : ((List.range first.size).map place).Nodup := by
    refine List.Nodup.map_on ?_ List.nodup_range
    intro left one right two same
    exact renumbers.injective left right (List.mem_range.1 one) (List.mem_range.1 two) same
  refine (List.perm_ext_iff_of_nodup List.nodup_range distinct).2 ?_
  intro id
  rw [List.mem_range, List.mem_map]
  constructor
  · intro known
    obtain ⟨earlier, small, same⟩ := renumbers.onto id known
    exact ⟨earlier, List.mem_range.2 small, same⟩
  · rintro ⟨earlier, small, rfl⟩
    exact renumbers.place_lt (List.mem_range.1 small)

variable (inRange : first.InRange)

include inRange

theorem inRange_second : second.InRange := by
  intro dataClass member above extended
  obtain ⟨earlier, known, rfl⟩ := List.mem_map.1 (renumbers.classes.mem_iff.1 member)
  obtain ⟨superclass, link, rfl⟩ := Option.map_eq_some_iff.1 extended
  exact renumbers.place_lt (inRange earlier known superclass link)

/-- All classes are kept. -/
theorem keeps : Keeps first second place (· < first.size) :=
  ⟨renumbers.size, fun _ known => known, fun id dataClass _ => renumbers.moved id dataClass,
    superclass_closed inRange⟩

end Renumbers

/-- The classes in the order that lists all positions. -/
theorem filterMap_range (hierarchy : Hierarchy) :
    (List.range hierarchy.size).filterMap hierarchy.get? = hierarchy.classes := by
  have all : (List.range hierarchy.size).map hierarchy.get? = hierarchy.classes.map some := by
    apply List.ext_getElem
    · rw [List.length_map, List.length_map, List.length_range]
      rfl
    · intro position one two
      rw [List.getElem_map, List.getElem_map, List.getElem_range]
      exact List.getElem?_eq_getElem _
  have kept := congrArg (List.filterMap id) all
  rw [List.filterMap_map, List.filterMap_map] at kept
  exact kept.trans List.filterMap_some

/-- An order that lists every position once moves the classes. -/
theorem renumbers_reorder {hierarchy : Hierarchy} {order : List ClassId}
    (permutes : order.Perm (List.range hierarchy.size)) :
    Renumbers hierarchy (hierarchy.reorder order) (fun id => order.idxOf id) := by
  have distinct : order.Nodup := permutes.nodup_iff.2 List.nodup_range
  have listed : ∀ id : Nat, id ∈ order ↔ id < hierarchy.size := fun id =>
    permutes.mem_iff.trans List.mem_range
  have each : order.filterMap hierarchy.get? =
      order.map (fun id => (hierarchy.get? id).getD default) := by
    rw [← List.filterMap_eq_map]
    refine List.filterMap_congr fun id member => ?_
    obtain ⟨dataClass, found⟩ := exists_get? ((listed id).1 member)
    rw [Function.comp_apply, found, Option.getD_some]
  constructor
  · unfold reorder
    refine List.Perm.map _ ?_
    rw [← filterMap_range hierarchy]
    exact permutes.filterMap _
  · intro id dataClass found
    have member := (listed id).2 (get?_eq_some_lt found)
    show ((order.filterMap hierarchy.get?).map _)[order.idxOf id]? = _
    rw [each, List.map_map, List.getElem?_map, List.getElem?_idxOf member, Option.map_some,
      Function.comp_apply, found, Option.getD_some]
  · intro id small
    have length : (hierarchy.reorder order).size = order.length := by
      unfold reorder Hierarchy.size
      rw [each, List.length_map, List.length_map]
    rw [length] at small
    exact ⟨order[id], (listed _).1 (List.getElem_mem small), distinct.idxOf_getElem id small⟩
  · intro left right one two same
    exact (List.idxOf_inj ((listed left).2 one)).1 same

end Hierarchy

end BuilderSynthesis.Schema
