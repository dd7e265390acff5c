import BuilderSynthesis.Proofs.Ancestry
import BuilderSynthesis.Proofs.Naming
import Mathlib.Data.Nat.Find

/-!
Contract: walks with a bound on their steps, along links that may lead in circles.

`after` is the position that a walk has come to. The first time that a walk meets a position, all
positions before are different, and there are no more of them than the bound. So with as many steps
as there are positions with links, nothing is missed: a walk without a circle ends by itself, and
one that has come into a circle has gone round it.

Of ancestors the first is a superclass and the last can be no class at all; of supertypes the first
is the type itself, and all are types. Both are walks of this kind.

Owns: `after`, `Meets`, `OnCircle`, `Exact` and `bounded_walks_exact`.
-/

namespace BuilderSynthesis.Walk

/-! ### The position that a walk has come to -/

/-- The position after a number of steps, unless the walk ended before. -/
def after (next : Nat → Option Nat) (start : Option Nat) : Nat → Option Nat
  | 0 => start
  | steps + 1 => (after next start steps).bind next

/-- A walk from a start comes to a position. -/
def Meets (next : Nat → Option Nat) (start : Option Nat) (position : Nat) : Prop :=
  ∃ first, start = some first ∧ Relation.ReflTransGen (Leads next) first position

/-- A position leads back to itself. -/
def OnCircle (next : Nat → Option Nat) (position : Nat) : Prop :=
  Relation.TransGen (Leads next) position position

section

variable {next : Nat → Option Nat} {start : Option Nat} {bound : Nat}

theorem after_bind (steps : Nat) :
    after next (start.bind next) steps = after next start (steps + 1) := by
  induction steps with
  | zero => rfl
  | succ steps inductionHypothesis => rw [after, inductionHypothesis, ← after]

theorem after_add (first second : Nat) :
    after next start (first + second) = after next (after next start first) second := by
  induction second with
  | zero => rfl
  | succ second inductionHypothesis => rw [← Nat.add_assoc, after, inductionHypothesis, after]

/-- Before a position that a walk comes to there are others at every step. -/
theorem exists_after_of_le {steps earlier position : Nat}
    (there : after next start steps = some position) (less : earlier ≤ steps) :
    ∃ other, after next start earlier = some other := by
  induction steps generalizing position with
  | zero =>
      obtain rfl := Nat.le_zero.1 less
      exact ⟨position, there⟩
  | succ steps inductionHypothesis =>
      rcases Nat.eq_or_lt_of_le less with rfl | before
      · exact ⟨position, there⟩
      · obtain ⟨other, here, -⟩ := Option.bind_eq_some_iff.1 there
        exact inductionHypothesis here (Nat.le_of_lt_succ before)

theorem reaches_iff_exists_after {position other : Nat} :
    Relation.ReflTransGen (Leads next) position other ↔
      ∃ steps, after next (some position) steps = some other := by
  constructor
  · intro reaches
    induction reaches with
    | refl => exact ⟨0, rfl⟩
    | tail _ link inductionHypothesis =>
        obtain ⟨steps, there⟩ := inductionHypothesis
        exact ⟨steps + 1, by rw [after, there]; exact link⟩
  · rintro ⟨steps, there⟩
    induction steps generalizing other with
    | zero => exact Option.some.inj there ▸ .refl
    | succ steps inductionHypothesis =>
        obtain ⟨middle, here, link⟩ := Option.bind_eq_some_iff.1 there
        exact (inductionHypothesis here).tail link

theorem meets_iff_exists_after {position : Nat} :
    Meets next start position ↔ ∃ steps, after next start steps = some position := by
  unfold Meets
  constructor
  · rintro ⟨first, rfl, reaches⟩
    exact reaches_iff_exists_after.1 reaches
  · rintro ⟨steps, there⟩
    obtain ⟨first, same⟩ := exists_after_of_le there (Nat.zero_le steps)
    obtain rfl : start = some first := same
    exact ⟨first, rfl, reaches_iff_exists_after.2 ⟨steps, there⟩⟩

theorem onCircle_iff_exists_after {position : Nat} :
    OnCircle next position ↔ ∃ steps, after next (some position) (steps + 1) = some position := by
  unfold OnCircle
  rw [Relation.TransGen.tail'_iff]
  constructor
  · rintro ⟨last, reaches, link⟩
    obtain ⟨steps, there⟩ := reaches_iff_exists_after.1 reaches
    exact ⟨steps, by rw [after, there]; exact link⟩
  · rintro ⟨steps, there⟩
    obtain ⟨last, here, link⟩ := Option.bind_eq_some_iff.1 there
    exact ⟨last, reaches_iff_exists_after.2 ⟨steps, here⟩, link⟩

/-- A walk that comes to a position twice is on a circle there. -/
theorem onCircle_of_after {position earlier later : Nat}
    (first : after next start earlier = some position)
    (second : after next start later = some position) (less : earlier < later) :
    OnCircle next position := by
  obtain ⟨more, rfl⟩ := Nat.exists_eq_add_of_lt less
  rw [Nat.add_assoc, after_add, first] at second
  exact onCircle_iff_exists_after.2 ⟨more, second⟩

/-- A walk that comes to a circle goes on for ever. -/
theorem exists_after_of_onCircle {position arrival : Nat} (circle : OnCircle next position)
    (there : after next start arrival = some position) (steps : Nat) :
    ∃ other, after next start steps = some other := by
  obtain ⟨length, round⟩ := onCircle_iff_exists_after.1 circle
  have rounds : ∀ times, after next (some position) (times * (length + 1)) = some position := by
    intro times
    induction times with
    | zero => rw [Nat.zero_mul, after]
    | succ times inductionHypothesis => rw [Nat.succ_mul, after_add, inductionHypothesis, round]
  have late : after next start (arrival + steps * (length + 1)) = some position := by
    rw [after_add, there, rounds]
  have enough : steps ≤ steps * (length + 1) := Nat.le_mul_of_pos_right steps (Nat.succ_pos length)
  exact exists_after_of_le late (by omega)

/-! ### What a walk lists -/

theorem getElem?_visited (steps place : Nat) :
    (visited next steps start)[place]? =
      if place < steps then after next start place else none := by
  induction steps generalizing start place with
  | zero => simp [visited]
  | succ steps inductionHypothesis =>
      cases start with
      | none =>
          have never : after next none place = none := by
            induction place with
            | zero => rfl
            | succ place before => rw [after, before, Option.bind_none]
          simp [visited, never]
      | some position =>
          cases place with
          | zero => simp [visited, after]
          | succ place =>
              rw [visited, List.getElem?_cons_succ, inductionHypothesis, ← after_bind,
                Option.bind_some]
              simp only [Nat.add_lt_add_iff_right]

theorem length_visited_le (steps : Nat) : (visited next steps start).length ≤ steps := by
  rw [← List.getElem?_eq_none_iff, getElem?_visited, if_neg (Nat.lt_irrefl steps)]

theorem length_visited {steps position : Nat} (there : after next start steps = some position) :
    (visited next (steps + 1) start).length = steps + 1 := by
  refine Nat.le_antisymm (length_visited_le _) ?_
  have last : (visited next (steps + 1) start)[steps]? = some position := by
    rw [getElem?_visited, if_pos (Nat.lt_succ_self steps), there]
  exact (List.getElem?_eq_some_iff.1 last).1

/-- The positions before one that is met for the first time, and that one, are all different. -/
theorem exists_first_meeting {steps position : Nat}
    (there : after next start steps = some position) :
    ∃ first, after next start first = some position ∧ (visited next (first + 1) start).Nodup := by
  have met : ∃ steps, after next start steps = some position := ⟨steps, there⟩
  classical
  refine ⟨Nat.find met, Nat.find_spec met, List.nodup_iff_getElem?_ne_getElem?.2 ?_⟩
  intro one other less within same
  rw [length_visited (Nat.find_spec met)] at within
  rw [getElem?_visited, getElem?_visited, if_pos (by omega), if_pos within] at same
  -- What repeats could be left out, so that the position is met before.
  have shorter : after next start (one + (Nat.find met - other)) = some position := by
    rw [after_add, same, ← after_add, Nat.add_sub_cancel' (Nat.le_of_lt_succ within)]
    exact Nat.find_spec met
  exact Nat.find_min met (by omega) shorter

/-! ### Enough steps -/

/-- Where positions are below the bound, every position is met within the bound. -/
theorem exists_after_lt (bounded : Bounded next bound) {position other steps : Nat}
    (known : position < bound) (there : after next (some position) steps = some other) :
    ∃ first < bound, after next (some position) first = some other := by
  obtain ⟨first, here, distinct⟩ := exists_first_meeting there
  refine ⟨first, ?_, here⟩
  have below : ∀ item ∈ visited next (first + 1) (some position), item < bound := by
    intro item member
    rcases eq_or_reaches_of_mem_visited member with rfl | reaches
    · exact known
    · exact lt_of_reaches bounded reaches
  have length := length_le_of_nodup distinct below
  rwa [length_visited here] at length

theorem after_next (position steps : Nat) :
    after next (next position) steps = after next (some position) (steps + 1) := by
  rw [← after_bind, Option.bind_some]

/-- Positions that lead to different ones are different. -/
theorem nodup_visited_of_next {position steps last : Nat}
    (there : after next (next position) steps = some last)
    (distinct : (visited next (steps + 1) (next position)).Nodup) :
    (visited next (steps + 1) (some position)).Nodup := by
  rw [after_next] at there
  obtain ⟨before, here⟩ := exists_after_of_le there (Nat.le_succ steps)
  rw [List.nodup_iff_getElem?_ne_getElem?] at distinct ⊢
  intro one two less within same
  rw [length_visited here] at within
  rw [getElem?_visited, getElem?_visited, if_pos (by omega), if_pos within] at same
  apply distinct one two less (by rwa [length_visited (after_next position steps ▸ there)])
  rw [getElem?_visited, getElem?_visited, if_pos (by omega), if_pos within, after_next, after_next,
    after, after, same]

/-- Where positions with a link are below the bound, every position that one leads to is met within
the bound, also one that is not below it: the position to start from makes up for it. -/
theorem exists_after_next_lt
    (sources : ∀ position other, Leads next position other → position < bound)
    {position other steps : Nat} (there : after next (next position) steps = some other) :
    ∃ first < bound, after next (next position) first = some other := by
  obtain ⟨first, here, distinct⟩ := exists_first_meeting there
  refine ⟨first, ?_, here⟩
  have onward : after next (some position) (first + 1) = some other := by
    rw [← after_next, here]
  have below : ∀ item ∈ visited next (first + 1) (some position), item < bound := by
    intro item member
    obtain ⟨place, found⟩ := List.mem_iff_getElem?.1 member
    rw [getElem?_visited] at found
    split at found
    · rename_i within
      obtain ⟨linked, link⟩ := exists_after_of_le onward within
      rw [after, found] at link
      exact sources item linked link
    · cases found
  obtain ⟨before, last⟩ := exists_after_of_le onward (Nat.le_succ first)
  have length := length_le_of_nodup (nodup_visited_of_next here distinct) below
  rwa [length_visited last] at length

/-! ### Exact walks -/

/-- What a walk with a bound on its steps lists, if the bound cuts nothing off but rounds. -/
structure Exact (next : Nat → Option Nat) (bound : Nat) (start : Option Nat) (items : List Nat) :
    Prop where
  /-- The list ends. -/
  length_le : items.length ≤ bound
  /-- It has the positions in the order in which the walk comes to them. -/
  nearestFirst : ∀ steps < bound, items[steps]? = after next start steps
  /-- It has every position that the walk ever comes to. -/
  complete : ∀ position, position ∈ items ↔ Meets next start position
  /-- Without a circle it is the whole walk, and has each position once. -/
  straight : (∀ position, Meets next start position → ¬ OnCircle next position) →
    items.Nodup ∧ ∀ steps, items[steps]? = after next start steps
  /-- With a circle it is as long as it can be, and has the whole circle. -/
  circling : ∀ position, Meets next start position → OnCircle next position →
    items.length = bound ∧
      ∀ other, Relation.ReflTransGen (Leads next) position other → other ∈ items

theorem exact_visited
    (enough : ∀ position steps, after next start steps = some position →
      ∃ first < bound, after next start first = some position) :
    Exact next bound start (visited next bound start) := by
  have nearestFirst :
      ∀ steps < bound, (visited next bound start)[steps]? = after next start steps :=
    fun steps less => by rw [getElem?_visited, if_pos less]
  have complete : ∀ position, position ∈ visited next bound start ↔ Meets next start position := by
    intro position
    rw [List.mem_iff_getElem?, meets_iff_exists_after]
    constructor
    · rintro ⟨place, found⟩
      rw [getElem?_visited] at found
      split at found
      · exact ⟨place, found⟩
      · cases found
    · rintro ⟨steps, there⟩
      obtain ⟨first, less, here⟩ := enough position steps there
      exact ⟨first, (nearestFirst first less).trans here⟩
  refine ⟨length_visited_le bound, nearestFirst, complete, fun apart => ⟨?_, ?_⟩, ?_⟩
  · rw [List.nodup_iff_getElem?_ne_getElem?]
    intro one other less within same
    have room := Nat.lt_of_lt_of_le within (length_visited_le bound)
    obtain ⟨position, found⟩ : ∃ position, (visited next bound start)[other]? = some position :=
      ⟨_, List.getElem?_eq_getElem within⟩
    rw [found, nearestFirst one (by omega)] at same
    rw [nearestFirst other room] at found
    exact apart position (meets_iff_exists_after.2 ⟨other, found⟩)
      (onCircle_of_after same found less)
  · intro steps
    by_cases less : steps < bound
    · exact nearestFirst steps less
    · rw [getElem?_visited, if_neg less, eq_comm, Option.eq_none_iff_forall_ne_some]
      intro position there
      obtain ⟨first, small, here⟩ := enough position steps there
      exact apart position (meets_iff_exists_after.2 ⟨steps, there⟩)
        (onCircle_of_after here there (by omega))
  · intro position meets circle
    obtain ⟨arrival, there⟩ := meets_iff_exists_after.1 meets
    constructor
    · cases bound with
      | zero => exact Nat.le_zero.1 (length_visited_le 0)
      | succ less =>
          obtain ⟨other, onward⟩ := exists_after_of_onCircle circle there less
          exact length_visited onward
    · intro other reaches
      obtain ⟨first, begins, before⟩ := meets
      exact (complete other).2 ⟨first, begins, before.trans reaches⟩

end

/-! ### Ancestors and supertypes -/

open Code (Model)
open Schema (ClassId Hierarchy)

theorem lt_of_superclass {hierarchy : Hierarchy} {id superclass : ClassId}
    (link : Leads hierarchy.superclass id superclass) : id < hierarchy.size := by
  obtain ⟨dataClass, found, -⟩ := Option.bind_eq_some_iff.1 link
  exact Hierarchy.get?_eq_some_lt found

theorem exact_ancestors (hierarchy : Hierarchy) (id : ClassId) :
    Exact hierarchy.superclass hierarchy.size (hierarchy.superclass id)
      (hierarchy.ancestors id) := by
  rw [Hierarchy.ancestors_eq_path]
  exact exact_visited fun _ _ there => exists_after_next_lt (fun _ _ => lt_of_superclass) there

section

variable {model : Model} (bounded : Bounded model.superclass? model.size) {id : Code.TypeId}
  (known : id < model.size)

include bounded known

theorem exact_supertypes :
    Exact model.superclass? model.size (some id) (model.supertypes id) := by
  unfold Model.supertypes
  rw [Model.chain_eq_visited]
  exact exact_visited fun _ _ there => exists_after_lt bounded known there

/-- A type is below exactly the types that its links lead to, in circles too. -/
theorem isSubtype_iff_reaches (other : Code.TypeId) :
    model.isSubtype id other = true ↔
      Relation.ReflTransGen (Leads model.superclass?) id other := by
  unfold Model.isSubtype
  rw [List.contains_iff_mem, (exact_supertypes bounded known).complete]
  constructor
  · rintro ⟨first, same, reaches⟩
    exact Option.some.inj same ▸ reaches
  · exact fun reaches => ⟨id, rfl, reaches⟩

end

/-- The ancestors of every class in every hierarchy, and the supertypes of every type where links
stay in range, are listed exactly, and a type is below exactly the types that its links lead to. -/
theorem bounded_walks_exact :
    (∀ (hierarchy : Hierarchy) (id : ClassId),
      Exact hierarchy.superclass hierarchy.size (hierarchy.superclass id)
        (hierarchy.ancestors id)) ∧
    ∀ model : Model, Bounded model.superclass? model.size → ∀ id < model.size,
      Exact model.superclass? model.size (some id) (model.supertypes id) ∧
        ∀ other, model.isSubtype id other = true ↔
          Relation.ReflTransGen (Leads model.superclass?) id other :=
  ⟨exact_ancestors, fun _ bounded _ known =>
    ⟨exact_supertypes bounded known, isSubtype_iff_reaches bounded known⟩⟩

/-- A type that extends one of two that extend each other. -/
def circlingModel : Model where
  types := [
    { header := { name := "Pup" }, qualifiedName := "Pup", superclass := some 1 },
    { header := { name := "Dog" }, qualifiedName := "Dog", superclass := some 2 },
    { header := { name := "Wolf" }, qualifiedName := "Wolf", superclass := some 1 }]

theorem circling_walk_exact :
    Bounded circlingModel.superclass? circlingModel.size ∧ 0 < circlingModel.size ∧
      circlingModel.supertypes 0 = [0, 1, 2] ∧
      (∀ other, other ∈ circlingModel.supertypes 0 ↔
        Meets circlingModel.superclass? (some 0) other) ∧
      ¬ Relation.ReflTransGen (Leads circlingModel.superclass?) 1 0 := by
  have links : ∀ id < 3, ∀ other ∈ circlingModel.superclass? id, other < 3 := by
    decide
  have bounded : Bounded circlingModel.superclass? circlingModel.size := by
    intro id other link
    obtain ⟨declaration, found, -⟩ := Option.bind_eq_some_iff.1 link
    have known := Model.get?_eq_some_lt found
    exact ⟨known, links id known other link⟩
  obtain ⟨walk, -⟩ := bounded_walks_exact.2 circlingModel bounded 0 (by decide)
  obtain ⟨-, below⟩ := bounded_walks_exact.2 circlingModel bounded 1 (by decide)
  exact ⟨bounded, by decide, by decide, walk.complete, fun reaches =>
    absurd ((below 0).2 reaches) (by decide)⟩

end BuilderSynthesis.Walk
