import BuilderSynthesis.Proofs.Rooted
import Mathlib.Data.List.Range

/-!
Contract: the classes of a hierarchy in the order in which they are reached from above.

A walk down meets a class, then everything below its first subclass, then everything below the
next. A class has one superclass, so the walk from a root never enters a cycle and never meets a
class twice.

Owns: `descent`, `IsPreorder`, and `isPreorder_flatMap_descent`.

Does not own: what is written for a class.
-/

namespace BuilderSynthesis.Schema.Hierarchy

open Relation (ReflTransGen TransGen)

/-- A class and the classes below it, down to a number of levels. -/
def descent (hierarchy : Hierarchy) : Nat → ClassId → List ClassId
  | 0, _ => []
  | levels + 1, id =>
      match hierarchy.get? id with
      | none => []
      | some _ => id :: (hierarchy.subclasses id).flatMap (hierarchy.descent levels)

/-- A class stands after its superclass, with only classes below the superclass in between. -/
def Follows (hierarchy : Hierarchy) (order : List ClassId) (above id : ClassId) : Prop :=
  ∃ before between after, order = before ++ above :: between ++ id :: after ∧
    ∀ other ∈ between, hierarchy.IsAncestor above other

/-- The rooted classes, each once, below their superclasses; roots and siblings stand in the order
of their declaration. -/
structure IsPreorder (hierarchy : Hierarchy) (order : List ClassId) : Prop where
  once : order.Nodup
  mem_iff : ∀ id, id ∈ order ↔ hierarchy.Rooted id
  follows : ∀ id ∈ order, ∀ above, hierarchy.superclass id = some above →
    hierarchy.Follows order above id
  declared : order.Pairwise fun first second =>
    hierarchy.superclass first = hierarchy.superclass second → first < second

variable {hierarchy : Hierarchy}

/-! ### Subclasses -/

theorem mem_subclasses_iff {id above : ClassId} :
    id ∈ hierarchy.subclasses above ↔ hierarchy.superclass id = some above := by
  unfold subclasses superclass
  simp only [List.mem_map, List.mem_filter, Prod.exists, exists_and_right, exists_eq_right,
    mem_entries_iff, beq_iff_eq, Option.bind_eq_some_iff]

theorem pairwise_lt_filter_entries (test : ClassId × DataClass → Bool) :
    ((hierarchy.entries.filter test).map Prod.fst).Pairwise (· < ·) := by
  have positions : hierarchy.entries.map Prod.fst = List.range' 0 hierarchy.classes.length := by
    rw [entries, List.map_map]
    exact List.zipIdx_map_snd 0 hierarchy.classes
  have sorted : (hierarchy.entries.map Prod.fst).Pairwise (· < ·) := by
    rw [positions]
    exact List.pairwise_lt_range'
  exact sorted.sublist (List.filter_sublist.map Prod.fst)

/-- A subclass of a rooted class is rooted, and one deeper. -/
theorem Rooted.of_mem_subclasses {id child : ClassId} (rooted : hierarchy.Rooted id)
    (member : child ∈ hierarchy.subclasses id) :
    hierarchy.Rooted child ∧ hierarchy.depth child = hierarchy.depth id + 1 := by
  have link := mem_subclasses_iff.1 member
  have childRooted := (rooted_iff_of_superclass link).2 rooted
  exact ⟨childRooted, childRooted.depth_eq link⟩

/-- The roots are equally deep. -/
theorem leveled_roots (hierarchy : Hierarchy) :
    ∀ id ∈ hierarchy.roots, hierarchy.Rooted id ∧ hierarchy.depth id = 0 :=
  fun _ member => ⟨rooted_of_mem_roots member, depth_of_mem_roots member⟩

theorem pairwise_roots (hierarchy : Hierarchy) : hierarchy.roots.Pairwise (· < ·) :=
  pairwise_lt_filter_entries _

theorem pairwise_subclasses (id : ClassId) : (hierarchy.subclasses id).Pairwise (· < ·) :=
  pairwise_lt_filter_entries _

/-! ### Classes of a walk down -/

theorem descent_succ {id : Nat} (known : id < hierarchy.size) (levels : Nat) :
    hierarchy.descent (levels + 1) id =
      id :: (hierarchy.subclasses id).flatMap (hierarchy.descent levels) := by
  obtain ⟨dataClass, found⟩ := exists_get? known
  rw [descent, found]

theorem Rooted.depth_le_of_reaches {id other : ClassId} (rooted : hierarchy.Rooted id)
    (reaches : ReflTransGen (Walk.Leads hierarchy.superclass) id other) :
    hierarchy.depth other ≤ hierarchy.depth id := by
  rcases Relation.reflTransGen_iff_eq_or_transGen.1 reaches with same | ancestor
  · rw [same]
  · exact (rooted.depth_lt_of_isAncestor ancestor).le

theorem rooted_of_reaches {id other : ClassId} (rooted : hierarchy.Rooted id)
    (reaches : ReflTransGen (Walk.Leads hierarchy.superclass) other id) :
    hierarchy.Rooted other :=
  (rooted_iff_of_reaches reaches).2 rooted

/-- A walk down from a rooted class meets the classes that lead to it. -/
theorem mem_descent_iff {id other : ClassId} {levels : Nat} (rooted : hierarchy.Rooted id) :
    other ∈ hierarchy.descent levels id ↔
      ReflTransGen (Walk.Leads hierarchy.superclass) other id ∧
        hierarchy.depth other < hierarchy.depth id + levels := by
  induction levels generalizing id with
  | zero =>
      simp only [descent, List.not_mem_nil, false_iff, not_and, Nat.not_lt]
      exact fun reaches => (rooted_of_reaches rooted reaches).depth_le_of_reaches reaches
  | succ levels inductionHypothesis =>
      rw [descent_succ rooted.lt, List.mem_cons, List.mem_flatMap]
      constructor
      · rintro (rfl | ⟨child, link, below⟩)
        · exact ⟨.refl, by omega⟩
        · obtain ⟨childRooted, deeper⟩ := rooted.of_mem_subclasses link
          obtain ⟨reaches, shallow⟩ := (inductionHypothesis childRooted).1 below
          exact ⟨reaches.tail (mem_subclasses_iff.1 link), by omega⟩
      · rintro ⟨reaches, shallow⟩
        rcases ReflTransGen.cases_tail reaches with same | ⟨child, before, link⟩
        · exact .inl same.symm
        · have member := mem_subclasses_iff.2 link
          obtain ⟨childRooted, deeper⟩ := rooted.of_mem_subclasses member
          exact .inr ⟨child, member, (inductionHypothesis childRooted).2 ⟨before, by omega⟩⟩

theorem reaches_of_mem_descent {id other : ClassId} {levels : Nat} (rooted : hierarchy.Rooted id)
    (member : other ∈ hierarchy.descent levels id) :
    ReflTransGen (Walk.Leads hierarchy.superclass) other id :=
  ((mem_descent_iff rooted).1 member).1

/-! ### The order of a walk down -/

/-- Two classes differ, and if they are siblings the first is declared first. -/
def Apart (hierarchy : Hierarchy) (first second : ClassId) : Prop :=
  first ≠ second ∧ (hierarchy.superclass first = hierarchy.superclass second → first < second)

/-- Rooted classes that are siblings are equally deep. -/
theorem Rooted.depth_eq_of_superclass {first second : ClassId} (rooted : hierarchy.Rooted first)
    (other : hierarchy.Rooted second)
    (siblings : hierarchy.superclass first = hierarchy.superclass second) :
    hierarchy.depth first = hierarchy.depth second := by
  cases link : hierarchy.superclass first with
  | none =>
      rw [depth_of_mem_roots ((mem_roots_iff hierarchy first).2 ⟨rooted.lt, link⟩),
        depth_of_mem_roots ((mem_roots_iff hierarchy second).2 ⟨other.lt, siblings ▸ link⟩)]
  | some above => rw [rooted.depth_eq link, other.depth_eq (siblings ▸ link)]

/-- What is below a class stands apart from what is below a later one that is as deep. -/
theorem apart_of_reaches {left right first second : ClassId} (rooted : hierarchy.Rooted left)
    (other : hierarchy.Rooted right) (level : hierarchy.depth left = hierarchy.depth right)
    (earlier : left < right)
    (firstReaches : ReflTransGen (Walk.Leads hierarchy.superclass) first left)
    (secondReaches : ReflTransGen (Walk.Leads hierarchy.superclass) second right) :
    hierarchy.Apart first second := by
  have firstRooted := rooted_of_reaches rooted firstReaches
  have secondRooted := rooted_of_reaches other secondReaches
  -- No class is below both.
  have disjoint : ∀ {id : Nat}, ReflTransGen (Walk.Leads hierarchy.superclass) id left →
      ¬ ReflTransGen (Walk.Leads hierarchy.superclass) id right := fun toLeft toRight =>
    Nat.ne_of_lt earlier
      ((rooted_of_reaches rooted toLeft).eq_of_depth toLeft toRight level)
  refine ⟨fun same => disjoint firstReaches (same ▸ secondReaches), fun siblings => ?_⟩
  have sameDepth := firstRooted.depth_eq_of_superclass secondRooted siblings
  rcases ReflTransGen.cases_head firstReaches with rfl | ⟨above, link, toLeft⟩
  · have same := secondRooted.eq_of_depth .refl secondReaches (sameDepth.symm.trans level)
    exact same ▸ earlier
  · rcases ReflTransGen.cases_head secondReaches with rfl | ⟨next, nextLink, toRight⟩
    · have same := firstRooted.eq_of_depth .refl firstReaches (sameDepth.trans level.symm)
      exact same ▸ earlier
    · -- Siblings below both would have their superclass below both.
      rw [Walk.Leads, ← siblings, link, Option.some.injEq] at nextLink
      exact absurd (nextLink ▸ toRight) (disjoint toLeft)

/-- Walks down from classes that are equally deep and stand in the order of their declaration. -/
theorem pairwise_flatMap_descent {ids : List ClassId} {level : Nat} (levels : Nat)
    (sorted : ids.Pairwise (· < ·))
    (leveled : ∀ id ∈ ids, hierarchy.Rooted id ∧ hierarchy.depth id = level) :
    (ids.flatMap (hierarchy.descent levels)).Pairwise hierarchy.Apart := by
  induction levels generalizing ids level with
  | zero =>
      have nothing : ids.flatMap (hierarchy.descent 0) = [] :=
        List.flatMap_eq_nil_iff.2 fun _ _ => rfl
      rw [nothing]
      exact List.Pairwise.nil
  | succ levels inductionHypothesis =>
      rw [List.pairwise_flatMap]
      constructor
      · intro id member
        obtain ⟨rooted, -⟩ := leveled id member
        rw [descent_succ rooted.lt, List.pairwise_cons]
        constructor
        · intro other below
          obtain ⟨child, link, under⟩ := List.mem_flatMap.1 below
          obtain ⟨childRooted, -⟩ := rooted.of_mem_subclasses link
          have reaches := reaches_of_mem_descent childRooted under
          have otherRooted := rooted_of_reaches childRooted reaches
          have deeper := otherRooted.depth_lt_of_isAncestor
            (TransGen.tail' reaches (mem_subclasses_iff.1 link))
          constructor
          · rintro rfl
            omega
          · intro siblings
            have same := rooted.depth_eq_of_superclass otherRooted siblings
            omega
        · exact inductionHypothesis (pairwise_subclasses id) fun child link =>
            rooted.of_mem_subclasses link
      · refine sorted.imp_of_mem fun {left right} leftMember rightMember earlier => ?_
        intro first inLeft second inRight
        obtain ⟨leftRooted, leftLevel⟩ := leveled left leftMember
        obtain ⟨rightRooted, rightLevel⟩ := leveled right rightMember
        exact apart_of_reaches leftRooted rightRooted (leftLevel.trans rightLevel.symm) earlier
          (reaches_of_mem_descent leftRooted inLeft) (reaches_of_mem_descent rightRooted inRight)

/-! ### Superclasses come right before what is below them -/

theorem Follows.within {order : List ClassId} {above id : ClassId}
    (follows : hierarchy.Follows order above id) (left right : List ClassId) :
    hierarchy.Follows (left ++ order ++ right) above id := by
  obtain ⟨before, between, after, rfl, under⟩ := follows
  exact ⟨left ++ before, between, after ++ right, by simp only [List.append_assoc,
    List.cons_append], under⟩

/-- What follows in the walk from one class of a list follows in the walks from all of them. -/
theorem Follows.flatMap {ids : List ClassId} {child above id : ClassId} {levels : Nat}
    (member : child ∈ ids) (follows : hierarchy.Follows (hierarchy.descent levels child) above id) :
    hierarchy.Follows (ids.flatMap (hierarchy.descent levels)) above id := by
  obtain ⟨before, after, rfl⟩ := List.append_of_mem member
  rw [List.flatMap_append, List.flatMap_cons, ← List.append_assoc]
  exact follows.within _ _

theorem follows_descent {top id above : ClassId} {levels : Nat} (rooted : hierarchy.Rooted top)
    (member : id ∈ hierarchy.descent levels top) (proper : id ≠ top)
    (link : hierarchy.superclass id = some above) :
    hierarchy.Follows (hierarchy.descent levels top) above id := by
  induction levels generalizing top with
  | zero => cases member
  | succ levels inductionHypothesis =>
      rw [descent_succ rooted.lt, List.mem_cons, List.mem_flatMap] at member
      rw [descent_succ rooted.lt]
      obtain same | ⟨child, childLink, inside⟩ := member
      · exact absurd same proper
      · obtain ⟨childRooted, -⟩ := rooted.of_mem_subclasses childLink
        by_cases same : id = child
        · -- Between a class and a subclass stands what is below earlier subclasses.
          subst same
          obtain rfl := Option.some.inj (link.symm.trans (mem_subclasses_iff.1 childLink))
          obtain ⟨earlier, later, split⟩ := List.append_of_mem childLink
          cases levels with
          | zero => cases inside
          | succ levels =>
              rw [split, List.flatMap_append, List.flatMap_cons, descent_succ childRooted.lt]
              refine ⟨[], earlier.flatMap (hierarchy.descent (levels + 1)), _, rfl, ?_⟩
              intro other below
              obtain ⟨sibling, there, under⟩ := List.mem_flatMap.1 below
              have siblingLink : sibling ∈ hierarchy.subclasses above := by
                rw [split]
                exact List.mem_append_left _ there
              obtain ⟨siblingRooted, -⟩ := rooted.of_mem_subclasses siblingLink
              exact TransGen.tail' (reaches_of_mem_descent siblingRooted under)
                (mem_subclasses_iff.1 siblingLink)
        · have follows := (inductionHypothesis childRooted inside same).flatMap childLink
          simpa using follows.within [top] []

/-! ### All rooted classes -/

/-- The walks down from all roots meet the rooted classes, each once and in order. -/
theorem isPreorder_flatMap_descent (hierarchy : Hierarchy) :
    hierarchy.IsPreorder (hierarchy.roots.flatMap (hierarchy.descent hierarchy.size)) := by
  have apart := pairwise_flatMap_descent hierarchy.size hierarchy.pairwise_roots
    hierarchy.leveled_roots
  constructor
  · exact apart.imp And.left
  · intro id
    rw [List.mem_flatMap]
    constructor
    · rintro ⟨root, member, below⟩
      exact ⟨root, member, reaches_of_mem_descent (rooted_of_mem_roots member) below⟩
    · intro rooted
      have shallow := rooted.depth_lt
      obtain ⟨root, member, reaches⟩ := rooted
      exact ⟨root, member, (mem_descent_iff (rooted_of_mem_roots member)).2
        ⟨reaches, by omega⟩⟩
  · intro id inside above link
    obtain ⟨root, member, below⟩ := List.mem_flatMap.1 inside
    have proper : id ≠ root := by
      rintro rfl
      rw [((mem_roots_iff hierarchy id).1 member).2] at link
      cases link
    exact (follows_descent (rooted_of_mem_roots member) below proper link).flatMap member
  · exact apart.imp And.right

end BuilderSynthesis.Schema.Hierarchy
