import BuilderSynthesis.Proofs.Walk
import BuilderSynthesis.Schema.Hierarchy
import Mathlib.Data.Prod.Basic

/-!
Contract: hierarchies whose links to superclasses are in range and free of cycles.

On these the bound on the steps of a walk never shows: `mem_ancestors_iff` says that
the list of ancestors is complete.
-/

namespace BuilderSynthesis.Schema.Hierarchy

theorem chain_eq_visited (hierarchy : Hierarchy) (steps : Nat) (start : Option ClassId) :
    hierarchy.chain steps start = Walk.visited hierarchy.superclass steps start := by
  induction steps generalizing start with
  | zero => rfl
  | succ steps inductionHypothesis =>
      cases start with
      | none => rfl
      | some id => rw [chain, Walk.visited, inductionHypothesis]

/-- Every link to a superclass leads to a class. -/
def InRange (hierarchy : Hierarchy) : Prop :=
  ∀ dataClass ∈ hierarchy.classes, ∀ superclass, dataClass.superclass = some superclass →
    superclass < hierarchy.size

/-- A class is a proper ancestor of another. -/
def IsAncestor (hierarchy : Hierarchy) (ancestor id : ClassId) : Prop :=
  Relation.TransGen (Walk.Leads hierarchy.superclass) id ancestor

/-- No class is its own ancestor. -/
def Acyclic (hierarchy : Hierarchy) : Prop :=
  ∀ id, ¬ hierarchy.IsAncestor id id

theorem get?_eq_some_lt {hierarchy : Hierarchy} {id : Nat} {dataClass : DataClass}
    (found : hierarchy.get? id = some dataClass) : id < hierarchy.size :=
  (List.getElem?_eq_some_iff.1 found).1

theorem exists_get? {hierarchy : Hierarchy} {id : Nat} (known : id < hierarchy.size) :
    ∃ dataClass, hierarchy.get? id = some dataClass :=
  ⟨_, List.getElem?_eq_getElem known⟩

theorem mem_entries_iff (hierarchy : Hierarchy) (id : ClassId) (dataClass : DataClass) :
    (id, dataClass) ∈ hierarchy.entries ↔ hierarchy.get? id = some dataClass :=
  calc
    (id, dataClass) ∈ hierarchy.entries
      ↔ Prod.swap (dataClass, id) ∈ hierarchy.classes.zipIdx.map Prod.swap := .rfl
    _ ↔ (dataClass, id) ∈ hierarchy.classes.zipIdx := List.mem_map_of_injective Prod.swap_injective
    _ ↔ hierarchy.get? id = some dataClass := List.mem_zipIdx_iff_getElem?

theorem map_snd_entries (hierarchy : Hierarchy) :
    hierarchy.entries.map Prod.snd = hierarchy.classes := by
  unfold entries
  rw [List.map_map]
  exact List.zipIdx_map_fst 0 hierarchy.classes

theorem map_name_entries (hierarchy : Hierarchy) :
    hierarchy.entries.map (fun entry => entry.2.name) = hierarchy.classes.map DataClass.name := by
  rw [← map_snd_entries, List.map_map]
  rfl

theorem mem_roots_iff (hierarchy : Hierarchy) (id : ClassId) :
    id ∈ hierarchy.roots ↔ id < hierarchy.size ∧ hierarchy.superclass id = none := by
  unfold roots superclass
  simp only [List.mem_map, List.mem_filter, Prod.exists, exists_and_right, exists_eq_right,
    mem_entries_iff, Option.isNone_iff_eq_none]
  constructor
  · rintro ⟨dataClass, found, unlinked⟩
    rw [found, Option.bind_some]
    exact ⟨get?_eq_some_lt found, unlinked⟩
  · rintro ⟨known, unlinked⟩
    obtain ⟨dataClass, found⟩ := exists_get? known
    rw [found, Option.bind_some] at unlinked
    exact ⟨dataClass, found, unlinked⟩

/-- Where names are distinct, a name belongs to one position. -/
theorem eq_of_name {hierarchy : Hierarchy}
    (distinct : (hierarchy.classes.map DataClass.name).Nodup) {left right : Nat}
    {one two : DataClass} (first : hierarchy.get? left = some one)
    (second : hierarchy.get? right = some two) (same : one.name = two.name) : left = right := by
  have named : ∀ {id : Nat} {dataClass : DataClass}, hierarchy.get? id = some dataClass →
      (hierarchy.classes.map DataClass.name)[id]? = some dataClass.name := by
    intro id dataClass known
    rw [List.getElem?_map]
    exact congrArg (Option.map DataClass.name) known
  have here := named first
  exact (List.getElem?_inj (List.getElem?_eq_some_iff.1 here).1 distinct).1
    (here.trans (same ▸ (named second).symm))

theorem bounded_of_inRange {hierarchy : Hierarchy} (inRange : hierarchy.InRange) :
    Walk.Bounded hierarchy.superclass hierarchy.size := by
  intro id superclass link
  obtain ⟨dataClass, found, extended⟩ := Option.bind_eq_some_iff.1 link
  exact ⟨get?_eq_some_lt found,
    inRange dataClass (List.mem_of_getElem? found) superclass extended⟩

/-- No link leads out of the hierarchy. -/
theorem superclass_closed {hierarchy : Hierarchy} (inRange : hierarchy.InRange) (id other : Nat)
    (_ : id < hierarchy.size) (link : hierarchy.superclass id = some other) :
    other < hierarchy.size :=
  (bounded_of_inRange inRange id other link).2

theorem ancestors_eq_path (hierarchy : Hierarchy) (id : ClassId) :
    hierarchy.ancestors id = Walk.path hierarchy.superclass hierarchy.size id :=
  chain_eq_visited hierarchy hierarchy.size (hierarchy.superclass id)

/-- No class is listed twice. -/
theorem nodup_cons_ancestors {hierarchy : Hierarchy} (acyclic : hierarchy.Acyclic) (id : ClassId) :
    (id :: hierarchy.ancestors id).Nodup := by
  rw [ancestors_eq_path]
  exact Walk.nodup_cons_path acyclic hierarchy.size id

/-- A hierarchy in which every class comes after its superclass. -/
theorem acyclic_of_descending {hierarchy : Hierarchy}
    (descending : ∀ id superclass : Nat, hierarchy.superclass id = some superclass →
      superclass < id) :
    hierarchy.Acyclic :=
  Walk.acyclic_of_descending descending

section

variable {hierarchy : Hierarchy} (acyclic : hierarchy.Acyclic) (inRange : hierarchy.InRange)

include acyclic inRange

/-- The ancestors that are listed are the ancestors. -/
theorem mem_ancestors_iff (id other : ClassId) :
    other ∈ hierarchy.ancestors id ↔ hierarchy.IsAncestor other id := by
  rw [ancestors_eq_path]
  exact Walk.mem_path_iff acyclic (bounded_of_inRange inRange) id other

theorem ancestors_lt {id other : Nat} (member : other ∈ hierarchy.ancestors id) :
    other < hierarchy.size :=
  Walk.lt_of_reaches (bounded_of_inRange inRange)
    ((mem_ancestors_iff acyclic inRange id other).1 member)

end

end BuilderSynthesis.Schema.Hierarchy
