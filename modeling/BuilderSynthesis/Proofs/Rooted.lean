import BuilderSynthesis.Proofs.Faithfulness

/-!
Contract: classes whose links to superclasses end, in hierarchies that may have other classes.

A link may lead to no class, and classes may lead back to themselves. A class is rooted if the
links from it end at a class without a superclass; then all classes on the way are rooted, and none
of them is met twice. So among rooted classes alone links are in range and free of cycles, and what
is known of such links holds here too.

Owns: `Rooted`, `depth`, and `Rooted.listsAncestors`.
-/

namespace BuilderSynthesis.Schema.Hierarchy

open Relation (ReflTransGen TransGen)

/-- The links from a class end at a class without a superclass. -/
def Rooted (hierarchy : Hierarchy) (id : ClassId) : Prop :=
  ∃ root ∈ hierarchy.roots, ReflTransGen (Walk.Leads hierarchy.superclass) id root

/-- The number of proper ancestors of a class. -/
def depth (hierarchy : Hierarchy) (id : ClassId) : Nat :=
  (hierarchy.ancestors id).length

variable {hierarchy : Hierarchy}

theorem rooted_of_mem_roots {id : ClassId} (member : id ∈ hierarchy.roots) : hierarchy.Rooted id :=
  ⟨id, member, .refl⟩

theorem lt_of_superclass {id above : Nat} (link : hierarchy.superclass id = some above) :
    id < hierarchy.size := by
  obtain ⟨dataClass, found, -⟩ := Option.bind_eq_some_iff.1 link
  exact get?_eq_some_lt found

theorem Rooted.lt {id : Nat} (rooted : hierarchy.Rooted id) : id < hierarchy.size := by
  obtain ⟨root, member, reaches⟩ := rooted
  rcases ReflTransGen.cases_head reaches with rfl | ⟨above, link, -⟩
  · exact ((mem_roots_iff hierarchy id).1 member).1
  · exact lt_of_superclass link

/-- A class is rooted exactly if its superclass is. -/
theorem rooted_iff_of_superclass {id above : ClassId}
    (link : hierarchy.superclass id = some above) :
    hierarchy.Rooted id ↔ hierarchy.Rooted above := by
  constructor
  · rintro ⟨root, member, reaches⟩
    rcases ReflTransGen.cases_head reaches with rfl | ⟨next, first, rest⟩
    · rw [((mem_roots_iff hierarchy id).1 member).2] at link
      cases link
    · rw [Walk.Leads, link, Option.some.injEq] at first
      subst first
      exact ⟨root, member, rest⟩
  · rintro ⟨root, member, reaches⟩
    exact ⟨root, member, .head link reaches⟩

theorem rooted_iff_of_reaches {id other : ClassId}
    (reaches : ReflTransGen (Walk.Leads hierarchy.superclass) id other) :
    hierarchy.Rooted id ↔ hierarchy.Rooted other := by
  induction reaches with
  | refl => rfl
  | tail _ link inductionHypothesis =>
      exact inductionHypothesis.trans (rooted_iff_of_superclass link)

/-- A rooted class is not its own ancestor. -/
theorem Rooted.not_isAncestor_self {id : ClassId} (rooted : hierarchy.Rooted id) :
    ¬ hierarchy.IsAncestor id id := by
  obtain ⟨root, member, reaches⟩ := rooted
  induction reaches using ReflTransGen.head_induction_on with
  | refl =>
      intro loop
      obtain ⟨next, link, -⟩ := TransGen.head'_iff.1 loop
      rw [Walk.Leads, ((mem_roots_iff hierarchy root).1 member).2] at link
      cases link
  | head link _ inductionHypothesis =>
      -- A cycle through a class is one through its superclass.
      intro loop
      obtain ⟨next, first, rest⟩ := TransGen.head'_iff.1 loop
      rw [Walk.Leads, link, Option.some.injEq] at first
      subst first
      exact inductionHypothesis (TransGen.tail' rest link)

/-! ### Links of rooted classes -/

open Classical in
/-- The link of a class to its superclass, if the class is rooted. -/
noncomputable def rootedLink (hierarchy : Hierarchy) (id : ClassId) : Option ClassId :=
  if hierarchy.Rooted id then hierarchy.superclass id else none

theorem rootedLink_of_rooted {id : ClassId} (rooted : hierarchy.Rooted id) :
    hierarchy.rootedLink id = hierarchy.superclass id :=
  if_pos rooted

theorem of_rootedLink {id above : ClassId} (link : hierarchy.rootedLink id = some above) :
    hierarchy.Rooted id ∧ hierarchy.superclass id = some above := by
  unfold rootedLink at link
  split at link
  · rename_i rooted
    exact ⟨rooted, link⟩
  · cases link

theorem transGen_rootedLink_iff {id other : ClassId} (rooted : hierarchy.Rooted id) :
    TransGen (Walk.Leads hierarchy.rootedLink) id other ↔ hierarchy.IsAncestor other id := by
  constructor
  · exact TransGen.mono (fun _ _ link => (of_rootedLink link).2) id other
  · intro ancestor
    induction ancestor with
    | single link => exact .single ((rootedLink_of_rooted rooted).trans link)
    | @tail middle _ before link inductionHypothesis =>
        have middleRooted := (rooted_iff_of_reaches before.to_reflTransGen).1 rooted
        exact .tail inductionHypothesis ((rootedLink_of_rooted middleRooted).trans link)

theorem acyclic_rootedLink (hierarchy : Hierarchy) : Walk.Acyclic hierarchy.rootedLink := by
  intro id loop
  obtain ⟨next, link, -⟩ := TransGen.head'_iff.1 loop
  have rooted := (of_rootedLink link).1
  exact rooted.not_isAncestor_self ((transGen_rootedLink_iff rooted).1 loop)

theorem bounded_rootedLink (hierarchy : Hierarchy) :
    Walk.Bounded hierarchy.rootedLink hierarchy.size := by
  intro id above link
  obtain ⟨rooted, superclass⟩ := of_rootedLink link
  exact ⟨rooted.lt, ((rooted_iff_of_superclass superclass).1 rooted).lt⟩

theorem Rooted.visited_eq {id : ClassId} (rooted : hierarchy.Rooted id) (steps : Nat) :
    Walk.visited hierarchy.superclass steps (some id) =
      Walk.visited hierarchy.rootedLink steps (some id) := by
  induction steps generalizing id with
  | zero => rfl
  | succ steps inductionHypothesis =>
      rw [Walk.visited, Walk.visited, rootedLink_of_rooted rooted]
      cases link : hierarchy.superclass id with
      | none => rw [Walk.visited_none, Walk.visited_none]
      | some above => rw [inductionHypothesis ((rooted_iff_of_superclass link).1 rooted)]

theorem Rooted.ancestors_eq_path {id : ClassId} (rooted : hierarchy.Rooted id) :
    hierarchy.ancestors id = Walk.path hierarchy.rootedLink hierarchy.size id := by
  rw [hierarchy.ancestors_eq_path, Walk.path, Walk.path, rootedLink_of_rooted rooted]
  cases link : hierarchy.superclass id with
  | none => rw [Walk.visited_none, Walk.visited_none]
  | some above => exact ((rooted_iff_of_superclass link).1 rooted).visited_eq hierarchy.size

/-! ### Ancestors of rooted classes -/

/-- All ancestors of a rooted class are listed, whatever other classes there are. -/
theorem Rooted.listsAncestors {id : ClassId} (rooted : hierarchy.Rooted id) :
    hierarchy.ListsAncestors id := by
  have acyclic := hierarchy.acyclic_rootedLink
  have bounded := hierarchy.bounded_rootedLink
  constructor
  · rw [rooted.ancestors_eq_path]
    exact Walk.nodup_cons_path acyclic hierarchy.size id
  · intro other
    rw [rooted.ancestors_eq_path, Walk.mem_path_iff acyclic bounded,
      transGen_rootedLink_iff rooted]
  · rw [rooted.ancestors_eq_path]
    exact (Walk.isChain_cons_path acyclic bounded id).imp fun _ _ link => (of_rootedLink link).2
  · intro known
    rw [rooted.ancestors_eq_path]
    obtain ⟨last, there, ends⟩ := Walk.exists_last_cons_path acyclic bounded id
    have lastRooted : hierarchy.Rooted last := by
      rcases List.mem_cons.1 (List.mem_of_getLast? there) with rfl | above
      · exact rooted
      · have ancestor := (transGen_rootedLink_iff rooted).1 (Walk.reaches_of_mem_visited above)
        exact (rooted_iff_of_reaches ancestor.to_reflTransGen).1 rooted
    rw [rootedLink_of_rooted lastRooted] at ends
    exact ⟨last, (mem_roots_iff hierarchy last).2 ⟨lastRooted.lt, ends⟩, there⟩

theorem depth_of_mem_roots {id : ClassId} (member : id ∈ hierarchy.roots) :
    hierarchy.depth id = 0 := by
  rw [depth, ancestors, ((mem_roots_iff hierarchy id).1 member).2, chain_eq_visited,
    Walk.visited_none, List.length_nil]

/-- A rooted class is one deeper than its superclass. -/
theorem Rooted.depth_eq {id above : ClassId} (rooted : hierarchy.Rooted id)
    (link : hierarchy.superclass id = some above) :
    hierarchy.depth id = hierarchy.depth above + 1 := by
  have aboveRooted := (rooted_iff_of_superclass link).1 rooted
  unfold depth
  rw [rooted.ancestors_eq_path, aboveRooted.ancestors_eq_path,
    Walk.path_eq hierarchy.acyclic_rootedLink hierarchy.bounded_rootedLink,
    rootedLink_of_rooted rooted, link, List.length_cons]

/-- No rooted class is as deep as there are classes. -/
theorem Rooted.depth_lt {id : ClassId} (rooted : hierarchy.Rooted id) :
    hierarchy.depth id < hierarchy.size := by
  unfold depth
  rw [rooted.ancestors_eq_path]
  exact Walk.length_path_lt hierarchy.acyclic_rootedLink hierarchy.bounded_rootedLink rooted.lt

theorem Rooted.depth_lt_of_isAncestor {id other : ClassId} (rooted : hierarchy.Rooted id)
    (ancestor : hierarchy.IsAncestor other id) : hierarchy.depth other < hierarchy.depth id := by
  induction ancestor with
  | single link =>
      have deeper := rooted.depth_eq link
      omega
  | @tail middle _ before link inductionHypothesis =>
      have middleRooted := (rooted_iff_of_reaches before.to_reflTransGen).1 rooted
      have deeper := middleRooted.depth_eq link
      omega

/-- Of the classes that a rooted class leads to, one has a depth. -/
theorem Rooted.eq_of_depth {id left right : ClassId} (rooted : hierarchy.Rooted id)
    (first : ReflTransGen (Walk.Leads hierarchy.superclass) id left)
    (second : ReflTransGen (Walk.Leads hierarchy.superclass) id right)
    (level : hierarchy.depth left = hierarchy.depth right) : left = right := by
  have functional : Relator.RightUnique (Walk.Leads hierarchy.superclass) :=
    fun _ _ _ one two => Option.some.inj (one.symm.trans two)
  have leftRooted := (rooted_iff_of_reaches first).1 rooted
  have rightRooted := (rooted_iff_of_reaches second).1 rooted
  rcases ReflTransGen.total_of_right_unique functional first second with up | up
  · rcases Relation.reflTransGen_iff_eq_or_transGen.1 up with same | ancestor
    · exact same.symm
    · have deeper := leftRooted.depth_lt_of_isAncestor ancestor
      omega
  · rcases Relation.reflTransGen_iff_eq_or_transGen.1 up with same | ancestor
    · exact same
    · have deeper := rightRooted.depth_lt_of_isAncestor ancestor
      omega

end BuilderSynthesis.Schema.Hierarchy
