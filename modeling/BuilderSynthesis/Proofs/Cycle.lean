import BuilderSynthesis.Proofs.Validated
import Mathlib.Data.List.Chain

/-!
Contract: which cycle of superclasses is reported.

The check walks up from one class after another. A walk that comes back to the class it started
from has met a cycle and reports it; one that comes back to any other class of its chain reports
nothing, because that cycle does not go through its start. So the first report is about the first
class that is its own ancestor, and it lists the classes of its cycle once around.

Owns: `Climbs`, what a walk knows of the classes that it has met, and `IsCycle`, what it reports.
-/

namespace BuilderSynthesis.Manifest

/-- The walks that look for cycles, each without an outcome if it runs out of steps. -/
def attemptCycles (manifest : Manifest) (steps : Nat) : ExceptT Problem Option Unit :=
  manifest.classes.forM (fun entry =>
    ExceptT.mk (manifest.attemptChain entry steps [manifest.qualifiedName entry] entry))

/-- Classes of which each names the next one as its superclass, and the last one the first; no two
have one name. -/
structure IsCycle (manifest : Manifest) (start : ClassEntry) (others : List ClassEntry) : Prop where
  linked : (start :: (others ++ [start])).IsChain manifest.IsChild
  once : ((start :: others).map manifest.qualifiedName).Nodup

/-- A walk up from a class that has met some other classes and is at the last of them. -/
structure Climbs (manifest : Manifest) (start : ClassEntry) (others : List ClassEntry)
    (current : ClassEntry) : Prop where
  linked : (start :: others).IsChain manifest.IsChild
  once : ((start :: others).map manifest.qualifiedName).Nodup
  last : (start :: others).getLast? = some current

variable {manifest : Manifest} {start current parent : ClassEntry} {others : List ClassEntry}

theorem climbs_start (manifest : Manifest) (start : ClassEntry) :
    manifest.Climbs start [] start :=
  ⟨.singleton start, List.nodup_singleton _, rfl⟩

section

variable (climbs : manifest.Climbs start others current)

include climbs

/-- A walk that goes on to a class stays a chain. -/
theorem Climbs.linked_append (link : manifest.IsChild current parent) :
    (start :: (others ++ [parent])).IsChain manifest.IsChild := by
  rw [← List.cons_append]
  refine climbs.linked.append (.singleton parent) fun last isLast first isFirst => ?_
  rw [climbs.last, Option.mem_some_iff] at isLast
  rw [List.head?_cons, Option.mem_some_iff] at isFirst
  exact isLast ▸ isFirst ▸ link

theorem Climbs.up (link : manifest.IsChild current parent)
    (new : manifest.qualifiedName parent ∉ (start :: others).map manifest.qualifiedName) :
    manifest.Climbs start (others ++ [parent]) parent where
  linked := climbs.linked_append link
  once := by
    rw [← List.cons_append, List.map_append, List.map_singleton]
    exact climbs.once.append (List.nodup_singleton _) (List.disjoint_singleton.2 new)
  last := by rw [← List.cons_append, List.getLast?_concat]

theorem Climbs.isCycle (link : manifest.IsChild current start) : manifest.IsCycle start others :=
  ⟨climbs.linked_append link, climbs.once⟩

end

/-- The first class of a cycle is its own ancestor. -/
theorem IsCycle.ancestor (cycle : manifest.IsCycle start others) :
    Relation.TransGen manifest.IsChild start start := by
  have linked := cycle.linked
  cases others with
  | nil => exact .single (List.isChain_pair.1 linked)
  | cons next rest =>
      rw [List.cons_append, List.isChain_cons_cons] at linked
      refine .head' linked.1 (List.relationReflTransGen_of_exists_isChain_cons _ linked.2 ?_)
      rw [List.getLast_cons (List.concat_ne_nil start rest), List.getLast_append_singleton]

section

variable (distinct : (manifest.classes.map manifest.qualifiedName).Nodup)

include distinct

/-- What a walk reports is a cycle from its start through all that it has met, and the place where
the last of these names the start as its superclass. -/
theorem isCycle_of_checkChain {steps : Nat} {problem : Problem} (started : start ∈ manifest.classes)
    (member : current ∈ manifest.classes) (climbs : manifest.Climbs start others current)
    (reported : manifest.checkChain start steps ((start :: others).map manifest.qualifiedName)
      current = .error problem) :
    ∃ met last extended, manifest.IsCycle start met ∧ (start :: met).getLast? = some last ∧
      last.superclass = some extended ∧
      problem = .inheritanceCycle start.name.text
        ((start :: met ++ [start]).map manifest.qualifiedName) extended.span := by
  induction steps generalizing others current with
  | zero => cases reported
  | succ steps inductionHypothesis =>
      unfold checkChain at reported
      cases written : current.superclass with
      | none => simp [written] at reported
      | some extended =>
          cases found : manifest.findClass? extended.text with
          | none => simp [written, found] at reported
          | some parent =>
              obtain ⟨inside, named⟩ := findClass?_eq_some found
              have link : manifest.IsChild current parent :=
                ⟨member, inside, extended, written, named⟩
              simp only [written, found] at reported
              split at reported
              · rename_i back
                obtain rfl := List.inj_on_of_nodup_map distinct inside started back
                refine ⟨others, current, extended, climbs.isCycle link, climbs.last, written, ?_⟩
                rw [List.map_append]
                exact (Except.error.inj reported).symm
              · split at reported
                · cases reported
                · rename_i new
                  rw [List.contains_iff_mem] at new
                  refine inductionHypothesis inside (climbs.up link new) ?_
                  rwa [← List.cons_append, List.map_append]

/-- The walk up from a class reports nothing exactly if the class is not its own ancestor. -/
theorem checkChain_eq_ok_iff (member : start ∈ manifest.classes) :
    manifest.checkChain start manifest.classes.length [manifest.qualifiedName start] start =
        .ok () ↔
      ¬ Relation.TransGen manifest.IsChild start start := by
  constructor
  · intro accepted loop
    refine not_reaches_of_checkChain distinct member accepted (List.nodup_singleton _) ?_
      (Nat.add_comm _ _) ?_ (transGen_extends distinct loop)
    · exact List.cons_subset.2 ⟨List.mem_map_of_mem member, List.nil_subset _⟩
    · exact fun name single different => absurd (List.mem_singleton.1 single) different
  · exact fun acyclic => checkChain_of_acyclic distinct acyclic member .refl

end

/-- The walks end on every manifest, with as many steps as there are classes. -/
theorem attemptCycles_eq (manifest : Manifest) {steps : Nat}
    (enough : manifest.classes.length ≤ steps) :
    (manifest.attemptCycles steps).run = some manifest.checkCycles := by
  refine run_forM_eq fun entry member => attemptChain_eq (List.nodup_singleton _) ?_ ?_ ?_
  · exact List.cons_subset.2 ⟨List.mem_map_of_mem member, List.nil_subset _⟩
  · rw [List.length_singleton]
    omega
  · rw [List.length_singleton]
    omega

/-- The walks end; they report nothing exactly if no class is its own ancestor; and what they
report is the cycle of the first class that is. -/
theorem first_cycle_reported {manifest : Manifest}
    (distinct : (manifest.classes.map manifest.qualifiedName).Nodup) :
    (∀ more, (manifest.attemptCycles (manifest.classes.length + more)).run =
      some manifest.checkCycles) ∧
    (manifest.checkCycles = .ok () ↔
      ∀ entry ∈ manifest.classes, ¬ Relation.TransGen manifest.IsChild entry entry) ∧
    ∀ problem, manifest.checkCycles = .error problem →
      ∃ before start after others last extended, manifest.classes = before ++ start :: after ∧
        (∀ entry ∈ before, ¬ Relation.TransGen manifest.IsChild entry entry) ∧
        Relation.TransGen manifest.IsChild start start ∧
        manifest.IsCycle start others ∧ (start :: others).getLast? = some last ∧
        last.superclass = some extended ∧
        problem = .inheritanceCycle start.name.text
          ((start :: others ++ [start]).map manifest.qualifiedName) extended.span := by
  refine ⟨fun more => attemptCycles_eq manifest (Nat.le_add_right _ more),
    checkCycles_eq_ok_iff distinct, fun problem reported => ?_⟩
  obtain ⟨before, start, after, split, passed, here⟩ := Outcome.exists_of_forM_eq_error reported
  have member : start ∈ manifest.classes := by
    rw [split]
    exact List.mem_append_right before List.mem_cons_self
  obtain ⟨others, last, extended, cycle, isLast, written, same⟩ :=
    isCycle_of_checkChain distinct member member (climbs_start manifest start) here
  refine ⟨before, start, after, others, last, extended, split, fun entry earlier => ?_,
    cycle.ancestor, cycle, isLast, written, same⟩
  have known : entry ∈ manifest.classes := by
    rw [split]
    exact List.mem_append_left _ earlier
  exact (checkChain_eq_ok_iff distinct known).1 (passed entry earlier)

/-- A class below two that extend each other, under simple and under qualified names. -/
def tangledManifest : Manifest where
  settings := { package := some "zoo" }
  classes := [
    { name := ⟨"Pup", ⟨0, 5⟩⟩, superclass := some ⟨"zoo.Dog", ⟨10, 19⟩⟩ },
    { name := ⟨"Dog", ⟨20, 25⟩⟩, superclass := some ⟨"Wolf", ⟨30, 36⟩⟩ },
    { name := ⟨"zoo.Wolf", ⟨40, 50⟩⟩, superclass := some ⟨"Dog", ⟨60, 65⟩⟩ }]

theorem tangled_cycle_reported :
    (tangledManifest.classes.map tangledManifest.qualifiedName).Nodup ∧
      tangledManifest.checkCycles =
        .error (.inheritanceCycle "Dog" ["zoo.Dog", "zoo.Wolf", "zoo.Dog"] ⟨60, 65⟩) ∧
      ∃ start others, start.name.text = "Dog" ∧ tangledManifest.IsCycle start others ∧
        (start :: others ++ [start]).map tangledManifest.qualifiedName =
          ["zoo.Dog", "zoo.Wolf", "zoo.Dog"] := by
  have distinct : (tangledManifest.classes.map tangledManifest.qualifiedName).Nodup := by
    decide
  have reported : tangledManifest.checkCycles =
      .error (.inheritanceCycle "Dog" ["zoo.Dog", "zoo.Wolf", "zoo.Dog"] ⟨60, 65⟩) := by
    decide
  obtain ⟨_, start, _, others, _, _, -, -, -, cycle, -, -, same⟩ :=
    (first_cycle_reported distinct).2.2 _ reported
  obtain ⟨name, chain, -⟩ := Problem.inheritanceCycle.inj same
  exact ⟨distinct, reported, start, others, name.symm, cycle, chain.symm⟩

end BuilderSynthesis.Manifest
