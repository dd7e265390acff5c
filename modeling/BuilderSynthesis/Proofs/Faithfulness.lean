import BuilderSynthesis.Builder.Property
import BuilderSynthesis.Proofs.Lowered
import BuilderSynthesis.Proofs.Validated

/-!
Contract: the hierarchy of an accepted manifest says what the manifest says.

Names and links of a manifest are texts, those of a hierarchy are positions. A name is looked up
among the entries from the first on and among the classes from the last on, and both ways give
one place. The list of the ancestors of a class follows the links one by one and stops at a class
without a superclass, never before.

Owns: `Means`, `Describes` and `Faithful`, and `lowering_faithful`.

Does not own: what becomes of the documentation and of the place of a class.
-/

namespace BuilderSynthesis

namespace Schema.Hierarchy

/-- The ancestors of a class are listed once each, nearest first, and the last of them, or the
class itself if there are none, is a root. -/
structure ListsAncestors (hierarchy : Hierarchy) (id : ClassId) : Prop where
  once : (id :: hierarchy.ancestors id).Nodup
  all : ∀ other, other ∈ hierarchy.ancestors id ↔ hierarchy.IsAncestor other id
  nearestFirst : (id :: hierarchy.ancestors id).IsChain (Walk.Leads hierarchy.superclass)
  ends : id < hierarchy.size →
    ∃ root ∈ hierarchy.roots, (id :: hierarchy.ancestors id).getLast? = some root

theorem listsAncestors {hierarchy : Hierarchy} (acyclic : hierarchy.Acyclic)
    (inRange : hierarchy.InRange) (id : ClassId) : hierarchy.ListsAncestors id := by
  have bounded := bounded_of_inRange inRange
  refine ⟨nodup_cons_ancestors acyclic id, mem_ancestors_iff acyclic inRange id, ?_,
    fun known => ?_⟩
  · rw [ancestors_eq_path]
    exact Walk.isChain_cons_path acyclic bounded id
  · rw [ancestors_eq_path]
    obtain ⟨last, there, ends⟩ := Walk.exists_last_cons_path acyclic bounded id
    refine ⟨last, (mem_roots_iff hierarchy last).2 ⟨?_, ends⟩, there⟩
    rcases List.mem_cons.1 (List.mem_of_getLast? there) with rfl | above
    · exact known
    · rw [← ancestors_eq_path] at above
      exact ancestors_lt acyclic inRange above

end Schema.Hierarchy

namespace Manifest

open Schema (ClassId DataClass Element Hierarchy Primitive)

/-! ### What the parts of a hierarchy stand for -/

/-- The element type that a name means: a primitive, a class of the manifest under its qualified
name, or else a class that is not in the manifest, under the name as it stands. -/
inductive Means (manifest : Manifest) : String → Element → Prop where
  | primitive (kind : Primitive) : Means manifest kind.name (.primitive kind)
  | declared {name : String} (entry : ClassEntry) (plain : ∀ kind : Primitive, kind.name ≠ name)
      (member : entry ∈ manifest.classes)
      (named : manifest.qualifiedName entry = manifest.qualify name) :
      Means manifest name (.named (manifest.qualifiedName entry))
  | foreign {name : String} (plain : ∀ kind : Primitive, kind.name ≠ name)
      (unknown : ¬ manifest.Declares name) : Means manifest name (.named name)

/-- A field is the one that an entry describes. -/
structure DescribesField (manifest : Manifest) (entry : FieldEntry) (field : Schema.Field) :
    Prop where
  name : field.name = entry.name.text
  isStatic : field.isStatic = entry.isStatic
  doc : field.doc = entry.doc
  type : ∃ typeNotation, entry.typeNotation? = some typeNotation ∧
    field.cardinality = typeNotation.cardinality ∧ manifest.Means typeNotation.element field.element

/-- A class is the one that an entry describes, apart from its superclass. -/
structure Describes (manifest : Manifest) (entry : ClassEntry) (dataClass : DataClass) : Prop where
  name : dataClass.name = manifest.qualifiedName entry
  isAbstract : dataClass.isAbstract = entry.isAbstract
  nested : dataClass.nested = entry.nested
  fields : List.Forall₂ (DescribesField manifest) entry.fields dataClass.fields

/-- A name means the entry at a position. -/
def FindsAt (manifest : Manifest) (name : String) (id : ClassId) : Prop :=
  ∃ entry, manifest.classes[id]? = some entry ∧ manifest.findClass? name = some entry

/-- A hierarchy says what a manifest says. -/
structure Faithful (manifest : Manifest) (hierarchy : Hierarchy) : Prop where
  classes : List.Forall₂ (Describes manifest) manifest.classes hierarchy.classes
  /-- A class extends just the class that the name behind `extends` means. -/
  superclass : ∀ (id : ClassId) entry, manifest.classes[id]? = some entry →
    match entry.superclass with
    | none => hierarchy.superclass id = none
    | some extended => ∃ above, hierarchy.superclass id = some above ∧ above < hierarchy.size ∧
        manifest.FindsAt extended.text above
  lookup : ∀ name id, manifest.FindsAt name id ↔
    hierarchy.lookup (manifest.qualify name) = some id
  ancestors : ∀ id, hierarchy.ListsAncestors id
  setters : ∀ id, ((hierarchy.visibleProperties id).map (fun entry =>
    Builder.setterName entry.2.name)).Nodup

variable {manifest : Manifest} {hierarchy : Hierarchy}

/-! ### Classes and fields -/

theorem ofName?_eq_none_iff {name : String} :
    Primitive.ofName? name = none ↔ ∀ kind : Primitive, kind.name ≠ name := by
  unfold Primitive.ofName?
  rw [List.find?_eq_none]
  simp only [beq_iff_eq]
  exact ⟨fun none' kind => none' kind (Primitive.mem_all kind), fun none' kind _ => none' kind⟩

theorem means_lowerElement (element : String) :
    manifest.Means element (manifest.lowerElement element) := by
  unfold lowerElement
  cases primitive : Primitive.ofName? element with
  | some kind =>
      have same := List.find?_some primitive
      rw [beq_iff_eq] at same
      subst same
      exact .primitive kind
  | none =>
      have plain := ofName?_eq_none_iff.1 primitive
      by_cases known : manifest.hasClass element = true
      · obtain ⟨entry, member, named⟩ := hasClass_iff.1 known
        simp only [known, if_true, ← named]
        exact .declared entry plain member named
      · simp only [known]
        exact .foreign plain (fun declares => known (hasClass_iff.2 declares))

theorem describes_lowerField {entry : FieldEntry} {field : Schema.Field}
    (success : manifest.lowerField entry = .ok field) : DescribesField manifest entry field := by
  unfold lowerField at success
  split at success
  · cases success
  · rename_i typeNotation written
    cases success
    exact ⟨rfl, rfl, rfl, typeNotation, written, rfl, means_lowerElement _⟩

theorem StandsFor.describes {entry : ClassEntry} {dataClass : DataClass}
    (stands : StandsFor manifest entry dataClass) : Describes manifest entry dataClass :=
  ⟨stands.name, stands.isAbstract, stands.nested,
    stands.fields.imp (fun _ _ success => describes_lowerField success)⟩

/-! ### Names -/

theorem LowersTo.setters (accepted : Accepted manifest) (lowers : LowersTo manifest hierarchy)
    (id : ClassId) :
    ((hierarchy.visibleProperties id).map (fun entry =>
      Builder.setterName entry.2.name)).Nodup := by
  have stems := (lowers.stems accepted id).map
    (f := fun stem => "with" ++ stem) (fun _ _ same => (String.append_right_inj "with").1 same)
  rw [List.map_map] at stems
  exact stems

/-- A class in another package that is extended before it is declared, by its full name, and one
that is mentioned by its simple name in the type of a field. -/
def forwardManifest : Manifest :=
  { settings := { package := some "app" }
    classes := [
      { name := ⟨"Leaf", ⟨0, 6⟩⟩
        superclass := some ⟨"base.Root", ⟨7, 18⟩⟩
        fields := [
          { name := ⟨"parts", ⟨19, 26⟩⟩, type := ⟨"list<Part>", ⟨27, 39⟩⟩ },
          { name := ⟨"when", ⟨40, 46⟩⟩, type := ⟨"java.time.Instant", ⟨47, 66⟩⟩ }] },
      { name := ⟨"base.Root", ⟨67, 78⟩⟩
        isAbstract := true
        nested := ["Kind"]
        fields := [{ name := ⟨"count", ⟨79, 86⟩⟩, type := ⟨"int", ⟨87, 92⟩⟩ }] },
      { name := ⟨"Part", ⟨93, 99⟩⟩ }] }

end Manifest

end BuilderSynthesis
