import BuilderSynthesis.Manifest.Lowering
import BuilderSynthesis.Proofs.Accepted
import BuilderSynthesis.Proofs.WellFormed

/-!
Contract: the hierarchy of an accepted manifest.

Owns:
- `LowersTo`, how the classes of a hierarchy stand for those of a manifest;
- `lower_succeeds`, that an accepted manifest has such a hierarchy;
- `LowersTo.wellFormed`, that it is well formed.
-/

namespace BuilderSynthesis.Manifest

open BuilderSynthesis.Schema (ClassId DataClass Hierarchy)

def superclassOf (manifest : Manifest) (hierarchy : Hierarchy) (entry : ClassEntry) :
    Option ClassId :=
  entry.superclass.bind (fun extended => hierarchy.lookup (manifest.qualify extended.text))

/-- A class stands for an entry, apart from its superclass. -/
structure StandsFor (manifest : Manifest) (entry : ClassEntry) (dataClass : DataClass) : Prop where
  name : dataClass.name = manifest.qualifiedName entry
  isAbstract : dataClass.isAbstract = entry.isAbstract
  nested : dataClass.nested = entry.nested
  fields : List.Forall₂ (fun field lowered => manifest.lowerField field = .ok lowered)
    entry.fields dataClass.fields

/-- The classes of a hierarchy stand for those of a manifest. -/
structure LowersTo (manifest : Manifest) (hierarchy : Hierarchy) : Prop where
  classes : List.Forall₂ (StandsFor manifest) manifest.classes hierarchy.classes
  superclass : ∀ (id : Nat) entry, manifest.classes[id]? = some entry →
    hierarchy.superclass id = manifest.superclassOf hierarchy entry

theorem lowerClass_eq_ok_iff {manifest : Manifest} {entry : ClassEntry} {dataClass : DataClass} :
    manifest.lowerClass entry = .ok dataClass ↔
      ∃ fields, entry.fields.mapM manifest.lowerField = .ok fields ∧
        dataClass = ⟨manifest.qualifiedName entry, none, entry.isAbstract, fields, entry.location,
          entry.doc, entry.nested⟩ := by
  unfold lowerClass
  rw [Outcome.bind_eq_ok_iff]
  simp only [pure, Except.pure, Except.ok.injEq, eq_comm]

theorem standsFor_of_lowerClass {manifest : Manifest} {entry : ClassEntry} {dataClass : DataClass}
    (success : manifest.lowerClass entry = .ok dataClass) :
    StandsFor manifest entry dataClass ∧ dataClass.superclass = none := by
  obtain ⟨fields, all, rfl⟩ := lowerClass_eq_ok_iff.1 success
  exact ⟨⟨rfl, rfl, rfl, Outcome.mapM_eq_ok_iff.1 all⟩, rfl⟩

/-! ### Linking -/

def relinked (manifest : Manifest) (entries : List ClassEntry) (hierarchy : Hierarchy)
    (dataClass : DataClass) : DataClass :=
  match entries.find? (fun entry => manifest.qualifiedName entry == dataClass.name) with
  | none => dataClass
  | some entry =>
      match entry.superclass with
      | none => dataClass
      | some extended =>
          { dataClass with superclass := hierarchy.lookup (manifest.qualify extended.text) }

section

variable {manifest : Manifest} {hierarchy : Hierarchy} {entry : ClassEntry}
  {rest : List ClassEntry} {dataClass : DataClass}

theorem name_relinked (entries : List ClassEntry) :
    (manifest.relinked entries hierarchy dataClass).name = dataClass.name := by
  unfold relinked
  split
  · rfl
  · split <;> rfl

theorem standsFor_relinked (entries : List ClassEntry)
    (stands : StandsFor manifest entry dataClass) :
    StandsFor manifest entry (manifest.relinked entries hierarchy dataClass) := by
  unfold relinked
  split
  · exact stands
  · split
    · exact stands
    · exact ⟨stands.name, stands.isAbstract, stands.nested, stands.fields⟩

theorem relinked_of_absent {entries : List ClassEntry}
    (absent : dataClass.name ∉ entries.map manifest.qualifiedName) :
    manifest.relinked entries hierarchy dataClass = dataClass := by
  have none' : entries.find? (fun entry => manifest.qualifiedName entry == dataClass.name) =
      none := by
    rw [List.find?_eq_none]
    intro other member same
    exact absent (List.mem_map.2 ⟨other, member, beq_iff_eq.1 same⟩)
  unfold relinked
  rw [none']

theorem relinked_cons_of_ne (different : manifest.qualifiedName entry ≠ dataClass.name) :
    manifest.relinked (entry :: rest) hierarchy dataClass =
      manifest.relinked rest hierarchy dataClass := by
  unfold relinked
  rw [List.find?_cons_of_neg (by simpa using different)]

theorem relinked_cons_of_eq (own : manifest.qualifiedName entry = dataClass.name) :
    manifest.relinked (entry :: rest) hierarchy dataClass =
      match entry.superclass with
      | none => dataClass
      | some extended =>
          { dataClass with superclass := hierarchy.lookup (manifest.qualify extended.text) } := by
  unfold relinked
  rw [List.find?_cons_of_pos (by simpa using own)]

theorem relinked_setSuperclass (distinct : (hierarchy.classes.map DataClass.name).Nodup)
    (id : ClassId) (superclass : Option ClassId) (entries : List ClassEntry) :
    manifest.relinked entries (hierarchy.setSuperclass id superclass) dataClass =
      manifest.relinked entries hierarchy dataClass := by
  unfold relinked
  simp only [Hierarchy.lookup_setSuperclass distinct]

/-- Linking an entry and then others, none of which has its name. -/
theorem map_relinked_cons (distinct : (hierarchy.classes.map DataClass.name).Nodup)
    (once : manifest.qualifiedName entry ∉ rest.map manifest.qualifiedName) {id : ClassId}
    (found : hierarchy.lookup (manifest.qualifiedName entry) = some id) {extended : Marked}
    (written : entry.superclass = some extended) (other : ClassId) :
    ((hierarchy.setSuperclass id (hierarchy.lookup (manifest.qualify extended.text))).get?
        other).map (manifest.relinked rest hierarchy) =
      (hierarchy.get? other).map (manifest.relinked (entry :: rest) hierarchy) := by
  rw [Hierarchy.get?_setSuperclass, Option.map_map]
  cases present : hierarchy.get? other with
  | none => rfl
  | some dataClass =>
      rw [Option.map_some, Option.map_some, Function.comp_apply, Option.some.injEq]
      by_cases own : manifest.qualifiedName entry = dataClass.name
      · have named := Hierarchy.lookup_of_get? distinct present
        rw [own, named, Option.some.injEq] at found
        rw [if_pos found, relinked_cons_of_eq own, written]
        exact relinked_of_absent (own ▸ once)
      · have different : other ≠ id := by
          rintro rfl
          obtain ⟨same, there, name⟩ := Hierarchy.get?_of_lookup found
          rw [present, Option.some.injEq] at there
          exact own (name.symm.trans (congrArg DataClass.name there.symm))
        rw [if_neg different, relinked_cons_of_ne own]

end

/-- Linking entries with different names gives each class the superclass that its entry asks
for. -/
theorem foldlM_linkClass {manifest : Manifest} {entries : List ClassEntry} {hierarchy : Hierarchy}
    (distinct : (hierarchy.classes.map DataClass.name).Nodup)
    (once : (entries.map manifest.qualifiedName).Nodup)
    (known : ∀ entry ∈ entries, manifest.qualifiedName entry ∈ hierarchy.classes.map DataClass.name)
    (superclasses : ∀ entry ∈ entries, ∀ extended, entry.superclass = some extended →
      manifest.qualify extended.text ∈ hierarchy.classes.map DataClass.name) :
    ∃ after, entries.foldlM manifest.linkClass hierarchy = .ok after ∧
      ∀ id, after.get? id = (hierarchy.get? id).map (manifest.relinked entries hierarchy) := by
  induction entries generalizing hierarchy with
  | nil => exact ⟨hierarchy, rfl, fun id => by cases hierarchy.get? id <;> rfl⟩
  | cons entry rest inductionHypothesis =>
      rw [List.map_cons, List.nodup_cons] at once
      rw [List.forall_mem_cons] at known superclasses
      rw [List.foldlM_cons]
      cases written : entry.superclass with
      | none =>
          have step : manifest.linkClass hierarchy entry = .ok hierarchy := by
            simp only [linkClass, written]
          obtain ⟨after, linked, all⟩ :=
            inductionHypothesis distinct once.2 known.2 superclasses.2
          refine ⟨after, ?_, fun id => ?_⟩
          · rw [step]
            exact linked
          · rw [all id]
            congr 1
            funext dataClass
            by_cases own : manifest.qualifiedName entry = dataClass.name
            · rw [relinked_cons_of_eq own, written]
              exact relinked_of_absent (own ▸ once.1)
            · rw [relinked_cons_of_ne own]
      | some extended =>
          obtain ⟨id, found⟩ := Hierarchy.exists_lookup distinct known.1
          obtain ⟨superclass, above⟩ :=
            Hierarchy.exists_lookup distinct (superclasses.1 extended written)
          have step : manifest.linkClass hierarchy entry =
              .ok (hierarchy.setSuperclass id (some superclass)) := by
            simp only [linkClass, written, found, above]
          have names := hierarchy.names_setSuperclass id (some superclass)
          obtain ⟨after, linked, all⟩ := @inductionHypothesis
            (hierarchy.setSuperclass id (some superclass)) (names ▸ distinct) once.2
            (names ▸ known.2) (names ▸ superclasses.2)
          refine ⟨after, ?_, fun other => ?_⟩
          · rw [step]
            exact linked
          · have rest' : manifest.relinked rest (hierarchy.setSuperclass id (some superclass)) =
                manifest.relinked rest hierarchy :=
              funext fun dataClass => relinked_setSuperclass distinct id _ rest
            rw [all other, rest', ← above]
            exact map_relinked_cons distinct once.1 found written other

/-- The classes of entries, before they are linked. -/
theorem mapM_lowerClass {manifest : Manifest} (accepted : Accepted manifest) :
    ∃ classes, manifest.classes.mapM manifest.lowerClass = .ok classes := by
  apply Outcome.mapM_succeeds
  intro entry member
  have fields : ∃ fields, entry.fields.mapM manifest.lowerField = .ok fields := by
    apply Outcome.mapM_succeeds
    intro field inside
    have known := accepted.types entry member field inside
    unfold hasKnownType at known
    unfold lowerField
    cases notation' : field.typeNotation? with
    | none =>
        rw [notation'] at known
        cases known
    | some typeNotation => exact ⟨_, rfl⟩
  obtain ⟨lowered, success⟩ := fields
  exact ⟨_, lowerClass_eq_ok_iff.2 ⟨lowered, success, rfl⟩⟩

/-- An accepted manifest has a hierarchy. -/
theorem lower_succeeds {manifest : Manifest} (accepted : Accepted manifest) :
    ∃ hierarchy, manifest.lower = .ok hierarchy ∧ LowersTo manifest hierarchy := by
  obtain ⟨classes, lowered⟩ := mapM_lowerClass accepted
  have each := Outcome.mapM_eq_ok_iff.1 lowered
  have names : classes.map DataClass.name = manifest.classes.map manifest.qualifiedName :=
    Lists.map_eq_of_forall₂ each (fun _ _ success => (standsFor_of_lowerClass success).1.name)
  have distinct : ((⟨classes⟩ : Hierarchy).classes.map DataClass.name).Nodup := by
    rw [names]
    exact accepted.names
  have known : ∀ entry ∈ manifest.classes,
      manifest.qualifiedName entry ∈ classes.map DataClass.name := by
    intro entry member
    rw [names]
    exact List.mem_map.2 ⟨entry, member, rfl⟩
  have superclasses : ∀ entry ∈ manifest.classes, ∀ extended, entry.superclass = some extended →
      manifest.qualify extended.text ∈ classes.map DataClass.name := by
    intro entry member extended written
    obtain ⟨parent, found⟩ :=
      Option.isSome_iff_exists.1 (accepted.superclasses entry member extended written)
    obtain ⟨there, named⟩ := findClass?_eq_some found
    rw [← named]
    exact known parent there
  obtain ⟨hierarchy, linked, all⟩ :=
    foldlM_linkClass distinct accepted.names known superclasses
  have mapped : hierarchy.classes = classes.map (manifest.relinked manifest.classes ⟨classes⟩) := by
    apply List.ext_getElem?
    intro id
    rw [List.getElem?_map]
    exact all id
  have same : hierarchy.classes.map DataClass.name = classes.map DataClass.name := by
    rw [mapped, List.map_map]
    exact List.map_congr_left fun dataClass _ => name_relinked manifest.classes
  refine ⟨hierarchy, ?_, ?_, ?_⟩
  · unfold lower
    rw [lowered]
    exact linked
  · rw [mapped, List.forall₂_map_right_iff]
    exact each.imp fun _ _ success =>
      standsFor_relinked manifest.classes (standsFor_of_lowerClass success).1
  · intro id entry found
    obtain ⟨dataClass, there, success⟩ := Lists.exists_of_forall₂ each found
    obtain ⟨standing, unlinked⟩ := standsFor_of_lowerClass success
    have single : manifest.classes.find? (fun other =>
        manifest.qualifiedName other == dataClass.name) = some entry := by
      rw [standing.name]
      exact Lists.find?_key_of_nodup accepted.names (List.mem_of_getElem? found)
    have position : hierarchy.get? id =
        some (manifest.relinked manifest.classes ⟨classes⟩ dataClass) := by
      unfold Hierarchy.get?
      rw [mapped, List.getElem?_map, there, Option.map_some]
    unfold Hierarchy.superclass superclassOf
    rw [position, Option.bind_some]
    unfold relinked
    rw [single]
    cases written : entry.superclass with
    | none => simpa [written] using unlinked
    | some extended =>
        simp only [written, Option.bind_some]
        exact (Hierarchy.lookup_congr distinct same _).symm

section

variable {manifest : Manifest} {before after : Hierarchy} {ofClass : DataClass → α}
  (ignores : ∀ dataClass superclass,
    ofClass { dataClass with superclass := superclass } = ofClass dataClass)

include ignores

theorem map_linkClass {entry : ClassEntry} (linked : manifest.linkClass before entry = .ok after) :
    after.classes.map ofClass = before.classes.map ofClass := by
  unfold linkClass at linked
  dsimp only at linked
  split at linked
  · cases linked
    rfl
  · split at linked
    · cases linked
    · split at linked
      · cases linked
      · cases linked
        exact Hierarchy.map_setSuperclass ignores _ _

theorem map_foldlM_linkClass {entries : List ClassEntry}
    (linked : entries.foldlM manifest.linkClass before = .ok after) :
    after.classes.map ofClass = before.classes.map ofClass := by
  induction entries generalizing before with
  | nil =>
      cases linked
      rfl
  | cons entry rest inductionHypothesis =>
      rw [List.foldlM_cons, Outcome.bind_eq_ok_iff] at linked
      obtain ⟨middle, first, later⟩ := linked
      rw [inductionHypothesis later, map_linkClass ignores first]

/-- What classes take from their entries, whatever their superclasses are. -/
theorem map_of_lower {ofEntry : ClassEntry → α}
    (takes : ∀ entry dataClass, manifest.lowerClass entry = .ok dataClass →
      ofClass dataClass = ofEntry entry)
    (success : manifest.lower = .ok after) :
    after.classes.map ofClass = manifest.classes.map ofEntry := by
  unfold lower at success
  rw [Outcome.bind_eq_ok_iff] at success
  obtain ⟨classes, lowered, linked⟩ := success
  rw [map_foldlM_linkClass ignores linked]
  exact Lists.map_eq_of_forall₂ (Outcome.mapM_eq_ok_iff.1 lowered) takes

end

/-! ### What acceptance means for the hierarchy -/

section

variable {manifest : Manifest} {hierarchy : Hierarchy}

theorem lowerField_eq_ok {field : FieldEntry} {lowered : Schema.Field}
    (success : manifest.lowerField field = .ok lowered) :
    lowered.name = field.name.text ∧ lowered.isStatic = field.isStatic := by
  unfold lowerField at success
  split at success
  · cases success
  · cases success
    exact ⟨rfl, rfl⟩

theorem LowersTo.names (lowers : LowersTo manifest hierarchy) :
    hierarchy.classes.map DataClass.name = manifest.classes.map manifest.qualifiedName :=
  Lists.map_eq_of_forall₂ lowers.classes (fun _ _ stands => stands.name)

theorem LowersTo.size (lowers : LowersTo manifest hierarchy) :
    hierarchy.size = manifest.classes.length :=
  lowers.classes.length_eq.symm

/-- The names of classes with the nested types that they have. -/
theorem LowersTo.nested (lowers : LowersTo manifest hierarchy) :
    hierarchy.classes.map (fun dataClass => (dataClass.name, dataClass.nested)) =
      manifest.classes.map (fun entry => (manifest.qualifiedName entry, entry.nested)) :=
  Lists.map_eq_of_forall₂ lowers.classes
    (fun _ _ stands => Prod.ext stands.name stands.nested)

/-- Fields of an entry and of its class have the same stems. -/
theorem StandsFor.stems {entry : ClassEntry} {dataClass : DataClass}
    (stands : StandsFor manifest entry dataClass) :
    dataClass.instanceFields.map (fun field => Schema.propertyStem field.name) =
      (entry.fields.filter (fun field => !field.isStatic)).map (fun field =>
        Schema.propertyStem field.name.text) := by
  unfold DataClass.instanceFields
  apply Lists.map_filter_eq_of_forall₂ stands.fields
  intro field lowered success
  obtain ⟨name, isStatic⟩ := lowerField_eq_ok success
  exact ⟨congrArg (!·) isStatic, congrArg Schema.propertyStem name⟩

theorem LowersTo.get?_eq_none (lowers : LowersTo manifest hierarchy) {position : Nat}
    (outside : manifest.classes[position]? = none) : hierarchy.get? position = none := by
  rw [List.getElem?_eq_none_iff, lowers.classes.length_eq] at outside
  exact List.getElem?_eq_none outside

/-- The stems of the properties of classes are those of their entries. -/
theorem LowersTo.stems_flatMap (lowers : LowersTo manifest hierarchy) (positions : List Nat) :
    (positions.flatMap hierarchy.ownProperties).map (fun entry =>
        Schema.propertyStem entry.2.name) =
      ((positions.filterMap (fun position => manifest.classes[position]?)).flatMap (fun entry =>
        (entry.fields.filter (fun field => !field.isStatic)).map (fun field =>
          (⟨entry.name.text, field.name⟩ : Property)))).map Property.stem := by
  induction positions with
  | nil => rfl
  | cons position rest inductionHypothesis =>
      rw [List.flatMap_cons, List.map_append, inductionHypothesis]
      unfold Hierarchy.ownProperties
      cases found : manifest.classes[position]? with
      | none =>
          rw [List.filterMap_cons_none found, lowers.get?_eq_none found]
          rfl
      | some entry =>
          obtain ⟨dataClass, there, stands⟩ := Lists.exists_of_forall₂ lowers.classes found
          have present : hierarchy.get? position = some dataClass := there
          rw [List.filterMap_cons_some found, List.flatMap_cons, List.map_append, List.map_map,
            present]
          simp only [List.map_map]
          exact congrArg (fun stems => stems ++ _) stands.stems

theorem LowersTo.inRange (lowers : LowersTo manifest hierarchy) : hierarchy.InRange := by
  intro dataClass member superclass extended
  obtain ⟨id, found⟩ := List.mem_iff_getElem?.1 member
  have small : id < manifest.classes.length := by
    rw [← lowers.size]
    exact Hierarchy.get?_eq_some_lt found
  have link := lowers.superclass id _ (List.getElem?_eq_getElem small)
  have own : hierarchy.superclass id = some superclass := by
    unfold Hierarchy.superclass Hierarchy.get?
    rw [found, Option.bind_some, extended]
  rw [own] at link
  obtain ⟨text, -, known⟩ := Option.bind_eq_some_iff.1 link.symm
  obtain ⟨parent, there, -⟩ := Hierarchy.get?_of_lookup known
  exact Hierarchy.get?_eq_some_lt there

variable (accepted : Accepted manifest) (lowers : LowersTo manifest hierarchy)

include accepted lowers

theorem LowersTo.distinct : (hierarchy.classes.map DataClass.name).Nodup := by
  rw [lowers.names]
  exact accepted.names

/-- The class that an entry extends is at the position that its class is linked to. -/
theorem LowersTo.parent?_eq {id : Nat} {entry : ClassEntry}
    (found : manifest.classes[id]? = some entry) :
    manifest.parent? entry =
      (hierarchy.superclass id).bind (fun position => manifest.classes[position]?) := by
  rw [lowers.superclass id entry found]
  unfold parent? superclassOf
  cases written : entry.superclass with
  | none => rfl
  | some extended =>
      have member := List.mem_of_getElem? found
      obtain ⟨parent, known⟩ :=
        Option.isSome_iff_exists.1 (accepted.superclasses entry member extended written)
      obtain ⟨there, named⟩ := findClass?_eq_some known
      obtain ⟨position, present⟩ := List.mem_iff_getElem?.1 there
      have link : hierarchy.lookup (manifest.qualify extended.text) = some position := by
        rw [Hierarchy.lookup_eq_some_iff (lowers.distinct accepted), lowers.names,
          List.getElem?_map, present, Option.map_some, named]
      rw [Option.bind_some, Option.bind_some, known, link, Option.bind_some, present]

theorem LowersTo.acyclic : hierarchy.Acyclic := by
  intro id loop
  have extends' : ∀ position other, Walk.Leads hierarchy.superclass position other →
      Extends manifest ((manifest.classes.map manifest.qualifiedName).getD position "")
        ((manifest.classes.map manifest.qualifiedName).getD other "") := by
    intro position other link
    have bounds := Hierarchy.bounded_of_inRange (lowers.inRange) position other link
    rw [lowers.size] at bounds
    have present := List.getElem?_eq_getElem bounds.1
    have above := List.getElem?_eq_getElem bounds.2
    have parent := lowers.parent?_eq accepted present
    rw [show hierarchy.superclass position = some other from link, Option.bind_some,
      above] at parent
    rw [List.getD_eq_getElem?_getD, List.getD_eq_getElem?_getD, List.getElem?_map,
      List.getElem?_map, present, above]
    exact ⟨_, List.getElem_mem bounds.1, rfl, _, parent, rfl⟩
  exact accepted.acyclic _ (Relation.TransGen.lift _ extends' _ _ loop)

theorem LowersTo.lineage_eq (steps : Nat) {id : Nat} {entry : ClassEntry}
    (found : manifest.classes[id]? = some entry) :
    manifest.lineage steps entry =
      (hierarchy.chain (steps + 1) (some id)).filterMap (fun position =>
        manifest.classes[position]?) := by
  induction steps generalizing id entry with
  | zero => simp [lineage, Hierarchy.chain, found]
  | succ steps inductionHypothesis =>
      rw [lineage, Hierarchy.chain, List.filterMap_cons_some found,
        lowers.parent?_eq accepted found]
      congr 1
      cases link : hierarchy.superclass id with
      | none => simp [Hierarchy.chain]
      | some position =>
          have bounds := Hierarchy.bounded_of_inRange (lowers.inRange) id position link
          rw [lowers.size] at bounds
          have present := List.getElem?_eq_getElem bounds.2
          rw [Option.bind_some, present]
          exact inductionHypothesis present

theorem LowersTo.stems (id : ClassId) :
    ((hierarchy.visibleProperties id).map (fun entry =>
      Schema.propertyStem entry.2.name)).Nodup := by
  unfold Hierarchy.visibleProperties
  rw [lowers.stems_flatMap]
  rcases Nat.lt_or_ge id manifest.classes.length with known | beyond
  · have found := List.getElem?_eq_getElem known
    have stems := accepted.stems _ (List.mem_of_getElem? found)
    have chain : hierarchy.chain (manifest.classes.length + 1) (some id) =
        id :: hierarchy.ancestors id := by
      rw [Hierarchy.chain, Hierarchy.ancestors, lowers.size]
    unfold visibleProperties at stems
    rw [lowers.lineage_eq accepted _ found, chain, ← List.filterMap_reverse,
      List.reverse_cons] at stems
    exact stems
  · have outside : manifest.classes[id]? = none := List.getElem?_eq_none beyond
    have none' : hierarchy.superclass id = none := by
      unfold Hierarchy.superclass
      rw [lowers.get?_eq_none outside]
      rfl
    unfold Hierarchy.ancestors
    rw [none', Hierarchy.chain_eq_visited, Walk.visited_none]
    simp [outside]

/-- The hierarchy of an accepted manifest is well formed. -/
theorem LowersTo.wellFormed : hierarchy.WellFormed := by
  constructor
  · exact lowers.distinct accepted
  · intro dataClass member
    obtain ⟨entry, known, stands⟩ := Lists.exists_of_mem_forall₂ lowers.classes member
    rw [Lists.map_eq_of_forall₂ stands.fields (fun _ _ success => (lowerField_eq_ok success).1)]
    exact accepted.fields entry known
  · intro dataClass member field inside
    obtain ⟨entry, known, stands⟩ := Lists.exists_of_mem_forall₂ lowers.classes member
    obtain ⟨written, there, success⟩ := Lists.exists_of_mem_forall₂ stands.fields inside
    rw [(lowerField_eq_ok success).1]
    exact accepted.identifiers entry known written there
  · exact lowers.inRange
  · exact lowers.acyclic accepted
  · exact lowers.stems accepted

end

end BuilderSynthesis.Manifest
