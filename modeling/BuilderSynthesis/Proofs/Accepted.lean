import BuilderSynthesis.Manifest.Validation
import BuilderSynthesis.Proofs.Lists
import BuilderSynthesis.Proofs.Outcome
import Mathlib.Data.List.Perm.Subperm
import Mathlib.Logic.Relation

/-!
Contract: what is known of a manifest that was accepted.

`Accepted` lists it without mentioning checks; `accepted_of_validate` says that the checks
establish it. The check for cycles follows one chain at a time and gives up on a chain that
runs into a cycle elsewhere; that no class is its own ancestor comes from all chains together.
-/

namespace BuilderSynthesis.Manifest

/-! ### Single checks -/

theorem checkName_eq_ok_iff {role : NameRole} {span : Toml.Span} {name : String} :
    checkName role span name = .ok () ↔
      Java.isReserved name = false ∧ Java.nameFault? name = none := by
  unfold checkName
  cases Java.isReserved name with
  | true => simp
  | false => cases Java.nameFault? name <;> simp

/-- Class names are accepted if they are dotted names and differ when they are qualified. -/
theorem checkClassNames_eq_ok_iff {manifest : Manifest} {seen : List (String × Toml.Span)}
    {entries : List ClassEntry} :
    manifest.checkClassNames seen entries = .ok () ↔
      (∀ entry ∈ entries, checkDottedName ⟨"class", []⟩ entry.name.span entry.name.text = .ok ()) ∧
        (entries.map manifest.qualifiedName).Nodup ∧
        ∀ entry ∈ entries, manifest.qualifiedName entry ∉ seen.map Prod.fst := by
  induction entries generalizing seen with
  | nil => simp [checkClassNames]
  | cons entry rest inductionHypothesis =>
      rw [checkClassNames, Outcome.bind_eq_ok_iff, Lists.distinct_cons_iff, List.forall_mem_cons,
        ← Keyed.value?_isSome_iff]
      cases known : Keyed.value? seen (manifest.qualifiedName entry) with
      | some first => simp [known]
      | none =>
          simp only [known, inductionHypothesis, List.map_cons, Option.isSome_none,
            Bool.false_eq_true, not_false_eq_true, true_and]
          exact ⟨fun ⟨_, valid, others, distinct⟩ => ⟨⟨valid, others⟩, distinct⟩,
            fun ⟨⟨valid, others⟩, distinct⟩ => ⟨(), valid, others, distinct⟩⟩

theorem checkFields_eq_ok_iff {manifest : Manifest} {className : String} {seen : List Marked}
    {fields : List FieldEntry} :
    manifest.checkFields className seen fields = .ok () ↔
      (∀ field ∈ fields, checkName ⟨"field", [className]⟩ field.name.span field.name.text = .ok () ∧
        manifest.hasKnownType field = true) ∧
        (fields.map (fun field => field.name.text)).Nodup ∧
        ∀ field ∈ fields, field.name.text ∉ seen.map Marked.text := by
  induction fields generalizing seen with
  | nil => simp [checkFields]
  | cons field rest inductionHypothesis =>
      rw [checkFields, Outcome.bind_eq_ok_iff, Lists.distinct_cons_iff, List.forall_mem_cons,
        ← Lists.find?_key_isSome_iff]
      cases seen.find? (fun previous => previous.text == field.name.text) with
      | some previous => simp
      | none =>
          cases manifest.hasKnownType field with
          | false => simp
          | true =>
              simp only [if_true, inductionHypothesis, List.map_cons, Option.isSome_none,
                Bool.false_eq_true, not_false_eq_true, true_and, and_true]
              exact ⟨fun ⟨_, valid, others, distinct⟩ => ⟨⟨valid, others⟩, distinct⟩,
                fun ⟨⟨valid, others⟩, distinct⟩ => ⟨(), valid, others, distinct⟩⟩

theorem checkSuperclass_eq_ok_iff {manifest : Manifest} {entry : ClassEntry} :
    manifest.checkSuperclass entry = .ok () ↔
      ∀ extended, entry.superclass = some extended → manifest.hasClass extended.text = true := by
  unfold checkSuperclass
  cases entry.superclass with
  | none => simp
  | some extended => cases known : manifest.hasClass extended.text <;> simp [known]

theorem checkStems_eq_ok_iff {seen properties : List Property} :
    checkStems seen properties = .ok () ↔
      (properties.map Property.stem).Nodup ∧
        ∀ property ∈ properties, property.stem ∉ seen.map Property.stem := by
  induction properties generalizing seen with
  | nil => simp [checkStems]
  | cons property rest inductionHypothesis =>
      rw [checkStems, Lists.distinct_cons_iff, ← Lists.find?_key_isSome_iff]
      cases seen.find? (fun previous => previous.stem == property.stem) with
      | some previous => simp
      | none => simp [inductionHypothesis]

/-! ### No class is its own ancestor -/

/-- A class, by its qualified name, extends another. -/
def Extends (manifest : Manifest) (name other : String) : Prop :=
  ∃ entry ∈ manifest.classes, manifest.qualifiedName entry = name ∧
    ∃ parent, manifest.parent? entry = some parent ∧ manifest.qualifiedName parent = other

/-- The links of the names of a chain, but for its last, stay in the chain and do not lead to a
start. -/
def LinksInside (manifest : Manifest) (start : String) (chain : List String) (last : String) :
    Prop :=
  ∀ name ∈ chain, name ≠ last → ∀ other, Extends manifest name other →
    other ∈ chain ∧ other ≠ start

section

variable {manifest : Manifest}

theorem findClass?_eq_some {name : String} {entry : ClassEntry}
    (found : manifest.findClass? name = some entry) :
    entry ∈ manifest.classes ∧ manifest.qualifiedName entry = manifest.qualify name := by
  have same := List.find?_some found
  rw [beq_iff_eq] at same
  exact ⟨List.mem_of_find?_eq_some found, same⟩

theorem parent?_eq_some {entry parent : ClassEntry} (found : manifest.parent? entry = some parent) :
    parent ∈ manifest.classes := by
  obtain ⟨extended, -, known⟩ := Option.bind_eq_some_iff.1 found
  exact (findClass?_eq_some known).1

/-- A chain of the names of classes goes on with the name of a class that is new to it. -/
theorem chain_append {chain : List String} (once : chain.Nodup)
    (known : chain ⊆ manifest.classes.map manifest.qualifiedName) {entry : ClassEntry}
    (member : entry ∈ manifest.classes) (new : manifest.qualifiedName entry ∉ chain) :
    (chain ++ [manifest.qualifiedName entry]).Nodup ∧
      chain ++ [manifest.qualifiedName entry] ⊆ manifest.classes.map manifest.qualifiedName := by
  constructor
  · refine List.nodup_append.2 ⟨once, List.nodup_singleton _, ?_⟩
    intro name inside other single same
    exact new (List.mem_singleton.1 single ▸ same ▸ inside)
  · intro name inside
    rcases List.mem_append.1 inside with before | single
    · exact known before
    · exact List.mem_map.2 ⟨entry, member, (List.mem_singleton.1 single).symm⟩

section

variable {start last next : String} {chain : List String}
  (links : LinksInside manifest start chain last)
  (onward : ∀ other, Extends manifest last other → other = next)

include links onward

/-- A chain that is back at one of its names has all links inside. -/
theorem LinksInside.closed (again : next ∈ chain) (apart : next ≠ start) :
    ∀ name ∈ chain, ∀ other, Extends manifest name other → other ∈ chain ∧ other ≠ start := by
  intro name inside other extends'
  by_cases final : name = last
  · subst final
    rw [onward other extends']
    exact ⟨again, apart⟩
  · exact links name inside final other extends'

theorem LinksInside.append (apart : next ≠ start) :
    LinksInside manifest start (chain ++ [next]) next := by
  intro name inside different other extends'
  rcases List.mem_append.1 inside with before | single
  · by_cases final : name = last
    · subst final
      rw [onward other extends']
      exact ⟨List.mem_append_right _ (List.mem_singleton_self _), apart⟩
    · obtain ⟨stays, elsewhere⟩ := links name before final other extends'
      exact ⟨List.mem_append_left _ stays, elsewhere⟩
  · exact absurd (List.mem_singleton.1 single) different

end

/-- From a chain with all links inside nothing leads to the start. -/
theorem not_reaches_of_closed {start : String} {chain : List String}
    (closed : ∀ name ∈ chain, ∀ other, Extends manifest name other →
      other ∈ chain ∧ other ≠ start)
    {name : String} (inside : name ∈ chain) :
    ¬ Relation.TransGen (Extends manifest) name start := by
  intro reaches
  have never : ∀ other, Relation.TransGen (Extends manifest) name other →
      other ∈ chain ∧ other ≠ start := by
    intro other path
    induction path with
    | single step => exact closed _ inside _ step
    | tail _ step still => exact closed _ still.1 _ step
  exact (never start reaches).2 rfl

variable (distinct : (manifest.classes.map manifest.qualifiedName).Nodup)

include distinct

/-- What a class extends depends on its name. -/
theorem extends_iff {entry : ClassEntry} (member : entry ∈ manifest.classes) (other : String) :
    Extends manifest (manifest.qualifiedName entry) other ↔
      ∃ parent, manifest.parent? entry = some parent ∧ manifest.qualifiedName parent = other := by
  constructor
  · rintro ⟨same, known, name, parent⟩
    rwa [List.inj_on_of_nodup_map distinct known member name] at parent
  · exact fun parent => ⟨entry, member, rfl, parent⟩

/-- A chain that the check follows without complaint does not come back to its start. -/
theorem not_reaches_of_checkChain {start : ClassEntry} {steps : Nat} {chain : List String}
    {current : ClassEntry} (member : current ∈ manifest.classes)
    (accepted : manifest.checkChain start steps chain current = .ok ())
    (once : chain.Nodup) (known : chain ⊆ manifest.classes.map manifest.qualifiedName)
    (full : chain.length + steps = manifest.classes.length + 1)
    (links : LinksInside manifest (manifest.qualifiedName start) chain
      (manifest.qualifiedName current)) :
    ¬ Relation.TransGen (Extends manifest) (manifest.qualifiedName current)
      (manifest.qualifiedName start) := by
  induction steps generalizing chain current with
  | zero =>
      have room := (once.subperm known).length_le
      rw [List.length_map] at room
      omega
  | succ steps inductionHypothesis =>
      intro reaches
      obtain ⟨next, link, later⟩ := Relation.TransGen.head'_iff.1 reaches
      obtain ⟨parent, extended, rfl⟩ := (extends_iff distinct member next).1 link
      obtain ⟨superclass, written, found⟩ := Option.bind_eq_some_iff.1 extended
      simp only [checkChain, written, found] at accepted
      split at accepted
      · cases accepted
      · rename_i apart
        have onward : ∀ other, Extends manifest (manifest.qualifiedName current) other →
            other = manifest.qualifiedName parent := by
          intro other extends'
          obtain ⟨same, there, name⟩ := (extends_iff distinct member other).1 extends'
          rw [extended, Option.some.injEq] at there
          rw [← name, ← there]
        have further : Relation.TransGen (Extends manifest) (manifest.qualifiedName parent)
            (manifest.qualifiedName start) :=
          (Relation.reflTransGen_iff_eq_or_transGen.1 later).resolve_left
            (fun same => apart same.symm)
        split at accepted
        · rename_i again
          rw [List.contains_iff_mem] at again
          exact not_reaches_of_closed (links.closed onward again apart) again further
        · rename_i new
          rw [List.contains_iff_mem] at new
          have parents := parent?_eq_some extended
          obtain ⟨once', known'⟩ := chain_append once known parents new
          refine inductionHypothesis parents accepted once' known' ?_ (links.append onward apart)
            further
          rw [List.length_append, List.length_singleton]
          omega

/-- If no chain is complained of, no class is its own ancestor. -/
theorem not_reaches_of_checkCycles (accepted : manifest.checkCycles = .ok ()) (name : String) :
    ¬ Relation.TransGen (Extends manifest) name name := by
  intro reaches
  obtain ⟨-, ⟨entry, member, rfl, -⟩, -⟩ := Relation.TransGen.head'_iff.1 reaches
  have chain := Outcome.forM_eq_ok_iff.1 accepted entry member
  refine not_reaches_of_checkChain distinct member chain (List.nodup_singleton _) ?_ ?_ ?_ reaches
  · intro other single
    exact List.mem_map.2 ⟨entry, member, (List.mem_singleton.1 single).symm⟩
  · rw [List.length_singleton, Nat.add_comm]
  · intro other single different
    exact absurd (List.mem_singleton.1 single) different

end

/-! ### All checks -/

/-- What is known of an accepted manifest. -/
structure Accepted (manifest : Manifest) : Prop where
  names : (manifest.classes.map manifest.qualifiedName).Nodup
  superclasses : ∀ entry ∈ manifest.classes, ∀ extended, entry.superclass = some extended →
    manifest.hasClass extended.text = true
  identifiers : ∀ entry ∈ manifest.classes, ∀ field ∈ entry.fields,
    Java.nameFault? field.name.text = none
  types : ∀ entry ∈ manifest.classes, ∀ field ∈ entry.fields, manifest.hasKnownType field = true
  fields : ∀ entry ∈ manifest.classes, (entry.fields.map (fun field => field.name.text)).Nodup
  acyclic : ∀ name, ¬ Relation.TransGen (Extends manifest) name name
  stems : ∀ entry ∈ manifest.classes, ((manifest.visibleProperties entry).map Property.stem).Nodup

theorem accepted_of_validate {manifest : Manifest} (valid : manifest.validate = .ok ()) :
    Accepted manifest := by
  unfold validate at valid
  simp only [Outcome.bind_eq_ok_iff] at valid
  obtain ⟨_, _, _, _, _, names, _, classes, _, cycles, clashes⟩ := valid
  have distinct := (checkClassNames_eq_ok_iff.1 names).2.1
  have each : ∀ entry ∈ manifest.classes, manifest.checkSuperclass entry = .ok () ∧
      manifest.checkFields entry.name.text [] entry.fields = .ok () := by
    intro entry member
    have checked := Outcome.forM_eq_ok_iff.1 classes entry member
    obtain ⟨_, superclass, fields⟩ := Outcome.bind_eq_ok_iff.1 checked
    exact ⟨superclass, fields⟩
  constructor
  · exact distinct
  · intro entry member
    exact checkSuperclass_eq_ok_iff.1 (each entry member).1
  · intro entry member field inside
    exact (checkName_eq_ok_iff.1
      ((checkFields_eq_ok_iff.1 (each entry member).2).1 field inside).1).2
  · intro entry member field inside
    exact ((checkFields_eq_ok_iff.1 (each entry member).2).1 field inside).2
  · intro entry member
    exact (checkFields_eq_ok_iff.1 (each entry member).2).2.1
  · exact not_reaches_of_checkCycles distinct cycles
  · intro entry member
    exact (checkStems_eq_ok_iff.1 (Outcome.forM_eq_ok_iff.1 clashes entry member)).1

end BuilderSynthesis.Manifest
