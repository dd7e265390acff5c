import BuilderSynthesis.Manifest.Reading
import BuilderSynthesis.Proofs.Outcome

/-!
Contract: a manifest that was read is accepted as it stands.

Reading checks a manifest before its classes know where their names are. No check looks at
that, so the manifest that is handed on passes all checks too.
-/

namespace BuilderSynthesis.Manifest

section

variable (manifest : Manifest) (file source : String)

def located : Manifest :=
  { manifest with classes := manifest.classes.map (ClassEntry.located file source) }

theorem findClass?_located (name : String) :
    (manifest.located file source).findClass? name =
      (manifest.findClass? name).map (ClassEntry.located file source) := by
  unfold findClass? located
  rw [List.find?_map]
  rfl

theorem hasClass_located (name : String) :
    (manifest.located file source).hasClass name = manifest.hasClass name := by
  unfold hasClass
  rw [findClass?_located, Option.isSome_map]

theorem parent?_located (entry : ClassEntry) :
    (manifest.located file source).parent? (entry.located file source) =
      (manifest.parent? entry).map (ClassEntry.located file source) := by
  unfold parent?
  rw [Option.map_bind]
  change (entry.superclass.bind fun extended =>
    (manifest.located file source).findClass? extended.text) = _
  congr 1
  funext extended
  exact findClass?_located manifest file source extended.text

theorem checkClassNames_located (seen : List (String × Toml.Span)) (entries : List ClassEntry) :
    (manifest.located file source).checkClassNames seen
        (entries.map (ClassEntry.located file source)) =
      manifest.checkClassNames seen entries := by
  induction entries generalizing seen with
  | nil => rfl
  | cons entry rest inductionHypothesis =>
      have name : (manifest.located file source).qualifiedName (entry.located file source) =
          manifest.qualifiedName entry := rfl
      rw [List.map_cons, checkClassNames, checkClassNames, name]
      simp only [inductionHypothesis]
      rfl

theorem checkFields_located (className : String) (seen : List Marked) (fields : List FieldEntry) :
    (manifest.located file source).checkFields className seen fields =
      manifest.checkFields className seen fields := by
  have types : ∀ field, (manifest.located file source).hasKnownType field =
      manifest.hasKnownType field := by
    intro field
    unfold hasKnownType isKnownElement
    simp only [hasClass_located]
  induction fields generalizing seen with
  | nil => rfl
  | cons field rest inductionHypothesis =>
      rw [checkFields, checkFields]
      simp only [inductionHypothesis, types]

theorem checkClass_located (entry : ClassEntry) :
    (manifest.located file source).checkClass (entry.located file source) =
      manifest.checkClass entry := by
  have superclass : (manifest.located file source).checkSuperclass (entry.located file source) =
      manifest.checkSuperclass entry := by
    unfold checkSuperclass
    simp only [hasClass_located]
    rfl
  unfold checkClass
  rw [superclass, checkFields_located]
  rfl

theorem checkChain_located (start : ClassEntry) (steps : Nat) (chain : List String)
    (current : ClassEntry) :
    (manifest.located file source).checkChain (start.located file source) steps chain
        (current.located file source) =
      manifest.checkChain start steps chain current := by
  induction steps generalizing chain current with
  | zero => rfl
  | succ steps inductionHypothesis =>
      rw [checkChain, checkChain]
      rw [show (current.located file source).superclass = current.superclass from rfl]
      cases current.superclass with
      | none => rfl
      | some extended =>
          simp only [findClass?_located]
          cases manifest.findClass? extended.text with
          | none => rfl
          | some parent =>
              simp only [Option.map_some, inductionHypothesis]
              rfl

theorem lineage_located (steps : Nat) (entry : ClassEntry) :
    (manifest.located file source).lineage steps (entry.located file source) =
      (manifest.lineage steps entry).map (ClassEntry.located file source) := by
  induction steps generalizing entry with
  | zero => rfl
  | succ steps inductionHypothesis =>
      rw [lineage, lineage, List.map_cons, parent?_located]
      cases manifest.parent? entry with
      | none => rfl
      | some parent => simp only [Option.map_some, inductionHypothesis]

theorem visibleProperties_located (entry : ClassEntry) :
    (manifest.located file source).visibleProperties (entry.located file source) =
      manifest.visibleProperties entry := by
  have length : (manifest.located file source).classes.length = manifest.classes.length :=
    List.length_map _
  unfold visibleProperties
  rw [length, lineage_located, ← List.map_reverse, List.flatMap_map]
  rfl

theorem forM_located {check other : ClassEntry → Checked} (entries : List ClassEntry)
    (same : ∀ entry, check (entry.located file source) = other entry) :
    (entries.map (ClassEntry.located file source)).forM check = entries.forM other := by
  induction entries with
  | nil => rfl
  | cons entry rest inductionHypothesis =>
      change (check (entry.located file source) >>= fun _ =>
        (rest.map (ClassEntry.located file source)).forM check) =
          (other entry >>= fun _ => rest.forM other)
      rw [same, inductionHypothesis]

/-- Where names stand makes no difference to what is accepted. -/
theorem validate_located : (manifest.located file source).validate = manifest.validate := by
  have names : (manifest.located file source).checkClassNames []
      (manifest.located file source).classes = manifest.checkClassNames [] manifest.classes :=
    checkClassNames_located manifest file source [] manifest.classes
  have classes : (manifest.located file source).classes.forM
      (manifest.located file source).checkClass = manifest.classes.forM manifest.checkClass :=
    forM_located file source manifest.classes (checkClass_located manifest file source)
  have cycles : (manifest.located file source).checkCycles = manifest.checkCycles := by
    unfold checkCycles
    apply forM_located file source manifest.classes
    intro entry
    have length : (manifest.located file source).classes.length = manifest.classes.length :=
      List.length_map _
    rw [length]
    exact checkChain_located manifest file source entry _ _ entry
  have clashes : (manifest.located file source).checkPropertyClashes =
      manifest.checkPropertyClashes := by
    unfold checkPropertyClashes
    apply forM_located file source manifest.classes
    intro entry
    rw [visibleProperties_located]
  unfold validate
  rw [names, classes, cycles, clashes]
  rfl

end

/-- A manifest that was read passes all checks. -/
theorem validate_of_read {file source : String} {toml : Toml.Reader} {manifest : Manifest}
    (accepted : read file source toml = .ok manifest) : manifest.validate = .ok () := by
  unfold read at accepted
  obtain ⟨decoded, -, rest⟩ := Outcome.bind_eq_ok_iff.1 accepted
  obtain ⟨_, valid, same⟩ := Outcome.bind_eq_ok_iff.1 rest
  cases same
  exact (validate_located decoded file source).trans valid

end BuilderSynthesis.Manifest
