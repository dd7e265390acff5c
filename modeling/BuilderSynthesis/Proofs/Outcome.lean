import Mathlib.Data.List.Forall2

/-!
Contract: what it means for a check or a construction made of parts to succeed.

Each lemma says in terms of the parts when the whole gives a value, for a sequence of
two steps and for a step that is repeated along a list.
-/

namespace BuilderSynthesis.Outcome

theorem bind_eq_ok_iff {first : Except ε α} {next : α → Except ε β} {result : β} :
    (first >>= next) = .ok result ↔ ∃ value, first = .ok value ∧ next value = .ok result := by
  cases first <;> simp [bind, Except.bind]

theorem bind_snd_eq_ok_iff {first : Except ε (α × β)} {result : β} :
    (first >>= fun value => pure value.2) = .ok result ↔ ∃ other, first = .ok (other, result) := by
  rw [bind_eq_ok_iff]
  constructor
  · rintro ⟨⟨other, last⟩, success, same⟩
    cases same
    exact ⟨other, success⟩
  · rintro ⟨other, success⟩
    exact ⟨(other, result), success, rfl⟩

theorem mapError_eq_ok_iff {outcome : Except ε α} {change : ε → δ} {value : α} :
    outcome.mapError change = .ok value ↔ outcome = .ok value := by
  cases outcome <;> simp [Except.mapError]

/-- A check along a list succeeds if it does for every item. -/
theorem forM_eq_ok_iff {check : α → Except ε Unit} {items : List α} :
    items.forM check = .ok () ↔ ∀ item ∈ items, check item = .ok () := by
  induction items with
  | nil => simp [pure, Except.pure]
  | cons item rest inductionHypothesis =>
      change (check item >>= fun _ => rest.forM check) = .ok () ↔ _
      rw [bind_eq_ok_iff, List.forall_mem_cons, ← inductionHypothesis]
      exact ⟨fun ⟨_, first, others⟩ => ⟨first, others⟩, fun ⟨first, others⟩ => ⟨(), first, others⟩⟩

/-- What a check along a list reports is what it reports of the first item that it reports. -/
theorem exists_of_forM_eq_error {check : α → Except ε Unit} {items : List α} {report : ε}
    (reported : items.forM check = .error report) :
    ∃ before item after, items = before ++ item :: after ∧
      (∀ other ∈ before, check other = .ok ()) ∧ check item = .error report := by
  induction items with
  | nil => cases reported
  | cons item rest inductionHypothesis =>
      change (check item >>= fun _ => rest.forM check) = .error report at reported
      cases first : check item with
      | error other =>
          rw [first] at reported
          cases reported
          exact ⟨[], item, rest, rfl, fun _ member => (nomatch member), first⟩
      | ok value =>
          rw [first] at reported
          obtain ⟨before, found, after, rfl, passed, there⟩ := inductionHypothesis reported
          exact ⟨item :: before, found, after, rfl, List.forall_mem_cons.2 ⟨first, passed⟩, there⟩

/-- A construction along a list gives the list of what it gives for each item. -/
theorem mapM_eq_ok_iff {build : α → Except ε β} {items : List α} {results : List β} :
    items.mapM build = .ok results ↔
      List.Forall₂ (fun item result => build item = .ok result) items results := by
  induction items generalizing results with
  | nil => simp [pure, Except.pure, eq_comm]
  | cons item rest inductionHypothesis =>
      rw [List.mapM_cons, bind_eq_ok_iff]
      constructor
      · rintro ⟨first, built, others⟩
        obtain ⟨later, builtLater, same⟩ := bind_eq_ok_iff.1 others
        cases same
        exact .cons built (inductionHypothesis.1 builtLater)
      · rintro ⟨⟩
        rename_i first later built builtLater
        exact ⟨first, built, bind_eq_ok_iff.2 ⟨later, inductionHypothesis.2 builtLater, rfl⟩⟩

/-- A construction along a list succeeds if it does for every item. -/
theorem mapM_succeeds {build : α → Except ε β} {items : List α}
    (each : ∀ item ∈ items, ∃ result, build item = .ok result) :
    ∃ results, items.mapM build = .ok results := by
  induction items with
  | nil => exact ⟨[], rfl⟩
  | cons item rest inductionHypothesis =>
      rw [List.forall_mem_cons] at each
      obtain ⟨first, built⟩ := each.1
      obtain ⟨later, others⟩ := inductionHypothesis each.2
      refine ⟨first :: later, mapM_eq_ok_iff.2 (.cons built (mapM_eq_ok_iff.1 others))⟩

end BuilderSynthesis.Outcome
