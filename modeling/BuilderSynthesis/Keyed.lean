/-!
Contract: values under keys, in the order in which the keys came.

Entries are pairs; of several entries with one key the first counts. `put` gives a
key its value where the key stands, or at the end if it is new. `value?_put` says
that nothing else changes.
-/

namespace BuilderSynthesis.Keyed

def value? [DecidableEq κ] : List (κ × α) → κ → Option α
  | [], _ => none
  | entry :: rest, key => if entry.1 = key then some entry.2 else value? rest key

def put [DecidableEq κ] : List (κ × α) → κ → α → List (κ × α)
  | [], key, value => [(key, value)]
  | entry :: rest, key, value =>
      if entry.1 = key then (key, value) :: rest else entry :: put rest key value

/-- A key that was given a value has it, and every other key has the one it had. -/
theorem value?_put [DecidableEq κ] (entries : List (κ × α)) (key : κ) (value : α) (other : κ) :
    value? (put entries key value) other =
      if other = key then some value else value? entries other := by
  by_cases same : other = key
  · subst same
    induction entries with
    | nil => simp [put, value?]
    | cons entry rest inductionHypothesis =>
        by_cases here : entry.1 = other <;> simp_all [put, value?]
  · have different : key ≠ other := Ne.symm same
    induction entries with
    | nil => simp [put, value?, same, different]
    | cons entry rest inductionHypothesis =>
        by_cases here : entry.1 = key
        · simp [put, value?, here, same, different]
        · by_cases wanted : entry.1 = other <;> simp_all [put, value?]

/-- A key without a value comes last. -/
theorem put_of_not_mem [DecidableEq κ] (entries : List (κ × α)) {key : κ} (value : α)
    (new : key ∉ entries.map Prod.fst) : put entries key value = entries ++ [(key, value)] := by
  induction entries with
  | nil => simp [put]
  | cons entry rest inductionHypothesis =>
      simp only [List.map_cons, List.mem_cons, not_or] at new
      simp [put, Ne.symm new.1, inductionHypothesis new.2]

/-- A key has a value exactly if it is there. -/
theorem value?_isSome_iff [DecidableEq κ] (entries : List (κ × α)) (key : κ) :
    (value? entries key).isSome ↔ key ∈ entries.map Prod.fst := by
  induction entries with
  | nil => simp [value?]
  | cons entry rest inductionHypothesis =>
      rw [List.map_cons, List.mem_cons]
      by_cases here : entry.1 = key
      · simp [value?, here]
      · simp only [value?, here, if_false, inductionHypothesis, Ne.symm here, false_or]

/-- A key is not found exactly if no entry has it. -/
theorem value?_eq_none_iff [DecidableEq κ] (entries : List (κ × α)) (key : κ) :
    value? entries key = none ↔ key ∉ entries.map Prod.fst := by
  rw [← value?_isSome_iff, Option.not_isSome_iff_eq_none]

/-- A value that is found stands under the key. -/
theorem mem_of_value? [DecidableEq κ] {entries : List (κ × α)} {key : κ} {value : α}
    (found : value? entries key = some value) : (key, value) ∈ entries := by
  induction entries with
  | nil => simp [value?] at found
  | cons entry rest inductionHypothesis =>
      by_cases here : entry.1 = key
      · simp only [value?, here, if_true, Option.some.injEq] at found
        exact List.mem_cons.2 (.inl (Prod.ext here.symm found.symm))
      · simp only [value?, here, if_false] at found
        exact List.mem_cons_of_mem entry (inductionHypothesis found)

/-- Where keys are distinct, every value is found under its key. -/
theorem value?_of_mem [DecidableEq κ] {entries : List (κ × α)}
    (distinct : (entries.map Prod.fst).Nodup) {key : κ} {value : α}
    (member : (key, value) ∈ entries) : value? entries key = some value := by
  induction entries with
  | nil => cases member
  | cons entry rest inductionHypothesis =>
      rw [List.map_cons, List.nodup_cons] at distinct
      rcases List.mem_cons.1 member with same | later
      · subst same
        simp [value?]
      · have different : entry.1 ≠ key := fun same =>
          distinct.1 (same ▸ List.mem_map_of_mem later)
        rw [value?, if_neg different, inductionHypothesis distinct.2 later]

/-- What the first entries do not hold is looked for in the others. -/
theorem value?_append [DecidableEq κ] (first second : List (κ × α)) (key : κ) :
    value? (first ++ second) key = (value? first key).or (value? second key) := by
  induction first with
  | nil => rfl
  | cons entry rest inductionHypothesis =>
      rw [List.cons_append, value?, value?]
      by_cases here : entry.1 = key
      · rw [if_pos here, if_pos here, Option.some_or]
      · rw [if_neg here, if_neg here, inductionHypothesis]

/-- Values that are changed are found changed. -/
theorem value?_map [DecidableEq κ] (change : κ → α → β) (entries : List (κ × α)) (key : κ) :
    value? (entries.map (fun entry => (entry.1, change entry.1 entry.2))) key =
      (value? entries key).map (change key) := by
  induction entries with
  | nil => rfl
  | cons entry rest inductionHypothesis =>
      rw [List.map_cons, value?, value?]
      by_cases here : entry.1 = key
      · subst here
        rw [if_pos rfl, if_pos rfl]
        rfl
      · rw [if_neg here, if_neg here, inductionHypothesis]

end BuilderSynthesis.Keyed
