import BuilderSynthesis.Proofs.Identifier
import BuilderSynthesis.Proofs.Trimming

/-!
Contract: a text that is put together from lines has these lines.

A line that ends with a character that is not blank keeps its end when the text is trimmed, and
loses no carriage return when the text is taken apart.

Owns: `EndsSolid`, `IsWord`, `trimEnd_ended` and `lines_joinWith`.
-/

namespace BuilderSynthesis.Text

/-- There is a last character, and it is not blank. -/
def EndsSolid (line : List Char) : Prop :=
  ∃ before last, line = before ++ [last] ∧ isBlank last = false

theorem EndsSolid.append {line : List Char} (ends : EndsSolid line) (start : List Char) :
    EndsSolid (start ++ line) := by
  obtain ⟨before, last, rfl, solid⟩ := ends
  exact ⟨start ++ before, last, (List.append_assoc ..).symm, solid⟩

/-- A text that is not empty and has no blanks. -/
def IsWord (text : String) : Prop :=
  text.toList ≠ [] ∧ ∀ character ∈ text.toList, isBlank character = false

instance (text : String) : Decidable (IsWord text) :=
  -- Decided over the text, never over all characters there are.
  letI := List.decidableBAll (isBlank · = false) text.toList
  inferInstanceAs (Decidable (_ ∧ _))

theorem IsWord.not_mem {text : String} (word : IsWord text) {character : Char}
    (blank : isBlank character = true) : character ∉ text.toList := by
  intro member
  have solid := word.2 character member
  rw [blank] at solid
  cases solid

theorem IsWord.endsSolid {text : String} (word : IsWord text) : EndsSolid text.toList := by
  obtain ⟨nonempty, solid⟩ := word
  exact ⟨text.toList.dropLast, text.toList.getLast nonempty,
    (List.dropLast_concat_getLast nonempty).symm, solid _ (List.getLast_mem nonempty)⟩

/-! ### Joining lines -/

theorem join_eq_intercalate (separator : Char) (segments : List (List Char)) :
    join separator segments = List.intercalate [separator] segments := by
  fun_induction join separator segments with
  | case1 => rfl
  | case2 only => simp [List.intercalate]
  | case3 first second others inductionHypothesis =>
      rw [inductionHypothesis, List.intercalate_cons_cons, List.append_assoc,
        List.singleton_append]

/-- Segments without separators are cut where they were joined. -/
theorem split_join {separator : Char} {segments : List (List Char)} (nonempty : segments ≠ [])
    (plain : ∀ segment ∈ segments, separator ∉ segment) :
    split separator (join separator segments) = segments := by
  fun_induction join separator segments with
  | case1 => exact absurd rfl nonempty
  | case2 only => exact split_of_not_mem (plain only List.mem_cons_self)
  | case3 first second others inductionHypothesis =>
      rw [List.forall_mem_cons] at plain
      rw [split_append_cons, split_of_not_mem plain.1,
        inductionHypothesis (List.cons_ne_nil second others) plain.2, List.singleton_append]

/-- Lines that are ended one by one are joined and ended once. -/
theorem flatMap_ended (separator : Char) {segments : List (List Char)} (nonempty : segments ≠ []) :
    segments.flatMap (fun segment => segment ++ [separator]) =
      join separator segments ++ [separator] := by
  fun_induction join separator segments with
  | case1 => exact absurd rfl nonempty
  | case2 only => simp
  | case3 first second others inductionHypothesis =>
      rw [List.flatMap_cons, inductionHypothesis (List.cons_ne_nil second others)]
      simp only [List.append_assoc, List.cons_append, List.nil_append]

theorem endsSolid_join {separator : Char} {segments : List (List Char)} (nonempty : segments ≠ [])
    (ends : ∀ segment ∈ segments, EndsSolid segment) : EndsSolid (join separator segments) := by
  fun_induction join separator segments with
  | case1 => exact absurd rfl nonempty
  | case2 only => exact ends only List.mem_cons_self
  | case3 first second others inductionHypothesis =>
      rw [List.forall_mem_cons] at ends
      have later := inductionHypothesis (List.cons_ne_nil second others) ends.2
      simpa using later.append (first ++ [separator])

/-- What is in no text and not in the separator is not in the joined text. -/
theorem not_mem_joinWith {separator : String} {texts : List String} {character : Char}
    (apart : character ∉ separator.toList) (absent : ∀ text ∈ texts, character ∉ text.toList) :
    character ∉ (joinWith separator texts).toList := by
  rw [joinWith, String.toList_intercalate]
  induction texts with
  | nil => exact List.not_mem_nil
  | cons first rest inductionHypothesis =>
      rw [List.forall_mem_cons] at absent
      cases rest with
      | nil => simpa [List.intercalate] using absent.1
      | cons second others =>
          have later := inductionHypothesis absent.2
          rw [List.map_cons] at later
          rw [List.map_cons, List.map_cons, List.intercalate_cons_cons]
          simp [absent.1, apart, later]

/-! ### Trimming and taking apart -/

theorem dropTrailingBlanks_ended {text : List Char} (ends : EndsSolid text) :
    dropTrailingBlanks (text ++ ['\n']) = text := by
  obtain ⟨before, last, rfl, solid⟩ := ends
  rw [dropTrailingBlanks_append (List.forall_mem_singleton.2 (by decide)),
    dropTrailingBlanks_of_last]
  intro other there
  rw [List.getLast?_concat, Option.mem_some] at there
  exact there ▸ solid

/-- Of lines that are ended one by one, trimming drops only the last end. -/
theorem trimEnd_ended {texts : List String} (ends : ∀ text ∈ texts, EndsSolid text.toList) :
    trimEnd (String.join (texts.map fun text => text ++ "\n")) = joinWith "\n" texts := by
  rw [← String.toList_inj, trimEnd, String.toList_ofList, joinWith, String.toList_intercalate,
    show "\n".toList = ['\n'] from rfl, ← join_eq_intercalate, String.toList_join,
    List.flatMap_map]
  simp only [String.toList_append, show "\n".toList = ['\n'] from rfl]
  cases texts with
  | nil => rfl
  | cons first rest =>
      have nonempty : (first :: rest).map String.toList ≠ [] := List.cons_ne_nil _ _
      have solid : EndsSolid (join '\n' ((first :: rest).map String.toList)) :=
        endsSolid_join nonempty (List.forall_mem_map.2 ends)
      have ended := flatMap_ended '\n' nonempty
      rw [List.flatMap_map] at ended
      rw [ended, dropTrailingBlanks_ended solid]

theorem closedLines_of_endsSolid {segments : List (List Char)}
    (ends : ∀ segment ∈ segments, EndsSolid segment) : closedLines segments = segments := by
  fun_induction closedLines segments with
  | case1 => rfl
  | case2 last empty =>
      obtain ⟨before, character, same, -⟩ := ends last List.mem_cons_self
      simp [same] at empty
  | case3 last => rfl
  | case4 line next others inductionHypothesis =>
      rw [List.forall_mem_cons] at ends
      obtain ⟨before, last, same, solid⟩ := ends.1
      have kept : dropCarriageReturn line = line := by
        unfold dropCarriageReturn
        rw [same, List.getLast?_concat]
        split
        · rename_i carriage
          rw [Option.some.inj carriage] at solid
          exact absurd solid (by decide)
        · rfl
      rw [kept, inductionHypothesis ends.2]

/-- The lines of joined lines are these lines. -/
theorem lines_joinWith {texts : List String} (unbroken : ∀ text ∈ texts, '\n' ∉ text.toList)
    (ends : ∀ text ∈ texts, EndsSolid text.toList) : lines (joinWith "\n" texts) = texts := by
  unfold lines
  rw [joinWith, String.toList_intercalate, show "\n".toList = ['\n'] from rfl,
    ← join_eq_intercalate]
  cases texts with
  | nil => rfl
  | cons first rest =>
      have plain : ∀ segment ∈ (first :: rest).map String.toList, '\n' ∉ segment := by
        intro segment member
        obtain ⟨text, inside, rfl⟩ := List.mem_map.1 member
        exact unbroken text inside
      have nonempty : (first :: rest).map String.toList ≠ [] := List.cons_ne_nil _ _
      rw [split_join nonempty plain, closedLines_of_endsSolid (List.forall_mem_map.2 ends),
        List.map_map]
      simp

end BuilderSynthesis.Text
