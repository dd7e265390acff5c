import BuilderSynthesis.Text.Blank
import Mathlib.Data.List.TakeWhile

/-!
Contract: what trimming takes away, and what it leaves.

Padding is text of blanks. Trimming takes padding away on both sides and leaves a text with no
blank at either end; `trimBlanks_eq_iff` says that there is only one such text.

Owns: `IsPadding`, `IsTrimmed`.
-/

namespace BuilderSynthesis.Text

def IsPadding (text : List Char) : Prop :=
  ∀ character ∈ text, isBlank character = true

instance (text : List Char) : Decidable (IsPadding text) :=
  -- Decided over the text, never over all characters there are.
  List.decidableBAll (isBlank · = true) text

/-- Neither the first character nor the last is blank. -/
def IsTrimmed (text : List Char) : Prop :=
  (∀ first ∈ text.head?, isBlank first = false) ∧ ∀ last ∈ text.getLast?, isBlank last = false

theorem isPadding_nil : IsPadding [] :=
  fun _ member => nomatch member

theorem IsPadding.append {first second : List Char} (one : IsPadding first)
    (two : IsPadding second) : IsPadding (first ++ second) :=
  List.forall_mem_append.2 ⟨one, two⟩

theorem IsPadding.reverse {text : List Char} (padding : IsPadding text) :
    IsPadding text.reverse := by
  intro character member
  exact padding character (List.mem_reverse.1 member)

/-- Text without blanks is trimmed. -/
theorem isTrimmed_of_forall {text : List Char}
    (solid : ∀ character ∈ text, isBlank character = false) : IsTrimmed text :=
  ⟨fun first there => solid first (List.mem_of_mem_head? there),
    fun last there => solid last (List.mem_of_mem_getLast? there)⟩

/-! ### One side -/

theorem dropBlanks_append {padding : List Char} (blank : IsPadding padding) (text : List Char) :
    dropBlanks (padding ++ text) = dropBlanks text :=
  List.dropWhile_append_of_pos blank

theorem dropBlanks_of_head {text : List Char}
    (first : ∀ first ∈ text.head?, isBlank first = false) : dropBlanks text = text := by
  cases text with
  | nil => rfl
  | cons character rest =>
      have solid := first character rfl
      simp [dropBlanks, solid]

theorem exists_dropBlanks (text : List Char) :
    ∃ padding, IsPadding padding ∧ text = padding ++ dropBlanks text ∧
      ∀ first ∈ (dropBlanks text).head?, isBlank first = false := by
  refine ⟨text.takeWhile isBlank, fun character member => List.mem_takeWhile_imp member,
    List.takeWhile_append_dropWhile.symm, fun first there => ?_⟩
  have stops := List.head?_dropWhile_not isBlank text
  unfold dropBlanks at there
  rw [Option.mem_def.1 there] at stops
  simpa using stops

theorem dropTrailingBlanks_append {padding : List Char} (blank : IsPadding padding)
    (text : List Char) : dropTrailingBlanks (text ++ padding) = dropTrailingBlanks text := by
  unfold dropTrailingBlanks
  rw [List.reverse_append, dropBlanks_append blank.reverse]

theorem dropTrailingBlanks_of_last {text : List Char}
    (last : ∀ last ∈ text.getLast?, isBlank last = false) : dropTrailingBlanks text = text := by
  unfold dropTrailingBlanks
  rw [dropBlanks_of_head, List.reverse_reverse]
  simpa using last

theorem exists_dropTrailingBlanks (text : List Char) :
    ∃ padding, IsPadding padding ∧ text = dropTrailingBlanks text ++ padding ∧
      ∀ last ∈ (dropTrailingBlanks text).getLast?, isBlank last = false := by
  obtain ⟨padding, blank, parts, solid⟩ := exists_dropBlanks text.reverse
  refine ⟨padding.reverse, blank.reverse, ?_, ?_⟩
  · unfold dropTrailingBlanks
    rw [← List.reverse_append, ← parts, List.reverse_reverse]
  · simpa [dropTrailingBlanks] using solid

/-! ### Both sides -/

/-- Trimming gives the one trimmed text that has padding around it. -/
theorem trimBlanks_eq_iff {text core : List Char} :
    trimBlanks text = core ↔
      IsTrimmed core ∧ ∃ before after, IsPadding before ∧ IsPadding after ∧
        text = before ++ core ++ after := by
  constructor
  · rintro rfl
    obtain ⟨before, blankBefore, whole, first⟩ := exists_dropBlanks text
    obtain ⟨after, blankAfter, rest, last⟩ := exists_dropTrailingBlanks (dropBlanks text)
    refine ⟨⟨fun character there => first character ?_, last⟩, before, after, blankBefore,
      blankAfter, ?_⟩
    · -- What is first after both steps was first after the one at the front.
      have here : (dropTrailingBlanks (dropBlanks text)).head? = some character := there
      rw [rest, List.head?_append, here]
      rfl
    · rw [List.append_assoc, trimBlanks, ← rest, ← whole]
  · rintro ⟨⟨first, last⟩, before, after, blankBefore, blankAfter, rfl⟩
    unfold trimBlanks
    rw [List.append_assoc, dropBlanks_append blankBefore]
    cases core with
    | nil =>
        have nothing : dropBlanks after = [] := List.dropWhile_eq_nil_iff.2 blankAfter
        rw [List.nil_append, nothing]
        rfl
    | cons character rest =>
        have starts : ∀ other ∈ (character :: rest ++ after).head?, isBlank other = false := first
        rw [dropBlanks_of_head starts, dropTrailingBlanks_append blankAfter,
          dropTrailingBlanks_of_last last]

theorem trimBlanks_padded {before core after : List Char} (blankBefore : IsPadding before)
    (trimmed : IsTrimmed core) (blankAfter : IsPadding after) :
    trimBlanks (before ++ core ++ after) = core :=
  trimBlanks_eq_iff.2 ⟨trimmed, before, after, blankBefore, blankAfter, rfl⟩

end BuilderSynthesis.Text
