import BuilderSynthesis.Java.ExpressionText

/-!
Contract: source text as the code units that Java reads it in.

A program is read in code units of UTF-16. Before anything else its Unicode escapes are
translated: a backslash begins one if it comes after an even number of backslashes and before the
letter `u`. Text with backslashes only in pairs, of which the second is something else than that
letter, has no such escapes.

Owns: `units`, `translate` and `IsInert`.
-/

namespace BuilderSynthesis.Java

def unitsOf (character : Char) : List Nat :=
  let code := character.toNat
  if code < 0x10000 then
    [code]
  else
    [0xD800 + (code - 0x10000) / 0x400, 0xDC00 + (code - 0x10000) % 0x400]

def units (text : String) : List Nat :=
  text.toList.flatMap unitsOf

@[simp]
theorem units_append (first second : String) :
    units (first ++ second) = units first ++ units second := by
  simp [units]

theorem units_ofList (characters : List Char) :
    units (String.ofList characters) = characters.flatMap unitsOf := by
  rw [units, String.toList_ofList]

/-- Characters of the basic plane are their own code units. -/
theorem unitsOf_small {character : Char} (small : character.toNat < 0x10000) :
    unitsOf character = [character.toNat] := by
  simp [unitsOf, small]

/-- Code units of other characters are surrogates. -/
theorem le_of_mem_unitsOf {character : Char} (large : ¬ character.toNat < 0x10000)
    {unit : Nat} (member : unit ∈ unitsOf character) : 0xD800 ≤ unit := by
  simp only [unitsOf, large, if_false, List.mem_cons, List.not_mem_nil, or_false] at member
  omega

theorem not_surrogate (character : Char) :
    character.toNat < 0xD800 ∨ 0xDFFF < character.toNat ∧ character.toNat < 0x110000 :=
  character.valid

theorem unitsOf_append_ne_nil (character : Char) (rest : List Nat) :
    unitsOf character ++ rest ≠ [] := by
  unfold unitsOf
  dsimp only
  split <;> simp

/-- Characters are told apart by their code units, whatever follows. -/
theorem unitsOf_append_inj {one two : Char} {first second : List Nat}
    (same : unitsOf one ++ first = unitsOf two ++ second) : one = two ∧ first = second := by
  have left := not_surrogate one
  have right := not_surrogate two
  have codes : one.toNat = two.toNat ∧ first = second := by
    unfold unitsOf at same
    dsimp only at same
    split at same <;> split at same <;>
      simp only [List.cons_append, List.nil_append, List.cons.injEq] at same
    · exact same
    · omega
    · omega
    · refine ⟨?_, same.2.2⟩
      have high := same.1
      have low := same.2.1
      omega
  exact ⟨Char.toNat_inj.1 codes.1, codes.2⟩

/-- Texts are told apart by their code units. -/
theorem units_injective : Function.Injective units := by
  have lists : ∀ first second : List Char,
      first.flatMap unitsOf = second.flatMap unitsOf → first = second := by
    intro first
    induction first with
    | nil =>
        intro second same
        cases second with
        | nil => rfl
        | cons character rest =>
            rw [List.flatMap_cons, List.flatMap_nil] at same
            exact absurd same.symm (unitsOf_append_ne_nil character _)
    | cons character rest inductionHypothesis =>
        intro second same
        cases second with
        | nil =>
            rw [List.flatMap_cons, List.flatMap_nil] at same
            exact absurd same (unitsOf_append_ne_nil character _)
        | cons other others =>
            rw [List.flatMap_cons, List.flatMap_cons] at same
            obtain ⟨rfl, tail⟩ := unitsOf_append_inj same
            rw [inductionHypothesis others tail]
  intro one two same
  exact String.toList_injective (lists _ _ same)

/-! ### Unicode escapes -/

/-- Where the translation of Unicode escapes stands. -/
inductive Translating where
  /-- Outside escapes, after so many backslashes. -/
  | copying (backslashes : Nat)
  /-- After the backslash of an escape. -/
  | marked
  /-- After some digits of an escape, with so many left after the next one. -/
  | digits (value left : Nat)

def hexDigit? (unit : Nat) : Option Nat :=
  if '0'.toNat ≤ unit ∧ unit ≤ '9'.toNat then some (unit - '0'.toNat)
  else if 'A'.toNat ≤ unit ∧ unit ≤ 'F'.toNat then some (unit - 'A'.toNat + 10)
  else if 'a'.toNat ≤ unit ∧ unit ≤ 'f'.toNat then some (unit - 'a'.toNat + 10)
  else none

/-- Code units with what Unicode escapes stand for in their place, unless one is malformed. -/
def translate : Translating → List Nat → Option (List Nat)
  | .copying _, [] => some []
  | .marked, [] => none
  | .digits _ _, [] => none
  | .copying backslashes, unit :: rest =>
      if unit = '\\'.toNat then
        if backslashes % 2 = 0 ∧ rest.head? = some 'u'.toNat then
          translate .marked rest
        else
          (translate (.copying (backslashes + 1)) rest).map (unit :: ·)
      else
        (translate (.copying 0) rest).map (unit :: ·)
  | .marked, unit :: rest =>
      if unit = 'u'.toNat then
        translate .marked rest
      else
        match hexDigit? unit with
        | some digit => translate (.digits digit 2) rest
        | none => none
  | .digits value left, unit :: rest =>
      match hexDigit? unit with
      | none => none
      | some digit =>
          if left = 0 then
            (translate (.copying 0) rest).map ((16 * value + digit) :: ·)
          else
            translate (.digits (16 * value + digit) (left - 1)) rest

/-- Text that the translation copies, leaving an even number of backslashes before what follows. -/
def IsInert (text : List Nat) : Prop :=
  ∀ before, before % 2 = 0 → ∃ after, after % 2 = 0 ∧
    ∀ rest, translate (.copying before) (text ++ rest) =
      (translate (.copying after) rest).map (text ++ ·)

namespace IsInert

theorem nil : IsInert [] := by
  intro before even
  exact ⟨before, even, by simp⟩

theorem append {first second : List Nat} (one : IsInert first) (two : IsInert second) :
    IsInert (first ++ second) := by
  intro before even
  obtain ⟨between, stillEven, here⟩ := one before even
  obtain ⟨after, evenAfter, there⟩ := two between stillEven
  refine ⟨after, evenAfter, ?_⟩
  intro rest
  rw [List.append_assoc, here, there, Option.map_map]
  simp [Function.comp_def]

/-- A code unit that is no backslash. -/
theorem single {unit : Nat} (plain : unit ≠ '\\'.toNat) : IsInert [unit] := by
  intro before _
  refine ⟨0, rfl, ?_⟩
  intro rest
  change unit ≠ 92 at plain
  simp [translate, plain]

/-- A backslash and what it makes of a code unit that is not the letter of Unicode escapes. -/
theorem pair {unit : Nat} (other : unit ≠ 'u'.toNat) : IsInert ['\\'.toNat, unit] := by
  intro before even
  have odd : (before + 1) % 2 ≠ 0 := by omega
  change unit ≠ 117 at other
  by_cases backslash : unit = 92
  · refine ⟨before + 1 + 1, by omega, ?_⟩
    intro rest
    simp [translate, backslash, odd, Function.comp_def]
  · refine ⟨0, rfl, ?_⟩
    intro rest
    simp [translate, backslash, other, Function.comp_def]

theorem of_forall {text : List Nat} (plain : ∀ unit ∈ text, unit ≠ '\\'.toNat) :
    IsInert text := by
  induction text with
  | nil => exact nil
  | cons unit rest inductionHypothesis =>
      rw [List.forall_mem_cons] at plain
      exact (single plain.1).append (inductionHypothesis plain.2)

theorem flatMap {texts : List α} {view : α → List Nat}
    (each : ∀ item ∈ texts, IsInert (view item)) :
    IsInert (texts.flatMap view) := by
  induction texts with
  | nil => exact nil
  | cons first rest inductionHypothesis =>
      rw [List.forall_mem_cons] at each
      rw [List.flatMap_cons]
      exact each.1.append (inductionHypothesis each.2)

/-- Inert text has no Unicode escapes. -/
theorem translate_eq {text : List Nat} (inert : IsInert text) :
    translate (.copying 0) text = some text := by
  obtain ⟨after, -, copied⟩ := inert 0 rfl
  simpa [translate] using copied []

end IsInert

/-! ### Literals -/

/-- Characters that are not written as they are have a code unit of their own. -/
theorem unitsOf_ne {character other : Char} (ascii : other.toNat < 128)
    (different : character ≠ other) :
    ∀ unit ∈ unitsOf character, unit ≠ other.toNat := by
  intro unit member same
  by_cases small : character.toNat < 0x10000
  · rw [unitsOf_small small, List.mem_singleton] at member
    exact different (Char.toNat_inj.1 (member.symm.trans same))
  · have large := le_of_mem_unitsOf small member
    omega

/-- A character of a literal is written as it is, or with a backslash and one of five letters. -/
theorem literalCharacter_cases (character : Char) :
    (literalCharacter character = [character] ∧
      character ∉ ['"', '\\', '\n', '\t', '\r']) ∨
    (character, literalCharacter character) ∈
      [('"', ['\\', '"']), ('\\', ['\\', '\\']), ('\n', ['\\', 'n']), ('\t', ['\\', 't']),
        ('\r', ['\\', 'r'])] := by
  unfold literalCharacter
  split <;> simp_all

theorem isInert_literalCharacter (character : Char) :
    IsInert ((literalCharacter character).flatMap unitsOf) := by
  rcases literalCharacter_cases character with ⟨same, plain⟩ | escaped
  · rw [same, List.flatMap_singleton]
    apply IsInert.of_forall
    apply unitsOf_ne (by decide)
    rintro rfl
    simp at plain
  · simp only [List.mem_cons, Prod.mk.injEq, List.not_mem_nil, or_false] at escaped
    rcases escaped with ⟨-, same⟩ | ⟨-, same⟩ | ⟨-, same⟩ | ⟨-, same⟩ | ⟨-, same⟩ <;> rw [same] <;>
      exact IsInert.pair (by decide)

/-- A literal has no Unicode escapes. -/
theorem isInert_literal (text : String) : IsInert (units (literal text)) := by
  have quote : IsInert ['"'.toNat] := IsInert.single (by decide)
  have inner : IsInert ((text.toList.flatMap literalCharacter).flatMap unitsOf) := by
    rw [List.flatMap_assoc]
    exact IsInert.flatMap fun character _ => isInert_literalCharacter character
  rw [literal, units_ofList, List.flatMap_cons, List.flatMap_append]
  exact quote.append (inner.append quote)

end BuilderSynthesis.Java
