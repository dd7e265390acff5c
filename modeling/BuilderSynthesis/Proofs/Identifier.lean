import BuilderSynthesis.Builder.Property
import BuilderSynthesis.Proofs.Lowered
import BuilderSynthesis.Proofs.Validated

/-!
Contract: names that a Java program can use, and names made of them.

A dotted name can be used if each of its segments can. So the parts of a usable dotted name are
usable, and one that is put together from usable parts is usable too. The name of a setter begins
with a word that no reserved word begins with.

Owns: `isUsablePath_append_iff`, `IsUsable.isUsablePath`, `isUsablePath_qualifyIn`,
`LowersTo.isUsablePath` and `isUsable_setterName`.
-/

namespace BuilderSynthesis

namespace Text

/-- Where a text is cut once by hand, both parts can be cut on their own. -/
theorem split_append_cons (separator : Char) (text rest : List Char) :
    split separator (text ++ separator :: rest) = split separator text ++ split separator rest := by
  induction text with
  | nil => simp [split]
  | cons character text inductionHypothesis =>
      rw [List.cons_append]
      simp only [split]
      split
      · rw [inductionHypothesis, List.cons_append]
      · cases segments : split separator text with
        | nil => exact absurd segments (split_ne_nil separator text)
        | cons first others => simp only [inductionHypothesis, segments, List.cons_append]

theorem split_of_not_mem {separator : Char} {text : List Char} (absent : separator ∉ text) :
    split separator text = [text] := by
  induction text with
  | nil => rfl
  | cons character text inductionHypothesis =>
      rw [List.mem_cons, not_or] at absent
      simp only [split, if_neg (Ne.symm absent.1), inductionHypothesis absent.2]

/-- What is not a separator is in a segment. -/
theorem mem_split {separator character : Char} {text : List Char} (member : character ∈ text) :
    character = separator ∨ ∃ segment ∈ split separator text, character ∈ segment := by
  rw [← join_split separator text] at member
  generalize split separator text = segments at member ⊢
  fun_induction join separator segments with
  | case1 => cases member
  | case2 only => exact .inr ⟨only, List.mem_singleton_self only, member⟩
  | case3 first second others inductionHypothesis =>
      rcases List.mem_append.1 member with here | later
      · exact .inr ⟨first, List.mem_cons_self, here⟩
      · rcases List.mem_cons.1 later with same | rest
        · exact .inl same
        · refine (inductionHypothesis rest).imp_right ?_
          rintro ⟨segment, inside, there⟩
          exact ⟨segment, List.mem_cons_of_mem first inside, there⟩

theorem dottedSegments_append (name other : String) :
    dottedSegments (name ++ "." ++ other) = dottedSegments name ++ dottedSegments other := by
  unfold dottedSegments
  rw [String.toList_append, String.toList_append, List.append_assoc,
    show ".".toList ++ other.toList = '.' :: other.toList from rfl, split_append_cons,
    List.map_append]

theorem dottedSegments_of_not_mem {name : String} (plain : '.' ∉ name.toList) :
    dottedSegments name = [name] := by
  unfold dottedSegments
  rw [split_of_not_mem plain, List.map_singleton, String.ofList_toList]

theorem afterLastDot_mem (name : String) : afterLastDot name ∈ dottedSegments name := by
  have nonempty := split_ne_nil '.' name.toList
  unfold afterLastDot dottedSegments
  rw [List.getLast?_eq_some_getLast nonempty]
  exact List.mem_map_of_mem (List.getLast_mem nonempty)

end Text

namespace Java

instance (name : String) : Decidable (IsIdentifier name) :=
  decidable_of_iff (nameFault? name = none) nameFault?_eq_none_iff

instance (name : String) : Decidable (IsUsable name) :=
  inferInstanceAs (Decidable (_ ∧ _))

theorem isIdentifierPart_of_start {character : Char} (start : isIdentifierStart character = true) :
    isIdentifierPart character = true := by
  unfold isIdentifierStart at start
  unfold isIdentifierPart Char.isAlphanum
  simp only [Bool.or_eq_true] at start ⊢
  exact start.imp_left (Or.imp_left Or.inl)

theorem IsIdentifier.parts {name : String} (identifier : IsIdentifier name) :
    ∀ character ∈ name.toList, isIdentifierPart character = true := by
  obtain ⟨first, rest, characters, start, parts⟩ := identifier
  rw [characters]
  exact List.forall_mem_cons.2 ⟨isIdentifierPart_of_start start, parts⟩

/-- Characters that no identifier has are not in one. -/
theorem IsIdentifier.not_mem {name : String} (identifier : IsIdentifier name) {character : Char}
    (foreign : isIdentifierPart character = false) : character ∉ name.toList := by
  intro member
  rw [identifier.parts character member] at foreign
  cases foreign

theorem isIdentifierStart_lt {character : Char} (start : isIdentifierStart character = true) :
    character.toNat < 128 := by
  unfold isIdentifierStart Char.isAlpha Char.isUpper Char.isLower at start
  simp only [Bool.or_eq_true, Bool.and_eq_true, decide_eq_true_eq, beq_iff_eq] at start
  rcases start with ((⟨_, upper⟩ | ⟨_, lower⟩) | same) | same
  · exact Nat.lt_of_le_of_lt (UInt32.le_iff_toNat_le.1 upper) (by decide)
  · exact Nat.lt_of_le_of_lt (UInt32.le_iff_toNat_le.1 lower) (by decide)
  · rw [same]; decide
  · rw [same]; decide

theorem isIdentifierPart_lt {character : Char} (part : isIdentifierPart character = true) :
    character.toNat < 128 := by
  unfold isIdentifierPart Char.isAlphanum at part
  by_cases start : isIdentifierStart character = true
  · exact isIdentifierStart_lt start
  · have digit : character.isDigit = true := by
      unfold isIdentifierStart at start
      simp only [Bool.or_eq_true, not_or, Bool.not_eq_true] at part start
      simpa [start] using part
    unfold Char.isDigit at digit
    simp only [Bool.and_eq_true, decide_eq_true_eq] at digit
    exact Nat.lt_of_le_of_lt (UInt32.le_iff_toNat_le.1 digit.2) (by decide)

theorem isIdentifierPart_toUpper {character : Char} (start : isIdentifierStart character = true) :
    isIdentifierPart character.toUpper = true := by
  have ascii : ∀ code < 128, isIdentifierStart (Char.ofNat code) = true →
      isIdentifierPart (Char.ofNat code).toUpper = true := by
    decide
  have small := isIdentifierStart_lt start
  rw [← Char.ofNat_toNat character] at start ⊢
  exact ascii character.toNat small start

end Java

namespace Builder

/-- The setter of a field that is named by an identifier is named by one. -/
theorem isIdentifier_setterName {field : String} (identifier : Java.IsIdentifier field) :
    Java.IsIdentifier (setterName field) := by
  obtain ⟨first, rest, characters, start, parts⟩ := identifier
  have stem : Text.capitalized (first :: rest) = first.toUpper :: rest := by
    rw [Text.capitalized, Text.upperCase, if_pos (Java.isIdentifierStart_lt start),
      List.singleton_append]
  have word : Java.IsIdentifier "with" := by
    decide
  refine ⟨'w', ['i', 't', 'h'] ++ first.toUpper :: rest, ?_, by decide, ?_⟩
  · unfold setterName Schema.propertyStem
    rw [characters, stem, String.toList_append]
    simp only [String.toList_ofList]
    rfl
  · refine List.forall_mem_append.2 ⟨?_, List.forall_mem_cons.2 ⟨?_, parts⟩⟩
    · exact fun character member => word.parts character (List.mem_cons_of_mem 'w' member)
    · exact Java.isIdentifierPart_toUpper start

theorem isReserved_setterName (field : String) : Java.isReserved (setterName field) = false := by
  have none' : ∀ word ∈ "_" :: Java.keywords, ¬ "with".toList <+: word.toList := by
    decide
  have begins : "with".toList <+: (setterName field).toList := by
    unfold setterName
    rw [String.toList_append]
    exact List.prefix_append _ _
  unfold Java.isReserved Java.isKeyword
  rw [Bool.or_eq_false_iff, ← Bool.not_eq_true, List.contains_iff_mem, beq_eq_false_iff_ne]
  constructor
  · exact fun member => none' _ (List.mem_cons_of_mem _ member) begins
  · intro same
    exact none' _ (same ▸ List.mem_cons_self) begins

theorem isUsable_setterName {field : String} (identifier : Java.IsIdentifier field) :
    Java.IsUsable (setterName field) :=
  ⟨isIdentifier_setterName identifier, isReserved_setterName field⟩

end Builder

namespace Manifest

open Java (IsUsable)

theorem isUsablePath_append_iff {name other : String} :
    IsUsablePath (name ++ "." ++ other) ↔ IsUsablePath name ∧ IsUsablePath other := by
  unfold IsUsablePath
  rw [Text.dottedSegments_append, List.forall_mem_append]

/-- The class of a usable dotted name has a usable simple name. -/
theorem IsUsablePath.afterLastDot {name : String} (path : IsUsablePath name) :
    IsUsable (Text.afterLastDot name) :=
  path _ (Text.afterLastDot_mem name)

end Manifest

namespace Java

/-- A usable name is a usable dotted name of one segment. -/
theorem IsUsable.isUsablePath {name : String} (usable : IsUsable name) :
    Manifest.IsUsablePath name := by
  have plain : '.' ∉ name.toList := usable.1.not_mem (by decide)
  unfold Manifest.IsUsablePath
  rw [Text.dottedSegments_of_not_mem plain]
  exact List.forall_mem_singleton.2 usable

end Java

namespace Manifest

/-- A usable name is usable in a usable package, and in an empty one. -/
theorem isUsablePath_qualifyIn {package : Option String} {name : String}
    (packages : ∀ known, package = some known → known.isEmpty = true ∨ IsUsablePath known)
    (path : IsUsablePath name) : IsUsablePath (qualifyIn package name) := by
  unfold qualifyIn
  cases package with
  | none => exact path
  | some known =>
      dsimp only
      split
      · exact path
      · rename_i inside
        rw [Bool.or_eq_true, not_or] at inside
        refine isUsablePath_append_iff.2 ⟨?_, path⟩
        exact (packages known rfl).resolve_left inside.2

/-- The classes of a well-formed manifest have usable qualified names. -/
theorem LowersTo.isUsablePath {manifest : Manifest} {hierarchy : Schema.Hierarchy}
    (lowers : LowersTo manifest hierarchy) (wellFormed : manifest.WellFormed) :
    ∀ dataClass ∈ hierarchy.classes, IsUsablePath dataClass.name := by
  intro dataClass known
  obtain ⟨entry, member, stands⟩ := Lists.exists_of_mem_forall₂ lowers.classes known
  rw [stands.name]
  exact isUsablePath_qualifyIn wellFormed.package (wellFormed.classNames entry member)

end Manifest

end BuilderSynthesis
