import BuilderSynthesis.Proofs.Distinctness
import BuilderSynthesis.Proofs.Grammar
import BuilderSynthesis.Proofs.Lines

/-!
Contract: the tokens of the parts that expressions are written with.

The last token of a text may go on with what follows it: a word with more letters, digits with a
point. So a part of a text has its tokens on its own only up to a sign or a space. What follows a
name or a type in an expression is always one of them; a point ends everything but a number.

Owns: `Spells` and `Closes`; `isLegalName`, `typeTokens`, `spells_typeText` and
`isCreated_typeTokens_iff`.
-/

namespace BuilderSynthesis.Java

open Code (TypeRef)
open Schema (Primitive)

/-! ### Where tokens end -/

theorem Advance.bind_after (earlier : List Token) (advance : Advance) (rest : List Nat) :
    ((Advance.after earlier advance).bind fun result =>
        Advance.after result.1 (result.2.run rest)) =
      Advance.after earlier
        (advance.bind fun result => Advance.after result.1 (result.2.run rest)) := by
  cases advance with
  | none => rfl
  | some result => exact Advance.after_append earlier result.1 (result.2.run rest)

/-- Whether a code unit is no part of a word or a number and no quotation mark. -/
def isBreak (unit : Nat) : Bool :=
  !isWordPart unit && !isDecimal unit && unit != '"'.toNat

namespace Scan

/-- Whether digits have been read, which a point would go on with. -/
def isNumber : Scan → Bool
  | .number _ => true
  | _ => false

/-- What can be the end of a text is ended by a break, but a number not by a point. -/
theorem step_of_finish {scan : Scan} {pending : List Token} (ends : scan.finish = some pending)
    {unit : Nat} (breaks : isBreak unit = true)
    (point : unit = '.'.toNat → scan.isNumber = false) :
    scan.step unit = Advance.after pending (scanStart unit) := by
  simp only [isBreak, Bool.and_eq_true, Bool.not_eq_true', bne_iff_ne] at breaks
  obtain ⟨⟨apart, digit⟩, quote⟩ := breaks
  cases scan with
  | between =>
      cases ends
      rw [Advance.after_nil]
      rfl
  | word letters =>
      cases ends
      simp [step, apart]
  | number digits =>
      have other : unit ≠ '.'.toNat := fun same => Bool.noConfusion (point same)
      obtain ⟨token, value, rfl⟩ := Option.map_eq_some_iff.1 ends
      simp only [step, digit, apart, other, value, Bool.false_eq_true, or_self, if_false,
        Option.bind_some]
  | emptied =>
      cases ends
      simp only [step, if_neg quote]
  | equals | opened | quoted => cases ends

end Scan

/-- The tokens of a text, of which the last may go on. -/
def Spells (text : List Nat) (tokens : List Token) (isNumber : Bool) : Prop :=
  ∃ earlier scan pending, Scan.between.run text = some (earlier, scan) ∧
    scan.finish = some pending ∧ earlier ++ pending = tokens ∧ scan.isNumber = isNumber

/-- The tokens of a text, of which none goes on. -/
def Closes (text : List Nat) (tokens : List Token) : Prop :=
  Scan.between.run text = some (tokens, .between)

instance (text : List Nat) (tokens : List Token) : Decidable (Closes text tokens) :=
  inferInstanceAs (Decidable (_ = _))

theorem closes_nil : Closes [] [] :=
  rfl

theorem Closes.spells {text : List Nat} {tokens : List Token} (closes : Closes text tokens) :
    Spells text tokens false :=
  ⟨tokens, .between, [], closes, rfl, List.append_nil tokens, rfl⟩

theorem Spells.scanAll_eq {text : List Nat} {tokens : List Token} {isNumber : Bool}
    (spelled : Spells text tokens isNumber) : scanAll text = some tokens := by
  obtain ⟨earlier, scan, pending, runs, ends, rfl, -⟩ := spelled
  rw [scanAll, runs, Option.bind_some, ends, Option.map_some]

theorem Closes.append {first second : List Nat} {tokens others : List Token}
    (closes : Closes first tokens) (closesToo : Closes second others) :
    Closes (first ++ second) (tokens ++ others) := by
  unfold Closes at *
  rw [Scan.run_append_of_run closes, closesToo]
  rfl

theorem Closes.append_spells {first second : List Nat} {tokens others : List Token}
    {isNumber : Bool} (closes : Closes first tokens) (spelled : Spells second others isNumber) :
    Spells (first ++ second) (tokens ++ others) isNumber := by
  obtain ⟨earlier, scan, pending, runs, ends, rfl, same⟩ := spelled
  refine ⟨tokens ++ earlier, scan, pending, ?_, ends, List.append_assoc .., same⟩
  rw [Scan.run_append_of_run closes, runs]
  rfl

/-- The tokens of a text that ends whatever is before it. -/
def Delimits (text : List Nat) (tokens : List Token) : Prop :=
  text.head?.any (fun unit => isBreak unit && unit != '.'.toNat) = true ∧ Closes text tokens

instance (text : List Nat) (tokens : List Token) : Decidable (Delimits text tokens) :=
  inferInstanceAs (Decidable (_ ∧ _))

section

variable {text : List Nat} {tokens : List Token} {isNumber : Bool}
  (spelled : Spells text tokens isNumber)

include spelled

theorem Spells.append_closes {unit : Nat} {rest : List Nat} {others : List Token}
    (breaks : isBreak unit = true) (point : unit = '.'.toNat → isNumber = false)
    (closes : Closes (unit :: rest) others) :
    Closes (text ++ unit :: rest) (tokens ++ others) := by
  obtain ⟨earlier, scan, pending, runs, ends, rfl, rfl⟩ := spelled
  unfold Closes at *
  rw [Scan.run, Scan.step] at closes
  rw [Scan.run_append_of_run runs, Scan.run, Scan.step_of_finish ends breaks point,
    Advance.bind_after, closes, ← Advance.after_append]
  rfl

theorem Spells.delimited {rest : List Nat} {others : List Token} (delimits : Delimits rest others) :
    Closes (text ++ rest) (tokens ++ others) := by
  obtain ⟨start, closes⟩ := delimits
  cases rest with
  | nil => cases start
  | cons unit rest =>
      simp only [List.head?_cons, Option.any_some, Bool.and_eq_true, bne_iff_ne] at start
      exact spelled.append_closes start.1 (fun same => absurd same start.2) closes

/-- A point ends what is before it, but no digits. -/
theorem Spells.pointed (noNumber : isNumber = false) :
    Closes (text ++ units ".") (tokens ++ [.sign '.']) :=
  spelled.append_closes (by decide) (fun _ => noNumber) (by decide)

end

/-! ### What can be scanned -/

/-- Scanning gets to the end of a text. -/
def Scanned (text : List Nat) : Prop :=
  (Scan.between.run text).isSome = true

theorem Scanned.of_scanAll {text : List Nat} {tokens : List Token}
    (scanned : scanAll text = some tokens) : Scanned text := by
  obtain ⟨result, reads, -⟩ := Option.bind_eq_some_iff.1 scanned
  rw [Scanned, reads, Option.isSome_some]

theorem Scanned.left {first second : List Nat} (scanned : Scanned (first ++ second)) :
    Scanned first := by
  unfold Scanned at *
  rw [Scan.run_append] at scanned
  cases reads : Scan.between.run first with
  | none =>
      rw [reads] at scanned
      cases scanned
  | some result => rfl

theorem Scanned.right {first second : List Nat} {tokens : List Token}
    (scanned : Scanned (first ++ second)) (closes : Closes first tokens) : Scanned second := by
  unfold Scanned at *
  rwa [Scan.run_append_of_run closes, Advance.after, Option.isSome_map] at scanned

/-- Digits and a point are no integer and no start of anything else. -/
theorem Scanned.no_number {text : List Nat} {tokens : List Token} {isNumber : Bool}
    (scanned : Scanned (text ++ units ".")) (spelled : Spells text tokens isNumber) :
    isNumber = false := by
  obtain ⟨earlier, scan, pending, runs, -, -, rfl⟩ := spelled
  unfold Scanned at scanned
  rw [Scan.run_append_of_run runs, Advance.after, Option.isSome_map] at scanned
  cases scan with
  | number digits =>
      have stuck : (Scan.number digits).run (units ".") = none := rfl
      rw [stuck] at scanned
      cases scanned
  | _ => rfl

/-! ### Names -/

/-- Whether Java admits a name. Beyond ASCII every character counts as a letter. -/
def isLegalName (name : String) : Bool :=
  match units name with
  | [] => false
  | first :: rest => isWordStart first && rest.all isWordPart && !reservedWords.contains name

theorem isSpacing_of_isWordStart {unit : Nat} (start : isWordStart unit = true) :
    isSpacing unit = false := by
  have ascii : ∀ unit < 128, isWordStart unit = true → isSpacing unit = false := by decide
  by_cases small : unit < 128
  · exact ascii unit small start
  · simp [isSpacing]
    omega

theorem isLegalName_iff {name : String} :
    isLegalName name = true ↔ ∃ first rest, units name = first :: rest ∧
      isWordStart first = true ∧ (∀ unit ∈ rest, isWordPart unit = true) ∧
        name ∉ reservedWords := by
  unfold isLegalName
  cases units name with
  | nil => simp
  | cons first rest => simp [and_assoc]

/-- A name that is not reserved is no keyword. -/
theorem wordToken_units {name : String} (free : name ∉ reservedWords) :
    wordToken (units name) = .name (units name) := by
  have unknown : reservedWords.find? (fun reserved => units reserved = units name) = none := by
    rw [List.find?_eq_none]
    intro reserved member same
    rw [decide_eq_true_eq, units_injective.eq_iff] at same
    exact free (same ▸ member)
  rw [wordToken, unknown]

theorem run_name {name : String} (legal : isLegalName name = true) :
    Scan.between.run (units name) = some ([], .word (units name)) := by
  obtain ⟨first, rest, written, start, parts, -⟩ := isLegalName_iff.1 legal
  have later := @Scan.run_collects .word rest (fun unit member _ => if_pos (parts unit member))
    [first]
  rw [written, Scan.run, Scan.step, scanStart, isSpacing_of_isWordStart start,
    if_neg Bool.false_ne_true, if_pos start, Option.bind_some, later]
  rfl

theorem spells_name {name : String} (legal : isLegalName name = true) :
    Spells (units name) [.name (units name)] false := by
  obtain ⟨_, _, -, -, -, free⟩ := isLegalName_iff.1 legal
  exact ⟨[], .word (units name), [wordToken (units name)], run_name legal, rfl,
    by rw [wordToken_units free]; rfl, rfl⟩

/-- A name has no backslashes. -/
theorem isInert_name {name : String} (legal : isLegalName name = true) : IsInert (units name) := by
  have foreign : isWordPart '\\'.toNat = false ∧ isWordStart '\\'.toNat = false := by decide
  obtain ⟨first, rest, written, start, parts, -⟩ := isLegalName_iff.1 legal
  rw [written]
  apply IsInert.of_forall
  intro unit member same
  subst same
  rcases List.mem_cons.1 member with same | inside
  · rw [← same, foreign.2] at start
    cases start
  · rw [parts _ inside] at foreign
    cases foreign.1

theorem units_ascii {characters : List Char}
    (ascii : ∀ character ∈ characters, character.toNat < 128) :
    characters.flatMap unitsOf = characters.map Char.toNat := by
  induction characters with
  | nil => rfl
  | cons character rest inductionHypothesis =>
      rw [List.forall_mem_cons] at ascii
      have small : character.toNat < 0x10000 := by omega
      rw [List.flatMap_cons, unitsOf_small small, inductionHypothesis ascii.2]
      rfl

/-- Every name that a schema can use is one that Java admits. -/
theorem IsUsable.isLegalName {name : String} (usable : IsUsable name) :
    isLegalName name = true := by
  obtain ⟨⟨first, rest, characters, start, parts⟩, free⟩ := usable
  have part := fun character member =>
    isIdentifierPart_lt (parts character member)
  have ascii : ∀ character ∈ first :: rest, character.toNat < 128 :=
    List.forall_mem_cons.2 ⟨isIdentifierStart_lt start, part⟩
  have written : units name = first.toNat :: rest.map Char.toNat := by
    rw [units, characters, units_ascii ascii, List.map_cons]
  have unreserved : name ∉ reservedWords := by
    have known : ∀ word ∈ reservedWords, isReserved word = true := by decide
    intro member
    rw [known name member] at free
    cases free
  have same : ∀ character : Char, Char.ofNat character.toNat = character := Char.ofNat_toNat
  refine isLegalName_iff.2 ⟨_, _, written, by simp [isWordStart, same, start], ?_, unreserved⟩
  rw [List.forall_mem_map]
  intro character member
  simp [isWordPart, same, parts character member]

/-! ### Numbers -/

theorem isDecimal_iff {unit : Nat} :
    isDecimal unit = true ↔ '0'.toNat ≤ unit ∧ unit ≤ '9'.toNat := by
  rw [isDecimal, Bool.and_eq_true, decide_eq_true_eq, decide_eq_true_eq]

theorem lt_of_isDecimal {unit : Nat} (decimal : isDecimal unit = true) : unit < 128 :=
  Nat.lt_of_le_of_lt (isDecimal_iff.1 decimal).2 (by decide)

theorem isDecimal_of_isDigit {character : Char} (digit : character.isDigit = true) :
    isDecimal character.toNat = true := by
  unfold Char.isDigit at digit
  rw [Bool.and_eq_true, decide_eq_true_eq, decide_eq_true_eq] at digit
  exact isDecimal_iff.2
    ⟨UInt32.le_iff_toNat_le.1 digit.1, UInt32.le_iff_toNat_le.1 digit.2⟩

/-- The digits of a number start with a zero only if there are no others. -/
theorem head_toDigits (value : Nat) :
    (Nat.toDigits 10 value).head? = some '0' → (Nat.toDigits 10 value).length = 1 := by
  induction value using Nat.strongRecOn with
  | ind value inductionHypothesis =>
      by_cases small : value < 10
      · rw [Nat.toDigits_of_lt_base small]
        exact fun _ => rfl
      · have split : Nat.toDigits 10 value =
            Nat.toDigits 10 (value / 10) ++ [Nat.digitChar (value % 10)] :=
          Nat.toDigits_of_base_le (by decide) (by omega)
        intro zero
        rw [split, List.head?_append_of_ne_nil _ Nat.toDigits_ne_nil] at zero
        have single := inductionHypothesis (value / 10) (by omega) zero
        -- The only digit of the rest would be a zero, and the rest is at least one.
        obtain ⟨digit, only⟩ := List.length_eq_one_iff.1 single
        have none' := Nat.ofDigitChars_ten_toDigits (n := value / 10)
        rw [only] at zero none'
        rw [Option.some.inj zero] at none'
        simp [Nat.ofDigitChars] at none'
        omega

theorem isDecimal_toDigits (value : Nat) :
    ∀ unit ∈ (Nat.toDigits 10 value).map Char.toNat, isDecimal unit = true := by
  intro unit member
  obtain ⟨character, inside, rfl⟩ := List.mem_map.1 member
  exact isDecimal_of_isDigit
    (Nat.isDigit_of_mem_toDigits (by decide) (by decide) inside)

theorem units_toString (value : Nat) :
    units (toString (value : Int)) = (Nat.toDigits 10 value).map Char.toNat := by
  have ascii : ∀ character ∈ Nat.toDigits 10 value, character.toNat < 128 := by
    intro character member
    exact lt_of_isDecimal (isDecimal_toDigits value _ (List.mem_map_of_mem member))
  have text : (toString (value : Int)).toList = Nat.toDigits 10 value := Nat.toList_repr
  rw [units, text, units_ascii ascii]

theorem isInert_number (value : Nat) : IsInert (units (toString (value : Int))) := by
  have backslash : isDecimal '\\'.toNat = false := by decide
  rw [units_toString]
  apply IsInert.of_forall
  intro unit member same
  rw [← same, isDecimal_toDigits value unit member] at backslash
  cases backslash

/-- Digits mean the number that they are written for. -/
theorem integer?_toDigits {value : Nat} (small : value < integerBound) :
    integer? ((Nat.toDigits 10 value).map Char.toNat) = some (.integer value) := by
  have meant : decimalValue ((Nat.toDigits 10 value).map Char.toNat) = value := by
    rw [decimalValue, List.foldl_map, ← Nat.ofDigitChars_eq_foldl, Nat.ofDigitChars_ten_toDigits]
  have start : ((Nat.toDigits 10 value).map Char.toNat).head? = some '0'.toNat →
      ((Nat.toDigits 10 value).map Char.toNat).length = 1 := by
    rw [List.head?_map, List.length_map, Option.map_eq_some_iff]
    rintro ⟨character, head, same⟩
    exact head_toDigits value (Char.toNat_inj.1 same ▸ head)
  unfold integer?
  rw [meant, if_neg]
  rintro (⟨zero, longer⟩ | large)
  · exact longer (start zero)
  · omega

theorem scanStart_decimal {unit : Nat} (decimal : isDecimal unit = true) :
    scanStart unit = some ([], .number [unit]) := by
  have starts : ∀ unit < 128, isDecimal unit = true →
      scanStart unit = some ([], .number [unit]) := by
    decide
  exact starts unit (lt_of_isDecimal decimal) decimal

theorem spells_number {value : Nat} (small : value < integerBound) :
    Spells (units (toString (value : Int))) [.integer value] true := by
  have decimal := isDecimal_toDigits value
  have meant := integer?_toDigits small
  rw [units_toString]
  cases digits : (Nat.toDigits 10 value).map Char.toNat with
  | nil => exact absurd (List.map_eq_nil_iff.1 digits) Nat.toDigits_ne_nil
  | cons first rest =>
      rw [digits, List.forall_mem_cons] at decimal
      rw [digits] at meant
      have later := @Scan.run_collects .number rest
        (fun unit member _ => if_pos (decimal.2 unit member)) [first]
      refine ⟨[], .number (first :: rest), [.integer value], ?_, ?_, rfl, rfl⟩
      · rw [Scan.run, Scan.step, scanStart_decimal decimal.1, Option.bind_some, later]
        rfl
      · rw [Scan.finish, meant]
        rfl

/-! ### Keywords, literals and fixed texts -/

theorem spells_keyword (word : String) (known : word ∈ reservedWords) :
    Spells (units word) [.keyword word] false := by
  have each : ∀ word ∈ reservedWords,
      Scan.between.run (units word) = some ([], .word (units word)) ∧
        wordToken (units word) = .keyword word := by
    decide +kernel
  obtain ⟨runs, meant⟩ := each word known
  exact ⟨[], .word (units word), [wordToken (units word)], runs, rfl, by rw [meant]; rfl, rfl⟩

theorem spells_literal (text : String) :
    Spells (units (literal text)) [.string (units text)] false := by
  unfold Spells
  rw [run_literal]
  by_cases empty : text = ""
  · subst empty
    exact ⟨[], .emptied, [.string []], rfl, rfl, rfl, rfl⟩
  · exact ⟨[.string (units text)], .between, [], if_neg empty, rfl, rfl, rfl⟩

/-- Text without backslashes has no Unicode escapes. -/
theorem isInert_fixed (text : String) (plain : '\\' ∉ text.toList) : IsInert (units text) := by
  apply IsInert.flatMap
  intro character member
  apply IsInert.of_forall
  exact unitsOf_ne (by decide) (fun same => plain (same ▸ member))

/-! ### Parts with a text between neighbours -/

section

variable {separator first second : String} {rest : List String}

theorem units_joinWith_cons :
    units (Text.joinWith separator (first :: second :: rest)) =
      units first ++ units separator ++ units (Text.joinWith separator (second :: rest)) := by
  rw [Text.joinWith, String.intercalate_cons_cons, units_append, units_append]
  rfl

theorem units_joinWith_single : units (Text.joinWith separator [first]) = units first := by
  rw [Text.joinWith, String.intercalate_singleton]

end

theorem isInert_joinWith {separator : String} {texts : List String}
    (between : IsInert (units separator)) (each : ∀ text ∈ texts, IsInert (units text)) :
    IsInert (units (Text.joinWith separator texts)) := by
  induction texts with
  | nil => exact IsInert.nil
  | cons first rest inductionHypothesis =>
      rw [List.forall_mem_cons] at each
      cases rest with
      | nil =>
          rw [units_joinWith_single]
          exact each.1
      | cons second others =>
          rw [units_joinWith_cons]
          exact (each.1.append between).append (inductionHypothesis each.2)

/-- The tokens of expressions with commas between them. -/
def commaTokens : List (List Token) → List Token
  | [] => []
  | [only] => only
  | first :: second :: rest => first ++ .sign ',' :: commaTokens (second :: rest)

/-- Arguments are ended by the parenthesis that closes them. -/
theorem closes_arguments {texts : List String} {tokens : List (List Token)}
    (spelled : List.Forall₂ (fun text tokens => ∃ isNumber, Spells (units text) tokens isNumber)
      texts tokens) :
    Closes (units (Text.joinWith ", " texts) ++ units ")") (commaTokens tokens ++ [.sign ')']) := by
  induction spelled with
  | nil => decide
  | @cons first tokens texts others here later inductionHypothesis =>
      obtain ⟨isNumber, here⟩ := here
      cases later with
      | nil =>
          rw [units_joinWith_single]
          exact here.delimited (by decide)
      | @cons second tokensToo textsToo othersToo _ _ =>
          have comma : Closes (units first ++ units ", ") (tokens ++ [.sign ',']) :=
            here.delimited (by decide)
          rw [units_joinWith_cons, List.append_assoc]
          simpa [commaTokens] using comma.append inductionHypothesis

theorem closes_super : Closes (units "super.") [.keyword "super", .sign '.'] := by
  decide

/-- The name of a method up to its arguments. -/
theorem closes_called {before : List Nat} {tokens : List Token} (closes : Closes before tokens)
    {method : String} (legal : isLegalName method = true) :
    Closes (before ++ units method ++ units "(")
      (tokens ++ [.name (units method)] ++ [.sign '(']) :=
  (closes.append_spells (spells_name legal)).delimited (by decide)

/-- A list that is tested for null and then passed on. -/
theorem spells_choice {text opening : List Nat} {tokens made : List Token} {isNumber : Bool}
    (spelled : Spells text tokens isNumber) (delimits : Delimits opening made) :
    Spells (text ++ opening ++ text ++ units ")") (tokens ++ made ++ tokens ++ [.sign ')']) false :=
  (((spelled.delimited delimits).append_spells spelled).delimited (by decide)).spells

/-! ### Types -/

/-- The tokens of names with points between them. -/
def pathTokens : List String → List Token
  | [] => []
  | [only] => [.name (units only)]
  | first :: second :: rest => .name (units first) :: .sign '.' :: pathTokens (second :: rest)

def typeTokens (package : Option String) : TypeRef → List Token
  | .primitive .string => [.name (units (primitiveText .string))]
  | .primitive kind => [.keyword (primitiveText kind)]
  | .array element => typeTokens package element ++ [.sign '[', .sign ']']
  | .list (.primitive kind) =>
      [.name (units "List"), .sign '<', .name (units (boxedText kind)), .sign '>']
  | .list element => .name (units "List") :: .sign '<' :: typeTokens package element ++ [.sign '>']
  | .named className => pathTokens (Text.dottedSegments (classText package className))
  | .var parameter => [.name (units parameter)]
  | .unit => [.keyword "void"]

def isLegalType : TypeRef → Bool
  | .array element | .list element => isLegalType element
  | .named className =>
      (Text.dottedSegments className).all isLegalName &&
        !contextualWords.contains (Text.afterLastDot className)
  | .var parameter => isLegalName parameter && !contextualWords.contains parameter
  | _ => true

theorem joinWith_dottedSegments (name : String) :
    Text.joinWith "." (Text.dottedSegments name) = name := by
  have undone : String.toList ∘ String.ofList = id := funext fun _ => String.toList_ofList
  rw [← String.toList_inj, Text.joinWith, String.toList_intercalate, Text.dottedSegments,
    List.map_map, undone, List.map_id]
  exact (Text.join_eq_intercalate '.' _).symm.trans (Text.join_split '.' name.toList)

/-- The text of a class has no names but those of its qualified name. -/
theorem mem_dottedSegments_classText {package : Option String} {className segment : String}
    (member : segment ∈ Text.dottedSegments (classText package className)) :
    segment ∈ Text.dottedSegments className := by
  rcases classText_cases package className with ⟨own, _, _, -, same, -⟩ | ⟨-, same⟩
  · rw [same, Text.dottedSegments_append]
    exact List.mem_append_right _ member
  · exact same ▸ member

theorem dottedSegments_ne_nil (name : String) : Text.dottedSegments name ≠ [] :=
  mt List.map_eq_nil_iff.1 (Text.split_ne_nil '.' name.toList)

theorem spells_path {segments : List String} (nonempty : segments ≠ [])
    (legal : ∀ segment ∈ segments, isLegalName segment = true) :
    Spells (units (Text.joinWith "." segments)) (pathTokens segments) false := by
  fun_induction pathTokens segments with
  | case1 => exact absurd rfl nonempty
  | case2 only =>
      rw [units_joinWith_single]
      exact spells_name (legal only List.mem_cons_self)
  | case3 first second rest inductionHypothesis =>
      rw [List.forall_mem_cons] at legal
      rw [units_joinWith_cons]
      exact ((spells_name legal.1).pointed rfl).append_spells
        (inductionHypothesis (List.cons_ne_nil second rest) legal.2)

/-- What surrounds the element of a list. -/
theorem spells_list {text : List Nat} {tokens : List Token} {isNumber : Bool}
    (spelled : Spells text tokens isNumber) :
    Spells (units "List<" ++ text ++ units ">")
      (.name (units "List") :: .sign '<' :: tokens ++ [.sign '>']) false := by
  have opened : Closes (units "List<") [.name (units "List"), .sign '<'] := by decide
  exact ((opened.append_spells spelled).delimited (by decide)).spells

section

variable (package : Option String) {type : TypeRef} (legal : isLegalType type = true)

include legal

theorem spells_typeText :
    Spells (units (typeText package type)) (typeTokens package type) false := by
  fun_induction typeTokens package type with
  | case1 =>
      have text : isLegalName (primitiveText .string) = true := by decide
      exact spells_name text
  | case2 kind noText =>
      have known : ∀ kind, kind ≠ .string → primitiveText kind ∈ reservedWords := by
        intro kind
        cases kind <;> decide
      exact spells_keyword _ (known kind noText)
  | case3 element inductionHypothesis =>
      rw [typeText, units_append]
      exact ((inductionHypothesis legal).delimited (by decide)).spells
  | case4 kind =>
      have boxed : isLegalName (boxedText kind) = true := by cases kind <;> decide
      rw [typeText, units_append, units_append]
      exact spells_list (spells_name boxed)
  | case5 element notPrimitive inductionHypothesis =>
      rw [typeText, units_append, units_append]
      · exact spells_list (inductionHypothesis legal)
      · exact notPrimitive
  | case6 className =>
      simp only [isLegalType, Bool.and_eq_true, List.all_eq_true] at legal
      have path := spells_path (dottedSegments_ne_nil (classText package className))
        (fun segment member => legal.1 segment (mem_dottedSegments_classText member))
      rwa [joinWith_dottedSegments] at path
  | case7 parameter =>
      simp only [isLegalType, Bool.and_eq_true] at legal
      exact spells_name legal.1
  | case8 => exact spells_keyword "void" (by decide)

/-- The text of a type has no backslashes. -/
theorem isInert_typeText : IsInert (units (typeText package type)) := by
  fun_induction typeText package type with
  | case1 kind => cases kind <;> exact isInert_fixed _ (by decide)
  | case2 element inductionHypothesis =>
      rw [units_append]
      exact (inductionHypothesis legal).append (isInert_fixed _ (by decide))
  | case3 kind => cases kind <;> exact isInert_fixed _ (by decide)
  | case4 element _ inductionHypothesis =>
      rw [units_append, units_append]
      exact ((isInert_fixed _ (by decide)).append (inductionHypothesis legal)).append
        (isInert_fixed _ (by decide))
  | case5 className =>
      simp only [isLegalType, Bool.and_eq_true, List.all_eq_true] at legal
      rw [← joinWith_dottedSegments (classText package className)]
      apply isInert_joinWith (isInert_fixed _ (by decide))
      intro segment member
      exact isInert_name (legal.1 segment (mem_dottedSegments_classText member))
  | case6 parameter =>
      simp only [isLegalType, Bool.and_eq_true] at legal
      exact isInert_name legal.1
  | case7 => exact isInert_fixed _ (by decide)

end

/-! ### Types of new objects -/

/-- Whether a type has values at every level. -/
def isValued : TypeRef → Bool
  | .array element | .list element => isValued element
  | .unit => false
  | _ => true

def typeKind : TypeRef → TypeKind
  | .primitive .string => .reference
  | .primitive _ => .primitive
  | .array _ => .array
  | _ => .reference

def isInstantiable (type : TypeRef) : Bool :=
  isValued type && typeKind type = .reference

theorem isPath_pathTokens {segments : List String} (nonempty : segments ≠ []) :
    IsPath (pathTokens segments) := by
  fun_induction pathTokens segments with
  | case1 => exact absurd rfl nonempty
  | case2 only => exact .single (units only)
  | case3 first second rest inductionHypothesis =>
      exact .cons (units first) (inductionHypothesis (List.cons_ne_nil second rest))

section

variable (package : Option String)

theorem isType_typeTokens {type : TypeRef} (valued : isValued type = true) :
    IsType (typeKind type) (typeTokens package type) := by
  fun_induction typeTokens package type with
  | case1 => exact .path (.single _)
  | case2 kind noText =>
      have known : ∀ kind, kind ≠ .string → primitiveText kind ∈ primitiveWords ∧
          typeKind (.primitive kind) = .primitive := by
        intro kind
        cases kind <;> decide
      obtain ⟨word, same⟩ := known kind noText
      exact same ▸ .primitive word
  | case3 element inductionHypothesis => exact .array (inductionHypothesis valued)
  | case4 kind => exact .generic (.single _) (.path (.single _)) nofun
  | case5 element notPrimitive inductionHypothesis =>
      refine .generic (.single _) (inductionHypothesis valued) ?_
      cases element <;> first | exact absurd rfl (notPrimitive _) | exact nofun
  | case6 className => exact .path (isPath_pathTokens (dottedSegments_ne_nil _))
  | case7 parameter => exact .path (.single _)
  | case8 => cases valued

theorem void_mem_typeTokens {type : TypeRef} (valued : isValued type = false) :
    .keyword "void" ∈ typeTokens package type := by
  fun_induction typeTokens package type with
  | case3 element inductionHypothesis => exact List.mem_append_left _ (inductionHypothesis valued)
  | case5 element notPrimitive inductionHypothesis => simp [inductionHypothesis valued]
  | case8 => exact List.mem_singleton_self _
  | _ => cases valued

/-- Java makes new objects of the types that have constructors, and of no others. -/
theorem isCreated_typeTokens_iff {type : TypeRef} :
    IsCreated (typeTokens package type) ↔ isInstantiable type = true := by
  rw [isInstantiable, Bool.and_eq_true, decide_eq_true_eq]
  constructor
  · intro created
    obtain ⟨⟨word, head⟩, last⟩ := created.ends
    constructor
    · rw [← Bool.not_eq_false]
      intro valued
      exact created.not_mem.2 (void_mem_typeTokens package valued)
    · cases type with
      | primitive kind => cases kind <;> first | rfl | cases head
      | array element => exact absurd (by simp [typeTokens]) last
      | _ => rfl
  · intro instantiable
    have type := isType_typeTokens package instantiable.1
    rw [instantiable.2] at type
    exact .inl type

end

end BuilderSynthesis.Java
