import BuilderSynthesis.Java.Identifier
import BuilderSynthesis.Proofs.CodeUnits

/-!
Contract: the tokens that Java makes of a text.

After its Unicode escapes are translated, a text is read one code unit after the other. A string
literal ends at the first quotation mark that is not escaped, has no line terminator in it, and
stands for what its escapes mean; three quotation marks open something else. A point after the
digits of a number belongs to the number, which is then no integer. Beyond ASCII every code unit
counts as a letter; which of them Java admits makes no difference to where a word ends.

Owns: `Token`, `Scan` and `tokens?`; `literal_is_one_token`, what is read from a literal.

Does not own: comments, characters in single quotation marks, numbers that are no decimal
integers, and operators that the expressions of method bodies do not need.
-/

namespace BuilderSynthesis.Java

/-- A token of an expression. -/
inductive Token where
  | name (word : List Nat)
  | keyword (word : String)
  | integer (value : Nat)
  | string (contents : List Nat)
  | sign (character : Char)
  /-- The sign of equality, which consists of two characters. -/
  | equal
deriving DecidableEq, Repr

/-! ### Classes of code units -/

def isWordStart (unit : Nat) : Bool :=
  128 ≤ unit || isIdentifierStart (Char.ofNat unit)

def isWordPart (unit : Nat) : Bool :=
  128 ≤ unit || isIdentifierPart (Char.ofNat unit)

def isDecimal (unit : Nat) : Bool :=
  '0'.toNat ≤ unit && unit ≤ '9'.toNat

def isOctal (unit : Nat) : Bool :=
  '0'.toNat ≤ unit && unit ≤ '7'.toNat

/-- Code units between tokens. -/
def isSpacing (unit : Nat) : Bool :=
  [' ', '\t', '\n', '\r', '\x0c'].any (·.toNat = unit)

def signs : List Char := ['(', ')', ',', '.', '<', '>', '[', ']', '?', ':']

/-- Words that mean something of their own only where a type or a statement is expected. -/
def contextualWords : List String := ["var", "record", "yield"]

def reservedWords : List String := "_" :: keywords.filter (· ∉ contextualWords)

def wordToken (word : List Nat) : Token :=
  match reservedWords.find? (fun reserved => units reserved = word) with
  | some reserved => .keyword reserved
  | none => .name word

def decimalValue (digits : List Nat) : Nat :=
  digits.foldl (fun value digit => 10 * value + (digit - '0'.toNat)) 0

/-- The least number beyond the integers of 32 bits. -/
def integerBound : Nat := 2147483648

/-- Digits as a token. A zero starts no longer number, which would be octal. -/
def integer? (digits : List Nat) : Option Token :=
  if digits.head? = some '0'.toNat ∧ digits.length ≠ 1 ∨ integerBound ≤ decimalValue digits then
    none
  else
    some (.integer (decimalValue digits))

/-! ### Scanning -/

/-- Where a string literal stands. -/
inductive Escaping where
  | plain
  /-- After a backslash. -/
  | started
  /-- After an octal digit, where so many more can follow. -/
  | octal (value room : Nat)
deriving DecidableEq

/-- What has been read of the token at hand. -/
inductive Scan where
  | between
  | word (letters : List Nat)
  | number (digits : List Nat)
  /-- One sign of the two that mean equality. -/
  | equals
  /-- The quotation mark that a literal starts with. -/
  | opened
  /-- Contents of a literal. -/
  | quoted (contents : List Nat) (escaping : Escaping)
  /-- Two quotation marks with nothing between them. -/
  | emptied
deriving DecidableEq

/-- The tokens that a code unit completes, and where the scan stands after it. -/
abbrev Advance := Option (List Token × Scan)

/-- Tokens before those of a scan. -/
def Advance.after (earlier : List Token) (advance : Advance) : Advance :=
  advance.map fun result => (earlier ++ result.1, result.2)

def scanStart (unit : Nat) : Advance :=
  if isSpacing unit then some ([], .between)
  else if isWordStart unit then some ([], .word [unit])
  else if isDecimal unit then some ([], .number [unit])
  else if unit = '"'.toNat then some ([], .opened)
  else if unit = '='.toNat then some ([], .equals)
  else (signs.find? (·.toNat = unit)).map fun sign => ([.sign sign], .between)

/-- The code unit that a letter means after a backslash. -/
def escape? (unit : Nat) : Option Nat :=
  ([('b', '\x08'), ('s', ' '), ('t', '\t'), ('n', '\n'), ('f', '\x0c'), ('r', '\r'), ('"', '"'),
    ('\'', '\''), ('\\', '\\')].find? (·.1.toNat = unit)).map (·.2.toNat)

/-- A code unit of a literal, outside escapes. -/
def scanPlain (contents : List Nat) (unit : Nat) : Advance :=
  if unit = '"'.toNat then some ([.string contents], .between)
  else if unit = '\\'.toNat then some ([], .quoted contents .started)
  else if unit = '\n'.toNat ∨ unit = '\r'.toNat then none
  else some ([], .quoted (contents ++ [unit]) .plain)

def scanQuoted (contents : List Nat) (unit : Nat) : Escaping → Advance
  | .plain => scanPlain contents unit
  | .started =>
      if isOctal unit then
        let room := if unit ≤ '3'.toNat then 2 else 1
        some ([], .quoted contents (.octal (unit - '0'.toNat) room))
      else
        (escape? unit).map fun meant => ([], .quoted (contents ++ [meant]) .plain)
  | .octal value room =>
      if isOctal unit ∧ 0 < room then
        some ([], .quoted contents (.octal (8 * value + (unit - '0'.toNat)) (room - 1)))
      else
        scanPlain (contents ++ [value]) unit

namespace Scan

/-- The tokens of what has been read, if the text ends here. -/
def finish : Scan → Option (List Token)
  | .between => some []
  | .word letters => some [wordToken letters]
  | .number digits => (integer? digits).map ([·])
  | .emptied => some [.string []]
  | _ => none

def step (unit : Nat) : Scan → Advance
  | .between => scanStart unit
  | .word letters =>
      if isWordPart unit then some ([], .word (letters ++ [unit]))
      else Advance.after [wordToken letters] (scanStart unit)
  | .number digits =>
      if isDecimal unit then some ([], .number (digits ++ [unit]))
      else if isWordPart unit ∨ unit = '.'.toNat then none
      else (integer? digits).bind fun token => Advance.after [token] (scanStart unit)
  | .equals => if unit = '='.toNat then some ([.equal], .between) else none
  | .opened => if unit = '"'.toNat then some ([], .emptied) else scanPlain [] unit
  | .quoted contents escaping => scanQuoted contents unit escaping
  | .emptied =>
      if unit = '"'.toNat then none else Advance.after [.string []] (scanStart unit)

/-- The tokens that code units complete one after the other, and where the scan stands then. -/
def run (scan : Scan) : List Nat → Advance
  | [] => some ([], scan)
  | unit :: rest =>
      (scan.step unit).bind fun result => Advance.after result.1 (result.2.run rest)

end Scan

def scanAll (text : List Nat) : Option (List Token) :=
  (Scan.between.run text).bind fun result => result.2.finish.map (result.1 ++ ·)

def tokens? (text : String) : Option (List Token) :=
  (translate (.copying 0) (units text)).bind scanAll

/-! ### One part after the other -/

theorem Advance.after_nil (advance : Advance) : Advance.after [] advance = advance := by
  cases advance <;> simp [Advance.after]

theorem Advance.after_append (first second : List Token) (advance : Advance) :
    Advance.after (first ++ second) advance =
      Advance.after first (Advance.after second advance) := by
  cases advance <;> simp [Advance.after]

namespace Scan

theorem run_append (scan : Scan) (first second : List Nat) :
    scan.run (first ++ second) =
      (scan.run first).bind fun result => Advance.after result.1 (result.2.run second) := by
  induction first generalizing scan with
  | nil => simp [run, Advance.after_nil]
  | cons unit rest inductionHypothesis =>
      rw [List.cons_append, run, run]
      cases scan.step unit with
      | none => rfl
      | some result =>
          simp only [Option.bind_some, inductionHypothesis]
          cases result.2.run rest with
          | none => rfl
          | some later => exact (Advance.after_append result.1 later.1 (later.2.run second)).symm

/-- What is read up to a place does not depend on what follows. -/
theorem run_append_of_run {scan later : Scan} {first : List Nat} {earlier : List Token}
    (reads : scan.run first = some (earlier, later)) (second : List Nat) :
    scan.run (first ++ second) = Advance.after earlier (later.run second) := by
  rw [run_append, reads, Option.bind_some]

/-- Code units that are collected one by one are all collected. -/
theorem run_collects {collecting : List Nat → Scan} {text : List Nat}
    (each : ∀ unit ∈ text, ∀ before,
      (collecting before).step unit = some ([], collecting (before ++ [unit])))
    (before : List Nat) :
    (collecting before).run text = some ([], collecting (before ++ text)) := by
  induction text generalizing before with
  | nil => rw [run, List.append_nil]
  | cons unit rest inductionHypothesis =>
      rw [List.forall_mem_cons] at each
      rw [run, each.1, Option.bind_some, inductionHypothesis each.2, Advance.after_nil,
        List.append_assoc, List.singleton_append]

end Scan

/-! ### Literals -/

/-- Code units that are not written with a backslash are contents as they are. -/
theorem run_plain {text : List Nat}
    (plain : ∀ unit ∈ text, unit ∉ ['"', '\\', '\n', '\r'].map Char.toNat)
    (contents : List Nat) :
    (Scan.quoted contents .plain).run text = some ([], .quoted (contents ++ text) .plain) := by
  apply @Scan.run_collects fun contents => .quoted contents .plain
  intro unit member before
  have apart : unit ≠ 34 ∧ unit ≠ 92 ∧ unit ≠ 10 ∧ unit ≠ 13 := by simpa using plain unit member
  simp [Scan.step, scanQuoted, scanPlain, apart]

/-- What a character is written as in a literal is read as the character. -/
theorem run_literalCharacter (contents : List Nat) (character : Char) :
    (Scan.quoted contents .plain).run ((literalCharacter character).flatMap unitsOf) =
      some ([], .quoted (contents ++ unitsOf character) .plain) := by
  rcases literalCharacter_cases character with ⟨same, apart⟩ | escaped
  · rw [same, List.flatMap_singleton]
    apply run_plain
    intro unit member special
    obtain ⟨other, inside, code⟩ := List.mem_map.1 special
    have ascii : ∀ other ∈ ['"', '\\', '\n', '\r'], other.toNat < 128 := by simp
    have different : character ≠ other := by
      rintro rfl
      simp_all
    exact unitsOf_ne (ascii other inside) different unit member code.symm
  · simp only [List.mem_cons, Prod.mk.injEq, List.not_mem_nil, or_false] at escaped
    rcases escaped with ⟨rfl, same⟩ | ⟨rfl, same⟩ | ⟨rfl, same⟩ | ⟨rfl, same⟩ | ⟨rfl, same⟩ <;>
      rw [same] <;> rfl

theorem run_literalCharacters (contents : List Nat) (characters : List Char) :
    (Scan.quoted contents .plain).run ((characters.flatMap literalCharacter).flatMap unitsOf) =
      some ([], .quoted (contents ++ characters.flatMap unitsOf) .plain) := by
  induction characters generalizing contents with
  | nil => simp [Scan.run]
  | cons character rest inductionHypothesis =>
      rw [List.flatMap_cons, List.flatMap_append,
        Scan.run_append_of_run (run_literalCharacter contents character), Advance.after_nil,
        inductionHypothesis, List.flatMap_cons, List.append_assoc]

/-- What is not written as a quotation mark opens the contents of a literal. -/
theorem run_opened {unit : Nat} (other : unit ≠ '"'.toNat) (rest : List Nat) :
    Scan.opened.run (unit :: rest) = (Scan.quoted [] .plain).run (unit :: rest) := by
  rw [Scan.run, Scan.run, Scan.step, if_neg other]
  rfl

theorem head_literalCharacter (character : Char) :
    ∃ unit rest, (literalCharacter character).flatMap unitsOf = unit :: rest ∧
      unit ≠ '"'.toNat := by
  rcases literalCharacter_cases character with ⟨same, apart⟩ | escaped
  · rw [same, List.flatMap_singleton]
    cases written : unitsOf character with
    | nil => exact absurd written (by simpa using unitsOf_append_ne_nil character [])
    | cons unit rest =>
        refine ⟨unit, rest, rfl, ?_⟩
        have other : character ≠ '"' := by
          rintro rfl
          simp at apart
        exact unitsOf_ne (by decide) other unit (by simp [written])
  · simp only [List.mem_cons, Prod.mk.injEq, List.not_mem_nil, or_false] at escaped
    rcases escaped with ⟨-, same⟩ | ⟨-, same⟩ | ⟨-, same⟩ | ⟨-, same⟩ | ⟨-, same⟩ <;>
      exact ⟨'\\'.toNat, _, by rw [same]; rfl, by decide⟩

/-- A literal is read up to its end. -/
theorem run_literal (text : String) :
    Scan.between.run (units (literal text)) =
      if text = "" then some ([], .emptied) else some ([.string (units text)], .between) := by
  have opening : Scan.between.run ['"'.toNat] = some ([], .opened) := rfl
  rw [literal, units_ofList, List.flatMap_cons, List.flatMap_append,
    show unitsOf '"' = ['"'.toNat] from rfl, Scan.run_append_of_run opening, Advance.after_nil]
  split
  case isTrue empty =>
    subst empty
    rfl
  case isFalse content =>
    have closing : ∀ contents, (Scan.quoted contents .plain).run (['"'].flatMap unitsOf) =
        some ([.string contents], .between) := fun _ => rfl
    have inner := Scan.run_append_of_run (run_literalCharacters [] text.toList)
      (['"'].flatMap unitsOf)
    rw [closing, Advance.after_nil, List.nil_append] at inner
    rw [units, ← inner]
    cases characters : text.toList with
    | nil => exact absurd (String.toList_eq_nil_iff.1 characters) content
    | cons character rest =>
        obtain ⟨unit, others, written, other⟩ := head_literalCharacter character
        rw [List.flatMap_cons, List.flatMap_append, written, List.cons_append, List.cons_append,
          run_opened other]

/-- A string literal is one token of Java, however the string reads: it has no Unicode escapes,
and its end is the end of its text. What it stands for is the string and no other. -/
theorem literal_is_one_token (text : String) :
    translate (.copying 0) (units (literal text)) = some (units (literal text)) ∧
      ∃ contents, tokens? (literal text) = some [.string contents] ∧
        ∀ other, units other = contents ↔ other = text := by
  have inert := (isInert_literal text).translate_eq
  refine ⟨inert, units text, ?_, ?_⟩
  · rw [tokens?, inert, Option.bind_some, scanAll, run_literal]
    by_cases empty : text = ""
    · simp [empty, Scan.finish, units]
    · simp [empty, Scan.finish]
  · intro other
    exact units_injective.eq_iff

end BuilderSynthesis.Java
