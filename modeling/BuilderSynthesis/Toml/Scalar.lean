import BuilderSynthesis.Toml.Layout
import BuilderSynthesis.Toml.Value

/-!
Contract: the unquoted values of a document.

A word is a boolean, an integer in one of four bases, a floating-point number, or
a date, a time or both. Underscores stand between two digits. A leading zero makes
a decimal integer none, and a date must be one of the calendar.

An integer with a base but no digits, and a decimal one that goes on after an
underscore with more than digits, are integers all the same: they have no value,
which is for those to notice who look for it.
-/

namespace BuilderSynthesis.Toml

/-- Characters that end an unquoted value, blanks apart. -/
def isDelimiter (character : Char) : Bool :=
  character == '=' || character == ',' || character == '[' || character == ']' ||
    character == '\x7b' || character == '\x7d' || character == '#' || character == '\r' ||
    character == '\n'

/-- Marks that begin a quoted text. -/
def isQuotationMark (character : Char) : Bool :=
  character == '"' || character == '\''

def isDigitOf (base : Nat) (character : Char) : Bool :=
  match base with
  | 2 => character == '0' || character == '1'
  | 8 => '0' ≤ character && character ≤ '7'
  | 16 =>
      character.isDigit || ('a' ≤ character && character ≤ 'f') ||
        ('A' ≤ character && character ≤ 'F')
  | _ => character.isDigit

/-- Whether every underscore stands between two digits. The flag says whether a digit
was read just before. -/
def separatesDigits (isDigit : Char → Bool) : Bool → List Char → Bool
  | _, [] => true
  | _, ['_'] => false
  | afterDigit, '_' :: next :: rest =>
      afterDigit && isDigit next && separatesDigits isDigit true rest
  | _, character :: rest => separatesDigits isDigit (isDigit character) rest

/-- Whether a text holds nothing but digits of a base and underscores. -/
def isDigits (base : Nat) (text : List Char) : Bool :=
  text.all (fun character => character == '_' || isDigitOf base character)

/-- Whether a text is digits of a base, at least one, and underscores. -/
def isNumeral (base : Nat) (text : List Char) : Bool :=
  isDigits base text && text.any (isDigitOf base)

def digitValue (digit : Char) : Nat :=
  if digit.isDigit then digit.toNat - 48
  else if digit.toNat < 97 then digit.toNat - 55
  else digit.toNat - 87

def numeralValue (base : Nat) (numeral : List Char) : Nat :=
  (numeral.filter (fun digit => digit != '_')).foldl
    (fun value digit => base * value + digitValue digit) 0

def numeralValue? (base : Nat) (text : List Char) : Option Nat :=
  if isNumeral base text then some (numeralValue base text) else none

def splitSign : List Char → Option Char × List Char
  | '+' :: rest => (some '+', rest)
  | '-' :: rest => (some '-', rest)
  | text => (none, text)

/-- The integer that the characters after the prefix of a base are. -/
def readBased? (base : Nat) (text : List Char) : Option Value :=
  if isDigits base text && separatesDigits (isDigitOf base) false text then
    some (.integer ((numeralValue? base text).map Int.ofNat))
  else
    none

/-- The decimal integer that a word is. Its first digits are all of it or an underscore
follows them; then come characters that make it neither a floating-point number nor two
words. -/
def readDecimal? (word : List Char) : Option Value :=
  let (sign, magnitude) := splitSign word
  let tail := magnitude.dropWhile Char.isDigit
  let isWhole := tail.all (fun character =>
    character != ' ' && character != '.' && character != 'e' && character != 'E')
  if magnitude = ['0'] ∨
      (magnitude ≠ [] ∧ magnitude.head? ≠ some '0' ∧ (tail = [] ∨ tail.head? = some '_') ∧
        isWhole ∧ separatesDigits (isDigitOf 16) false magnitude) then
    some (.integer ((numeralValue? 10 magnitude).map (fun value =>
      if sign = some '-' then -Int.ofNat value else Int.ofNat value)))
  else
    none

def readInteger? : List Char → Option Value
  | '0' :: 'x' :: text => readBased? 16 text
  | '0' :: 'o' :: text => readBased? 8 text
  | '0' :: 'b' :: text => readBased? 2 text
  | word => readDecimal? word

/-- Whether digits times a power of ten stay below every number that rounds to infinity. -/
def isFiniteDecimal (digits : Nat) (power : Int) : Bool :=
  digits == 0 || power + (Nat.toDigits 10 digits).length < -400 ||
    (power + (Nat.toDigits 10 digits).length < 400 &&
      digits * Nat.pow 10 power.toNat <
        (Nat.pow 2 1024 - Nat.pow 2 970) * Nat.pow 10 (-power).toNat)

/-- Whether a numeral has a digit after a zero at its front. -/
def hasLeadingZero (numeral : List Char) : Bool :=
  numeral.head? == some '0' && 2 ≤ (numeral.filter Char.isDigit).length

/-- The floating-point number that a word is: a numeral with a fraction, an exponent or
both, or the name of a value that is no number or not finite. -/
def readFloat? (word : List Char) : Option Value :=
  let magnitude := (splitSign word).2
  let isMark := fun character => character == 'e' || character == 'E'
  let number := magnitude.takeWhile (fun character => !isMark character)
  let marked := magnitude.dropWhile (fun character => !isMark character)
  let whole := number.takeWhile (fun character => character != '.')
  let pointed := number.dropWhile (fun character => character != '.')
  let fraction := pointed.drop 1
  let exponent := splitSign (marked.drop 1)
  if magnitude = ['i', 'n', 'f'] ∨ magnitude = ['n', 'a', 'n'] then
    some (.float true)
  else if (pointed ≠ [] ∨ marked ≠ []) ∧ isNumeral 10 whole ∧ !hasLeadingZero whole ∧
      (pointed = [] ∨ isNumeral 10 fraction) ∧ (marked = [] ∨ isNumeral 10 exponent.2) ∧
      separatesDigits Char.isDigit false magnitude then
    let size : Int := numeralValue 10 exponent.2
    let places : Int := (fraction.filter Char.isDigit).length
    let power := (if exponent.1 = some '-' then -size else size) - places
    some (.float (isFiniteDecimal (numeralValue 10 (whole ++ fraction)) power))
  else
    none

/-- The value of a number of decimal digits at the front, and what follows them. -/
def takeDigits? (count : Nat) (text : List Char) : Option (Nat × List Char) :=
  let digits := text.take count
  if digits.length = count ∧ digits.all Char.isDigit then
    some (numeralValue 10 digits, text.drop count)
  else
    none

/-- What follows a character that is expected at the front. -/
def expect? (expected : Char) : List Char → Option (List Char)
  | [] => none
  | character :: rest => if character = expected then some rest else none

def isLeapYear (year : Nat) : Bool :=
  year % 4 == 0 && (year % 100 != 0 || year % 400 == 0)

def daysOfMonth (year month : Nat) : Nat :=
  if month == 2 then
    if isLeapYear year then 29 else 28
  else if month == 4 || month == 6 || month == 9 || month == 11 then
    30
  else
    31

def skipDate? (text : List Char) : Option (List Char) := do
  let (year, text) ← takeDigits? 4 text
  let (month, text) ← takeDigits? 2 (← expect? '-' text)
  let (day, text) ← takeDigits? 2 (← expect? '-' text)
  if 1 ≤ month ∧ month ≤ 12 ∧ 1 ≤ day ∧ day ≤ daysOfMonth year month then
    return text
  else
    none

def skipFraction? : List Char → Option (List Char)
  | '.' :: rest =>
      match rest.takeWhile Char.isDigit with
      | [] => none
      | _ :: _ => some (rest.dropWhile Char.isDigit)
  | text => some text

/-- What follows a time of day at the front; the seconds may be left out. -/
def skipTime? (text : List Char) : Option (List Char) := do
  let (hour, text) ← takeDigits? 2 text
  let (minute, text) ← takeDigits? 2 (← expect? ':' text)
  if 23 < hour ∨ 59 < minute then
    none
  else
    match text with
    | ':' :: rest => do
        let (second, text) ← takeDigits? 2 rest
        if 60 < second then none else skipFraction? text
    | text => some text

/-- Whether a text is empty or the offset of a time zone. -/
def isZone : List Char → Bool
  | [] => true
  | ['Z'] => true
  | ['z'] => true
  | sign :: rest =>
      (sign == '+' || sign == '-') &&
        (do
          let (hour, text) ← takeDigits? 2 rest
          let (minute, text) ← takeDigits? 2 (← expect? ':' text)
          return text.isEmpty && decide (hour ≤ 23 ∧ minute ≤ 59)).getD false

def isDateTime (word : List Char) : Bool :=
  match skipDate? word with
  | some [] => true
  | some (separator :: rest) =>
      (separator == 'T' || separator == 't' || separator == ' ') &&
        ((skipTime? rest).map isZone).getD false
  | none =>
      match skipTime? word with
      | some rest => rest.isEmpty
      | none => false

def readWord? (word : List Char) : Option Value :=
  if word = ['t', 'r', 'u', 'e'] then
    some (.boolean true)
  else if word = ['f', 'a', 'l', 's', 'e'] then
    some (.boolean false)
  else
    match readInteger? word, readFloat? word with
    | some value, _ => some value
    | none, some value => some value
    | none, none => if isDateTime word then some .dateTime else none

/-- The word at the front, after blanks that were read before, and what follows it. Blanks
belong to a word if more of it comes after them, which a quotation mark does not. -/
def takeWord (blanks : List Char) : List Char → List Char × List Char
  | [] => ([], blanks)
  | character :: rest =>
      if isBlank character then
        takeWord (blanks ++ [character]) rest
      else if isDelimiter character || (isQuotationMark character && !blanks.isEmpty) then
        ([], blanks ++ character :: rest)
      else
        let taken := takeWord [] rest
        (blanks ++ character :: taken.1, taken.2)

end BuilderSynthesis.Toml
