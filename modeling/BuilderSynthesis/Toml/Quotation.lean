import BuilderSynthesis.Toml.Layout

/-!
Contract: quoted text and the text it stands for.

Double quotes admit escapes, single quotes take every character as it is. One
quote on each side keeps to one line; three on each side span lines, drop a line
end right after the opening, and may be preceded by two more quotes at the close.
A backslash at the end of a line drops that line end and the blanks and line ends
after it.

A reader goes through the characters once and carries what an earlier character
left pending.
-/

namespace BuilderSynthesis.Toml

inductive QuoteStyle where
  /-- Double quotes, with escapes. -/
  | basic
  /-- Single quotes, without escapes. -/
  | literal
deriving DecidableEq, Repr

def QuoteStyle.delimiter : QuoteStyle → Char
  | .basic => '"'
  | .literal => '\''

/-- What the characters read so far leave to be settled. -/
inductive Pending where
  | nothing
  /-- A backslash. -/
  | escape
  /-- The digits of a code point: how many are missing, and the value of those read. -/
  | hex (missing code : Nat)
  /-- A run of delimiters inside a text that spans lines. -/
  | quotes (count : Nat)
  /-- A carriage return. -/
  | carriage
  /-- A backslash and blanks after it, before the line end. -/
  | foldBlanks
  /-- A carriage return after a backslash or between dropped line ends. -/
  | foldCarriage
  /-- A backslash and the line end after it. -/
  | foldLines
deriving DecidableEq, Repr

def escapedCharacter? (letter : Char) : Option Char :=
  match letter with
  | 'b' => some '\x08'
  | 't' => some '\t'
  | 'n' => some '\n'
  | 'f' => some '\x0c'
  | 'r' => some '\r'
  | 'e' => some '\x1b'
  | '"' => some '"'
  | '\\' => some '\\'
  | _ => none

/-- How many digits follow the letter of a code-point escape. -/
def hexWidth? (letter : Char) : Option Nat :=
  match letter with
  | 'x' => some 2
  | 'u' => some 4
  | 'U' => some 8
  | _ => none

def hexValue? (digit : Char) : Option Nat :=
  if digit.isDigit then
    some (digit.toNat - 48)
  else if 'a' ≤ digit && digit ≤ 'f' then
    some (digit.toNat - 87)
  else if 'A' ≤ digit && digit ≤ 'F' then
    some (digit.toNat - 55)
  else
    none

def character? (code : Nat) : Option Char :=
  if code.isValidChar then some (Char.ofNat code) else none

/-- The text that one more character of an escape gives, and what is then pending. -/
def escapeStep : Pending → Char → Option (List Char × Pending)
  | .escape, character =>
      match escapedCharacter? character, hexWidth? character with
      | some meant, _ => some ([meant], .nothing)
      | none, some width => some ([], .hex width 0)
      | none, none => none
  | .hex missing code, character => do
      let value ← hexValue? character
      if missing ≤ 1 then
        let meant ← character? (16 * code + value)
        return ([meant], .nothing)
      else
        return ([], .hex (missing - 1) (16 * code + value))
  | _, _ => none

/-- The text that one more character inside quotes on one line gives. -/
def lineStep (style : QuoteStyle) (pending : Pending) (character : Char) :
    Option (List Char × Pending) :=
  match pending with
  | .nothing =>
      if style = .basic ∧ character = '\\' then
        some ([], .escape)
      else if isPlain character then
        some ([character], .nothing)
      else
        none
  | _ => escapeStep pending character

/-- The text up to the closing delimiter on the same line, and what follows it. -/
def readLine (style : QuoteStyle) : Pending → List Char → Option (List Char × List Char)
  | _, [] => none
  | pending, character :: rest =>
      if pending = .nothing ∧ character = style.delimiter then
        some ([], rest)
      else
        match lineStep style pending character with
        | none => none
        | some (given, next) =>
            (readLine style next rest).map (fun result => (given ++ result.1, result.2))

/-- The text that a character gives when nothing is pending in a text that spans lines. -/
def freshStep (style : QuoteStyle) (character : Char) : Option (List Char × Pending) :=
  if style = .basic ∧ character = '\\' then
    some ([], .escape)
  else if character = style.delimiter then
    some ([], .quotes 1)
  else if character = '\r' then
    some (['\r'], .carriage)
  else if character = '\n' ∨ isPlain character then
    some ([character], .nothing)
  else
    none

/-- The text that one more character gives inside a text that spans lines. -/
def linesStep (style : QuoteStyle) (pending : Pending) (character : Char) :
    Option (List Char × Pending) :=
  match pending with
  | .nothing => freshStep style character
  | .quotes count =>
      if character = style.delimiter then
        some ([], .quotes (count + 1))
      else
        (freshStep style character).map (fun result =>
          (List.replicate count style.delimiter ++ result.1, result.2))
  | .carriage => if character = '\n' then some (['\n'], .nothing) else none
  | .escape =>
      if isBlank character then
        some ([], .foldBlanks)
      else if character = '\n' then
        some ([], .foldLines)
      else if character = '\r' then
        some ([], .foldCarriage)
      else
        escapeStep pending character
  | .foldBlanks =>
      if isBlank character then
        some ([], .foldBlanks)
      else if character = '\n' then
        some ([], .foldLines)
      else if character = '\r' then
        some ([], .foldCarriage)
      else
        none
  | .foldCarriage => if character = '\n' then some ([], .foldLines) else none
  | .foldLines =>
      if isBlank character ∨ character = '\n' then
        some ([], .foldLines)
      else if character = '\r' then
        some ([], .foldCarriage)
      else
        freshStep style character
  | .hex _ _ => escapeStep pending character

/-- The number of delimiters that belong to the text, if a run of them closes it. The run
closes at five, or when something else follows three or four. -/
def closingQuotes? (style : QuoteStyle) : Pending → List Char → Option Nat
  | .quotes count, rest =>
      if count < 3 then
        none
      else if count = 5 ∨ rest.head? ≠ some style.delimiter then
        some (count - 3)
      else
        none
  | _, _ => none

/-- The text up to the closing delimiters, over any number of lines, and what follows. -/
def readLines (style : QuoteStyle) : Pending → List Char → Option (List Char × List Char)
  | pending, [] =>
      (closingQuotes? style pending []).map (fun count =>
        (List.replicate count style.delimiter, []))
  | pending, character :: rest =>
      match closingQuotes? style pending (character :: rest) with
      | some count => some (List.replicate count style.delimiter, character :: rest)
      | none =>
          match linesStep style pending character with
          | none => none
          | some (given, next) =>
              (readLines style next rest).map (fun result => (given ++ result.1, result.2))

def dropLineEnd : List Char → List Char
  | '\n' :: rest => rest
  | '\r' :: '\n' :: rest => rest
  | text => text

/-- The text in quotes on one line at the front, and what follows it. -/
def readQuotedLine : List Char → Option (List Char × List Char)
  | '"' :: rest => readLine .basic .nothing rest
  | '\'' :: rest => readLine .literal .nothing rest
  | _ => none

/-- The text in any quotes at the front, and what follows it. -/
def readQuoted : List Char → Option (List Char × List Char)
  | '"' :: '"' :: '"' :: rest => readLines .basic .nothing (dropLineEnd rest)
  | '\'' :: '\'' :: '\'' :: rest => readLines .literal .nothing (dropLineEnd rest)
  | text => readQuotedLine text

end BuilderSynthesis.Toml
