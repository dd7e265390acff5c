/-!
Contract: blanks, comments and line ends between the parts of a document.

A blank is a space or a tab. A comment runs from a hash sign to the end of its
line and holds no control character but the tab. A line ends with a line feed,
before which one carriage return may stand, or with the document.
-/

namespace BuilderSynthesis.Toml

def isBlank (character : Char) : Bool :=
  character == ' ' || character == '\t'

/-- Characters that may stand in a comment or in quotes as they are. -/
def isPlain (character : Char) : Bool :=
  character == '\t' || (32 ≤ character.toNat && character.toNat != 127)

def skipBlanks (text : List Char) : List Char :=
  text.dropWhile isBlank

/-- What follows the blanks, line ends and comments at the front; nothing if a comment
holds a control character. The flag says whether a comment has begun. -/
def skipGap (inComment : Bool) : List Char → Option (List Char)
  | [] => some []
  | '\n' :: rest => skipGap false rest
  | '\r' :: '\n' :: rest => skipGap false rest
  | character :: rest =>
      if inComment then
        if isPlain character then skipGap true rest else none
      else if isBlank character then
        skipGap false rest
      else if character = '#' then
        skipGap true rest
      else
        some (character :: rest)

/-- What follows the line end after blanks and a comment; nothing if anything else stands
before the line end. -/
def skipLineEnd (inComment : Bool) : List Char → Option (List Char)
  | [] => some []
  | '\n' :: rest => some rest
  | '\r' :: '\n' :: rest => some rest
  | character :: rest =>
      if inComment then
        if isPlain character then skipLineEnd true rest else none
      else if isBlank character then
        skipLineEnd false rest
      else if character = '#' then
        skipLineEnd true rest
      else
        none

end BuilderSynthesis.Toml
