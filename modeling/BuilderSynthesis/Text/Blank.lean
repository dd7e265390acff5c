/-!
Contract: which characters are blank, and how text is trimmed of them.

Blank is the `White_Space` property of Unicode: twenty-five characters. Trimming
removes blanks at an end and keeps everything between the first and the last
character that is not blank.

Does not own: what an ASCII-only format, such as a manifest, treats as blank.
-/

namespace BuilderSynthesis.Text

/-- The characters with the `White_Space` property. -/
def isBlank (character : Char) : Bool :=
  let code := character.toNat
  (0x9 ≤ code && code ≤ 0xD) || code == 0x20 || code == 0x85 || code == 0xA0 ||
    code == 0x1680 || (0x2000 ≤ code && code ≤ 0x200A) || code == 0x2028 ||
    code == 0x2029 || code == 0x202F || code == 0x205F || code == 0x3000

def dropBlanks (text : List Char) : List Char :=
  text.dropWhile isBlank

def dropTrailingBlanks (text : List Char) : List Char :=
  (dropBlanks text.reverse).reverse

def trimBlanks (text : List Char) : List Char :=
  dropTrailingBlanks (dropBlanks text)

def trim (text : String) : String :=
  String.ofList (trimBlanks text.toList)

def trimEnd (text : String) : String :=
  String.ofList (dropTrailingBlanks text.toList)

end BuilderSynthesis.Text
