import BuilderSynthesis.Text.Quoted

/-!
Contract: JSON values as data, and their indented text.

An object keeps its members in the order in which it was built. Every item and
member stands on a line of its own, two spaces deeper than its container; an empty
container is written on one line. Quotes, backslashes and control characters are
escaped, everything else stands for itself.
-/

namespace BuilderSynthesis.Json

/-- A JSON value without fractional numbers. -/
inductive Value where
  | null
  | bool (value : Bool)
  | number (value : Int)
  | string (value : String)
  | array (items : List Value)
  | object (members : List (String × Value))
deriving Repr, Inhabited

namespace Value

def ofText? : Option String → Value
  | none => .null
  | some text => .string text

def ofNat? : Option Nat → Value
  | none => .null
  | some count => .number count

end Value

def escapedCharacter (character : Char) : List Char :=
  match character with
  | '"' => ['\\', '"']
  | '\\' => ['\\', '\\']
  | '\n' => ['\\', 'n']
  | '\r' => ['\\', 'r']
  | '\t' => ['\\', 't']
  | '\x08' => ['\\', 'b']
  | '\x0c' => ['\\', 'f']
  | other =>
      if other.toNat < 16 then
        ['\\', 'u', '0', '0', '0'] ++ Text.hexDigits other.toNat
      else if other.toNat < 32 then
        ['\\', 'u', '0', '0'] ++ Text.hexDigits other.toNat
      else
        [other]

def stringText (text : String) : String :=
  String.ofList ('"' :: (text.toList.flatMap escapedCharacter ++ ['"']))

def lineBreak (level : Nat) : String :=
  "\n" ++ String.ofList (List.replicate (2 * level) ' ')

mutual

def Value.text (level : Nat) : Value → String
  | .null => "null"
  | .bool true => "true"
  | .bool false => "false"
  | .number value => toString value
  | .string value => stringText value
  | .array [] => "[]"
  | .array items => "[" ++ itemsText (level + 1) "" items ++ lineBreak level ++ "]"
  | .object [] => "\x7b\x7d"
  | .object members =>
      "\x7b" ++ membersText (level + 1) "" members ++ lineBreak level ++ "\x7d"

/-- The items of an array, each after a separator and a line break. -/
def itemsText (level : Nat) (separator : String) : List Value → String
  | [] => ""
  | item :: rest =>
      separator ++ lineBreak level ++ item.text level ++ itemsText level "," rest

/-- The members of an object, each after a separator and a line break. -/
def membersText (level : Nat) (separator : String) : List (String × Value) → String
  | [] => ""
  | (key, value) :: rest =>
      separator ++ lineBreak level ++ stringText key ++ ": " ++ value.text level ++
        membersText level "," rest

end

def Value.pretty (value : Value) : String :=
  value.text 0

end BuilderSynthesis.Json
