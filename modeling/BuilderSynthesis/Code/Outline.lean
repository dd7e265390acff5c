import BuilderSynthesis.Code.Expression
import BuilderSynthesis.Text.Quoted
import BuilderSynthesis.Text.Segment

/-!
Contract: expressions spelled out by structure, for messages about constructs that
have no meaning.

Every node is named by its kind, with what it consists of in parentheses or, where
the parts have names, in braces.
-/

namespace BuilderSynthesis.Code

open BuilderSynthesis.Schema (Primitive)

def primitiveOutline : Primitive → String
  | .string => "String"
  | .int => "Int"
  | .long => "Long"
  | .float => "Float"
  | .double => "Double"
  | .bool => "Bool"
  | .char => "Char"
  | .byte => "Byte"

def TypeRef.outline : TypeRef → String
  | .primitive kind => "Primitive(" ++ primitiveOutline kind ++ ")"
  | .array element => "Array(" ++ element.outline ++ ")"
  | .list element => "List(" ++ element.outline ++ ")"
  | .named className => "Named(" ++ Text.quoted className ++ ")"
  | .var parameter => "TypeVar(" ++ Text.quoted parameter ++ ")"
  | .unit => "Unit"

namespace Expression

mutual

def outline : Expression → String
  | .null => "Null"
  | .bool true => "Bool(true)"
  | .bool false => "Bool(false)"
  | .int value => "Int(" ++ toString value ++ ")"
  | .string value => "String(" ++ Text.quoted value ++ ")"
  | .ident name => "Ident(" ++ Text.quoted name ++ ")"
  | .this => "This"
  | .field target name =>
      "Field \x7b target: " ++ target.outline ++ ", name: " ++ Text.quoted name ++ " \x7d"
  | .new type => "New(" ++ type.outline ++ ")"
  | .call target method arguments =>
      "Call \x7b target: " ++ target.outline ++ ", method: " ++ Text.quoted method ++
        ", args: [" ++ Text.joinWith ", " (outlines arguments) ++ "] \x7d"
  | .superCall method arguments =>
      "SuperCall \x7b method: " ++ Text.quoted method ++ ", args: [" ++
        Text.joinWith ", " (outlines arguments) ++ "] \x7d"
  | .copyList list => "CopyList(" ++ list.outline ++ ")"
  | .readOnlyList list => "UnmodifiableList(" ++ list.outline ++ ")"

def outlines : List Expression → List String
  | [] => []
  | first :: rest => first.outline :: outlines rest

end

end Expression

end BuilderSynthesis.Code
