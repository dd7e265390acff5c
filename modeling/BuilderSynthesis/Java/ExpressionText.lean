import BuilderSynthesis.Code.Expression
import BuilderSynthesis.Java.TypeText

/-!
Contract: how expressions and statements are written in a source file.

A list that is passed on as a copy or as a view is tested for null first, so its
expression is written twice. Nothing is put in parentheses.
-/

namespace BuilderSynthesis.Java

open BuilderSynthesis.Code (Expression Statement)

def literalCharacter (character : Char) : List Char :=
  match character with
  | '"' => ['\\', '"']
  | '\\' => ['\\', '\\']
  | '\n' => ['\\', 'n']
  | '\t' => ['\\', 't']
  | '\r' => ['\\', 'r']
  | other => [other]

def literal (text : String) : String :=
  String.ofList ('"' :: (text.toList.flatMap literalCharacter ++ ['"']))

mutual

def expressionText (package : Option String) : Expression → String
  | .null => "null"
  | .bool true => "true"
  | .bool false => "false"
  | .int value => toString value
  | .string value => literal value
  | .ident name => name
  | .this => "this"
  | .field target name => expressionText package target ++ "." ++ name
  | .new type => "new " ++ typeText package type ++ "()"
  | .call .this method arguments =>
      method ++ "(" ++ Text.joinWith ", " (argumentTexts package arguments) ++ ")"
  | .call target method arguments =>
      expressionText package target ++ "." ++ method ++ "(" ++
        Text.joinWith ", " (argumentTexts package arguments) ++ ")"
  | .superCall method arguments =>
      "super." ++ method ++ "(" ++ Text.joinWith ", " (argumentTexts package arguments) ++ ")"
  | .copyList list =>
      let text := expressionText package list
      text ++ " == null ? null : new ArrayList<>(" ++ text ++ ")"
  | .readOnlyList list =>
      let text := expressionText package list
      text ++ " == null ? null : Collections.unmodifiableList(" ++ text ++ ")"

def argumentTexts (package : Option String) : List Expression → List String
  | [] => []
  | first :: rest => expressionText package first :: argumentTexts package rest

end

def statementText (package : Option String) : Statement → String
  | .assign target value =>
      expressionText package target ++ " = " ++ expressionText package value ++ ";"
  | .return (some value) => "return " ++ expressionText package value ++ ";"
  | .return none => "return;"
  | .evaluate value => expressionText package value ++ ";"

end BuilderSynthesis.Java
