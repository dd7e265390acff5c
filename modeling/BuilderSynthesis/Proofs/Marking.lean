import BuilderSynthesis.Java.SourceFile
import Mathlib.Data.List.Basic

/-!
Contract: where a line mentions a class that must be imported.

A line is written out of pieces. Most are plain texts. Three are marks, the texts by which a line
mentions a class of `java.util`: the type of a list, the copy of a list and a view of a list. Put
together, the pieces of a type, an expression or a declaration are its text, so a mark is just where
the text mentions the class. A type has a mark if it is one of lists or arrays of lists, and an
expression if a part of it copies a list, makes a view of one or an object of such a type.

Owns: `Mark`, `Piece`, the pieces of lines with `text_typePieces` and the like, and
`mark_mem_typePieces_iff` and `mark_mem_expressionPieces_iff`.

Does not own: which lines a file has.
-/

namespace BuilderSynthesis.Java

open BuilderSynthesis.Code (Declaration Expression Model Statement TypeRef)

/-- What a class is imported for. -/
inductive Mark where
  | listType
  | listCopy
  | listView
deriving DecidableEq, Repr

def Mark.className : Mark → String
  | .listType => "java.util.List"
  | .listCopy => "java.util.ArrayList"
  | .listView => "java.util.Collections"

/-- A part of a line. -/
inductive Piece where
  | plain (text : String)
  | mark (mark : Mark)
deriving DecidableEq, Repr

@[simp]
def Piece.text : Piece → String
  | .plain text => text
  | .mark .listType => "List<"
  | .mark .listCopy => "new ArrayList<>("
  | .mark .listView => "Collections.unmodifiableList("

abbrev Line := List Piece

def Line.text (line : Line) : String :=
  String.join (line.map Piece.text)

def joinLines (separator : String) : List Line → Line
  | [] => []
  | [only] => only
  | first :: second :: rest => first ++ .plain separator :: joinLines separator (second :: rest)

/-! ### Pieces -/

def typePieces (package : Option String) : TypeRef → Line
  | .array element => typePieces package element ++ [.plain "[]"]
  | .list (.primitive kind) => [.mark .listType, .plain (boxedText kind), .plain ">"]
  | .list element => .mark .listType :: typePieces package element ++ [.plain ">"]
  | other => [.plain (typeText package other)]

mutual

def expressionPieces (package : Option String) : Expression → Line
  | .field target name => expressionPieces package target ++ [.plain ("." ++ name)]
  | .new type => .plain "new " :: typePieces package type ++ [.plain "()"]
  | .call .this method arguments =>
      .plain (method ++ "(") :: joinLines ", " (argumentPieces package arguments) ++ [.plain ")"]
  | .call target method arguments =>
      expressionPieces package target ++ .plain ("." ++ method ++ "(") ::
        joinLines ", " (argumentPieces package arguments) ++ [.plain ")"]
  | .superCall method arguments =>
      .plain ("super." ++ method ++ "(") :: joinLines ", " (argumentPieces package arguments) ++
        [.plain ")"]
  | .copyList list =>
      expressionPieces package list ++ [.plain " == null ? null : ", .mark .listCopy] ++
        expressionPieces package list ++ [.plain ")"]
  | .readOnlyList list =>
      expressionPieces package list ++ [.plain " == null ? null : ", .mark .listView] ++
        expressionPieces package list ++ [.plain ")"]
  | other => [.plain (expressionText package other)]

def argumentPieces (package : Option String) : List Expression → List Line
  | [] => []
  | first :: rest => expressionPieces package first :: argumentPieces package rest

end

def statementPieces (package : Option String) : Statement → Line
  | .assign target value =>
      expressionPieces package target ++ .plain " = " :: expressionPieces package value ++
        [.plain ";"]
  | .return (some value) => .plain "return " :: expressionPieces package value ++ [.plain ";"]
  | .return none => [.plain "return;"]
  | .evaluate value => expressionPieces package value ++ [.plain ";"]

def fieldPieces (package : Option String) (field : Code.Field) : Line :=
  .plain (modifiers field.access field.isStatic ++ (if field.isFinal then "final " else "")) ::
    typePieces package field.type ++ .plain (" " ++ field.name) ::
    (match field.initializer with
      | some value => .plain " = " :: expressionPieces package value
      | none => []) ++ [.plain ";"]

def parameterPieces (package : Option String) (parameter : Code.Parameter) : Line :=
  .plain (if parameter.isFinal then "final " else "") ::
    (match parameter.type, parameter.isVariadic with
      | .array element, true => typePieces package element ++ [.plain "..."]
      | type, _ => typePieces package type) ++ [.plain (" " ++ parameter.name)]

def typeParameterPieces (package : Option String) (parameter : Code.TypeParameter) : Line :=
  if parameter.bounds.isEmpty then
    [.plain parameter.name]
  else
    .plain (parameter.name ++ " extends ") ::
      joinLines " & " (parameter.bounds.map (typePieces package))

def methodPieces (package : Option String) (method : Code.Method) : Line :=
  .plain (modifiers method.access method.isStatic) ::
    (if method.typeParameters.isEmpty then
      []
    else
      .plain "<" :: joinLines ", " (method.typeParameters.map (typeParameterPieces package)) ++
        [.plain "> "]) ++
    (match method.returns with
      | some type => typePieces package type
      | none => [.plain "void"]) ++
    .plain (" " ++ method.name ++ "(") ::
    joinLines ", " (method.parameters.map (parameterPieces package)) ++ [.plain ") \x7b"]

def classPieces (model : Model) (package : Option String) (declaration : Declaration) : Line :=
  .plain (modifiers declaration.header.access declaration.header.isStatic ++
      (if declaration.header.isAbstract then "abstract " else "") ++ "class " ++
      declaration.header.name) ::
    (match declaration.superclass with
      | some superclass => .plain " extends " :: typePieces package (model.typeRef superclass)
      | none => []) ++ [.plain " \x7b"]

/-! ### Texts -/

namespace Line

@[simp]
theorem text_nil : text [] = "" := rfl

@[simp]
theorem text_cons (piece : Piece) (rest : Line) :
    text (piece :: rest) = piece.text ++ rest.text := by
  unfold text
  rw [List.map_cons, String.join_cons]

@[simp]
theorem text_append (first second : Line) :
    text (first ++ second) = first.text ++ second.text := by
  unfold text
  rw [List.map_append, String.join_append]

@[simp]
theorem text_joinLines (separator : String) (lines : List Line) :
    text (joinLines separator lines) = Text.joinWith separator (lines.map text) := by
  fun_induction joinLines separator lines with
  | case1 => rfl
  | case2 only => simp [Text.joinWith]
  | case3 first second rest inductionHypothesis =>
      rw [text_append, text_cons, inductionHypothesis, Piece.text]
      simp [Text.joinWith, String.intercalate_cons_cons, String.append_assoc]

theorem map_text_map {items : List α} {pieces : α → Line} {written : α → String}
    (same : ∀ item, (pieces item).text = written item) :
    (items.map pieces).map text = items.map written := by
  rw [List.map_map]
  exact List.map_congr_left fun item _ => same item

end Line

section

variable (package : Option String)

theorem text_typePieces (type : TypeRef) :
    (typePieces package type).text = typeText package type := by
  fun_induction typePieces package type with
  | case1 element inductionHypothesis => simp [inductionHypothesis, typeText]
  | case2 kind => simp [typeText, String.append_assoc]
  | case3 element notPrimitive inductionHypothesis =>
      rw [typeText]
      · simp [inductionHypothesis, String.append_assoc]
      · exact notPrimitive
  | case4 other => simp

mutual

theorem text_expressionPieces (expression : Expression) :
    (expressionPieces package expression).text = expressionText package expression := by
  cases expression with
  | field target name =>
      have inner := text_expressionPieces target
      simp [expressionPieces, expressionText, inner, String.append_assoc]
  | new type =>
      simp [expressionPieces, expressionText, text_typePieces, String.append_assoc]
  | call target method arguments =>
      have inner := text_expressionPieces target
      have others := text_argumentPieces arguments
      by_cases own : target = .this
      · subst own
        simp [expressionPieces, expressionText, others, String.append_assoc]
      · rw [expressionPieces, expressionText]
        · simp [inner, others, String.append_assoc]
        all_goals exact own
  | superCall method arguments =>
      have others := text_argumentPieces arguments
      simp [expressionPieces, expressionText, others, String.append_assoc]
  | copyList list =>
      have inner := text_expressionPieces list
      have middle : " == null ? null : new ArrayList<>(" =
          " == null ? null : " ++ "new ArrayList<>(" := rfl
      rw [expressionText, middle]
      simp [expressionPieces, inner, String.append_assoc, -String.reduceAppend]
  | readOnlyList list =>
      have inner := text_expressionPieces list
      have middle : " == null ? null : Collections.unmodifiableList(" =
          " == null ? null : " ++ "Collections.unmodifiableList(" := rfl
      rw [expressionText, middle]
      simp [expressionPieces, inner, String.append_assoc, -String.reduceAppend]
  | _ => simp [expressionPieces]

theorem text_argumentPieces (arguments : List Expression) :
    (argumentPieces package arguments).map Line.text = argumentTexts package arguments := by
  cases arguments with
  | nil => rfl
  | cons first rest =>
      rw [argumentPieces, List.map_cons, text_expressionPieces first, text_argumentPieces rest,
        argumentTexts]

end

theorem text_statementPieces (statement : Statement) :
    (statementPieces package statement).text = statementText package statement := by
  fun_cases statementPieces package statement <;>
    simp [statementText, text_expressionPieces, String.append_assoc]

theorem text_fieldPieces (field : Code.Field) :
    (fieldPieces package field).text = fieldText package field := by
  unfold fieldPieces fieldText
  cases field.initializer <;>
    simp [text_typePieces, text_expressionPieces, String.append_assoc]

theorem text_parameterPieces (parameter : Code.Parameter) :
    (parameterPieces package parameter).text = parameterText package parameter := by
  unfold parameterPieces parameterText
  cases parameter.type <;> cases parameter.isVariadic <;>
    simp [text_typePieces, String.append_assoc, -String.reduceAppend]

theorem text_typeParameterPieces (parameter : Code.TypeParameter) :
    (typeParameterPieces package parameter).text = typeParameterText package parameter := by
  have bounds : (parameter.bounds.map (typePieces package)).map Line.text =
      parameter.bounds.map (typeText package) :=
    Line.map_text_map (text_typePieces package)
  unfold typeParameterPieces typeParameterText
  split
  · simp
  · simp [bounds, String.append_assoc]

theorem text_methodPieces (method : Code.Method) :
    (methodPieces package method).text = methodHeader package method := by
  have parameters : (method.parameters.map (parameterPieces package)).map Line.text =
      method.parameters.map (parameterText package) :=
    Line.map_text_map (text_parameterPieces package)
  have typeParameters : (method.typeParameters.map (typeParameterPieces package)).map Line.text =
      method.typeParameters.map (typeParameterText package) :=
    Line.map_text_map (text_typeParameterPieces package)
  unfold methodPieces methodHeader
  cases method.returns <;> split <;>
    simp [text_typePieces, parameters, typeParameters, String.append_assoc, -String.reduceAppend]

theorem text_classPieces (model : Model) (declaration : Declaration) :
    (classPieces model package declaration).text = classHeader model package declaration := by
  unfold classPieces classHeader
  cases declaration.superclass <;> simp [text_typePieces, String.append_assoc]

end

/-! ### Marks -/

def makes : Mark → Expression → Bool
  | .listType, .new type => mentionsList type
  | .listCopy, .copyList _ => true
  | .listView, .readOnlyList _ => true
  | _, _ => false

section

variable {package : Option String} {mark : Mark}

theorem mark_mem_joinLines_iff {separator : String} {lines : List Line} :
    .mark mark ∈ joinLines separator lines ↔ ∃ line ∈ lines, .mark mark ∈ line := by
  fun_induction joinLines separator lines with
  | case1 => simp
  | case2 only => simp
  | case3 first second rest inductionHypothesis => simp [inductionHypothesis]

/-- The only mark of a type is that of a list. -/
theorem mark_mem_typePieces_iff {type : TypeRef} :
    .mark mark ∈ typePieces package type ↔ mark = .listType ∧ mentionsList type = true := by
  fun_induction typePieces package type with
  | case1 element inductionHypothesis => simp [inductionHypothesis, mentionsList]
  | case2 kind => simp [mentionsList]
  | case3 element notPrimitive inductionHypothesis =>
      simp only [List.mem_append, List.mem_cons, Piece.mark.injEq, inductionHypothesis,
        List.not_mem_nil, reduceCtorEq, or_false, mentionsList, and_true]
      exact or_iff_left_of_imp And.left
  | case4 other notArray notList => cases other <;> simp_all [mentionsList]

mutual

/-- The marks of an expression are those of its parts. -/
theorem mark_mem_expressionPieces_iff (expression : Expression) :
    .mark mark ∈ expressionPieces package expression ↔
      ∃ part ∈ expression.within, makes mark part = true := by
  cases expression with
  | field target name =>
      have inner := mark_mem_expressionPieces_iff target
      simp [expressionPieces, Expression.within, makes, inner]
  | new type =>
      cases mark <;> simp [expressionPieces, Expression.within, makes, mark_mem_typePieces_iff]
  | call target method arguments =>
      have inner := mark_mem_expressionPieces_iff target
      have others := mark_mem_argumentPieces_iff arguments
      by_cases own : target = .this
      · subst own
        simp [expressionPieces, Expression.within, makes, mark_mem_joinLines_iff, others]
      · rw [expressionPieces]
        · simp [Expression.within, makes, mark_mem_joinLines_iff, inner, others, or_and_right,
            exists_or]
        · exact own
  | superCall method arguments =>
      have others := mark_mem_argumentPieces_iff arguments
      simp [expressionPieces, Expression.within, makes, mark_mem_joinLines_iff, others]
  | copyList list =>
      have inner := mark_mem_expressionPieces_iff list
      cases mark <;> simp [expressionPieces, Expression.within, makes, inner]
  | readOnlyList list =>
      have inner := mark_mem_expressionPieces_iff list
      cases mark <;> simp [expressionPieces, Expression.within, makes, inner]
  | _ => simp [expressionPieces, Expression.within, makes]

theorem mark_mem_argumentPieces_iff (arguments : List Expression) :
    (∃ line ∈ argumentPieces package arguments, .mark mark ∈ line) ↔
      ∃ part ∈ Expression.withinAll arguments, makes mark part = true := by
  cases arguments with
  | nil => simp [argumentPieces, Expression.withinAll]
  | cons first rest =>
      have head := mark_mem_expressionPieces_iff first
      have tail := mark_mem_argumentPieces_iff rest
      simp [argumentPieces, Expression.withinAll, head, tail, or_and_right, exists_or]

end

theorem mark_mem_statementPieces_iff {statement : Statement} :
    .mark mark ∈ statementPieces package statement ↔
      ∃ part ∈ statement.within, makes mark part = true := by
  fun_cases statementPieces package statement <;>
    simp [Statement.within, mark_mem_expressionPieces_iff, or_and_right, exists_or]

/-- The marks of a field are those of its type and of its initializer. -/
theorem mark_mem_fieldPieces_iff {field : Code.Field} :
    .mark mark ∈ fieldPieces package field ↔
      (mark = .listType ∧ mentionsList field.type = true) ∨
        ∃ part ∈ field.initializer.toList.flatMap Expression.within, makes mark part = true := by
  unfold fieldPieces
  cases field.initializer <;>
    simp [mark_mem_typePieces_iff, mark_mem_expressionPieces_iff]

theorem mark_mem_parameterPieces_iff {parameter : Code.Parameter} :
    .mark mark ∈ parameterPieces package parameter ↔
      mark = .listType ∧ mentionsList parameter.type = true := by
  unfold parameterPieces
  cases type : parameter.type <;> cases parameter.isVariadic <;>
    simp [mark_mem_typePieces_iff, mentionsList]

theorem mark_mem_typeParameterPieces_iff {parameter : Code.TypeParameter} :
    .mark mark ∈ typeParameterPieces package parameter ↔
      mark = .listType ∧ ∃ bound ∈ parameter.bounds, mentionsList bound = true := by
  unfold typeParameterPieces
  split
  · rename_i none'
    simp [List.isEmpty_iff.1 none']
  · simp [mark_mem_joinLines_iff, mark_mem_typePieces_iff, and_left_comm]

/-- The marks of the line that opens a method are those of its types. -/
theorem mark_mem_methodPieces_iff {method : Code.Method} :
    .mark mark ∈ methodPieces package method ↔ mark = .listType ∧
      ∃ type ∈ method.parameters.map Code.Parameter.type ++ method.returns.toList ++
        method.typeParameters.flatMap Code.TypeParameter.bounds, mentionsList type = true := by
  have typeParameters : .mark mark ∈ (if method.typeParameters.isEmpty then [] else
        .plain "<" :: joinLines ", " (method.typeParameters.map (typeParameterPieces package)) ++
          [.plain "> "]) ↔
      mark = .listType ∧ ∃ type ∈ method.typeParameters.flatMap Code.TypeParameter.bounds,
        mentionsList type = true := by
    split
    · rename_i none'
      simp [List.isEmpty_iff.1 none']
    · simp only [List.mem_append, List.mem_cons, mark_mem_joinLines_iff, List.mem_map,
        exists_exists_and_eq_and, mark_mem_typeParameterPieces_iff, List.mem_flatMap, reduceCtorEq,
        List.not_mem_nil, false_or, or_false]
      constructor
      · rintro ⟨parameter, listed, same, bound, inside, mentions⟩
        exact ⟨same, bound, ⟨parameter, listed, inside⟩, mentions⟩
      · rintro ⟨same, bound, ⟨parameter, listed, inside⟩, mentions⟩
        exact ⟨parameter, listed, same, bound, inside, mentions⟩
  have returns : .mark mark ∈ (match method.returns with
        | some type => typePieces package type
        | none => [.plain "void"]) ↔
      mark = .listType ∧ ∃ type ∈ method.returns.toList, mentionsList type = true := by
    cases method.returns <;> simp [mark_mem_typePieces_iff]
  have parameters : .mark mark ∈
        joinLines ", " (method.parameters.map (parameterPieces package)) ↔
      mark = .listType ∧ ∃ type ∈ method.parameters.map Code.Parameter.type,
        mentionsList type = true := by
    simp [mark_mem_joinLines_iff, mark_mem_parameterPieces_iff, and_left_comm]
  unfold methodPieces
  simp only [List.mem_append, List.mem_cons, typeParameters, returns, parameters, reduceCtorEq,
    List.not_mem_nil, false_or, or_false, or_and_right, exists_or, ← and_or_left]
  exact and_congr_right fun _ => or_comm.trans ((or_congr_right or_comm).trans or_assoc.symm)

theorem mark_not_mem_classPieces (model : Model) (declaration : Declaration) :
    .mark mark ∉ classPieces model package declaration := by
  unfold classPieces
  cases declaration.superclass <;>
    simp [mark_mem_typePieces_iff, Model.typeRef, mentionsList]

end

end BuilderSynthesis.Java
