import BuilderSynthesis.Java.ExpressionText
import BuilderSynthesis.Proofs.Scanning

/-!
Contract: what Java reads from the text of an expression.

Expressions are written without parentheses. What binds tightest can stand wherever an expression
is written, but a list that is passed on is written as a choice, and where a choice is written as a
receiver or inside another one, the point or the test that follows goes to its last part only. A
point after digits belongs to the number, and arrays and primitive types have no constructors.
`isReadable` leaves these cases out; exactly the other expressions read back.

Owns: `Expression.operands` and induction on them; `tree`, `ReadsAs` and `reads_back_iff`.
-/

namespace BuilderSynthesis

/-! ### Operands -/

namespace Code.Expression

/-- The expressions that an expression is made of, without those inside them. -/
def operands : Expression → List Expression
  | .field target _ => [target]
  | .call target _ arguments => target :: arguments
  | .superCall _ arguments => arguments
  | .copyList list | .readOnlyList list => [list]
  | _ => []

theorem withinAll_eq_flatMap (expressions : List Expression) :
    withinAll expressions = expressions.flatMap within := by
  induction expressions with
  | nil => rfl
  | cons first rest inductionHypothesis =>
      rw [withinAll, inductionHypothesis, List.flatMap_cons]

theorem within_eq_cons (expression : Expression) :
    expression.within = expression :: expression.operands.flatMap within := by
  cases expression <;> simp [within, operands, withinAll_eq_flatMap]

theorem sizeOf_lt_of_mem_operands {expression operand : Expression}
    (member : operand ∈ expression.operands) : sizeOf operand < sizeOf expression := by
  cases expression with
  | call target method arguments =>
      rw [call.sizeOf_spec]
      rcases List.mem_cons.1 member with rfl | inside
      · omega
      · have smaller := List.sizeOf_lt_of_mem inside
        omega
  | superCall method arguments =>
      rw [superCall.sizeOf_spec]
      have smaller : sizeOf operand < sizeOf arguments := List.sizeOf_lt_of_mem member
      omega
  | field target name =>
      rw [List.mem_singleton.1 member, field.sizeOf_spec]
      omega
  | copyList list | readOnlyList list =>
      rw [List.mem_singleton.1 member]
      simp
  | _ => cases member

/-- What holds of an expression if it holds of its operands holds of every expression. -/
@[elab_as_elim]
theorem induction_on_operands {motive : Expression → Prop} (expression : Expression)
    (step : ∀ expression, (∀ operand ∈ expression.operands, motive operand) → motive expression) :
    motive expression :=
  step expression fun operand _ => induction_on_operands operand step
termination_by sizeOf expression
decreasing_by exact sizeOf_lt_of_mem_operands ‹_›

/-- Something holds of an expression and of everything inside it. -/
def Throughout (holds : Expression → Bool) (expression : Expression) : Prop :=
  ∀ part ∈ expression.within, holds part = true

instance (holds : Expression → Bool) (expression : Expression) :
    Decidable (Throughout holds expression) :=
  inferInstanceAs (Decidable (∀ _ ∈ _, _))

theorem throughout_iff {holds : Expression → Bool} {expression : Expression} :
    Throughout holds expression ↔
      holds expression = true ∧ ∀ operand ∈ expression.operands, Throughout holds operand := by
  unfold Throughout
  rw [within_eq_cons, List.forall_mem_cons]
  simp only [List.mem_flatMap, forall_exists_index, and_imp]
  constructor
  · intro both
    exact ⟨both.1, fun operand member part inside => both.2 part operand member inside⟩
  · intro both
    exact ⟨both.1, fun part operand member inside => both.2 operand member part inside⟩

end Code.Expression

namespace Java

open Code (Expression TypeRef)
open Code.Expression (Throughout throughout_iff)

/-! ### What is meant -/

/-- Null for null, and another expression for everything else. -/
def unlessNull (tested chosen : Tree) : Tree :=
  .conditional (.equal tested .null) .null chosen

mutual

/-- The expression that is meant by a text in a file of a package. -/
def tree (package : Option String) : Expression → Tree
  | .null => .null
  | .bool value => .bool value
  | .int value => .integer value.toNat
  | .string value => .string (units value)
  | .ident name => .name (units name)
  | .this => .this
  | .field target name => .field (tree package target) (units name)
  | .new type => .creation (typeTokens package type) []
  | .call target method arguments =>
      .call (tree package target) (units method) (trees package arguments)
  | .superCall method arguments => .superCall (units method) (trees package arguments)
  | .copyList list =>
      unlessNull (tree package list)
        (.creation [.name (units "ArrayList"), .sign '<', .sign '>'] [tree package list])
  | .readOnlyList list =>
      unlessNull (tree package list)
        (.call (.name (units "Collections")) (units "unmodifiableList") [tree package list])

def trees (package : Option String) : List Expression → List Tree
  | [] => []
  | first :: rest => tree package first :: trees package rest

end

/-- A text is read as an expression. -/
def ReadsAs (text : String) (read : Tree) : Prop :=
  ∃ tokens, tokens? text = some tokens ∧ Reads .expression tokens [read]

theorem ReadsAs.unique {text : String} {one two : Tree} (first : ReadsAs text one)
    (second : ReadsAs text two) : one = two := by
  obtain ⟨tokens, scanned, reads⟩ := first
  obtain ⟨others, scannedToo, readsToo⟩ := second
  rw [scanned, Option.some.injEq] at scannedToo
  subst scannedToo
  exact reads.unique readsToo

/-! ### Names and places -/

/-- Whether Java admits the names, the type and the number that an expression adds to its operands.
`yield` is the name of a method, but a call does not start with it. -/
def isLegal : Expression → Bool
  | .int value => 0 ≤ value && value < integerBound
  | .ident name | .field _ name | .superCall name _ => isLegalName name
  | .new type => isLegalType type
  | .call .this method _ => isLegalName method && method != "yield"
  | .call _ method _ => isLegalName method
  | _ => true

def isNumber : Expression → Bool
  | .int _ => true
  | _ => false

def isChoice : Expression → Bool
  | .copyList _ | .readOnlyList _ => true
  | _ => false

/-- Whether no digits stand before a point. -/
def isScannable : Expression → Bool
  | .field target _ | .call target _ _ => !isNumber target
  | _ => true

/-- Whether no choice stands where only what binds tighter can, and a new object has a type with
constructors. -/
def isPlaced : Expression → Bool
  | .field target _ | .call target _ _ => !isChoice target
  | .copyList list | .readOnlyList list => !isChoice list
  | .new type => isInstantiable type
  | _ => true

def isReadable (expression : Expression) : Bool :=
  isScannable expression && isPlaced expression

theorem isLegalName_of_isLegal_call {target : Expression} {method : String}
    {arguments : List Expression} (legal : isLegal (.call target method arguments) = true) :
    isLegalName method = true := by
  unfold isLegal at legal
  split at legal <;> simp_all

theorem throughout_isReadable_iff {expression : Expression} :
    Throughout isReadable expression ↔
      Throughout isScannable expression ∧ Throughout isPlaced expression := by
  unfold Throughout isReadable
  simp only [Bool.and_eq_true, forall_and]

/-! ### Tokens -/

def unlessNullTokens : List Token :=
  [.equal, .keyword "null", .sign '?', .keyword "null", .sign ':']

def copyTokens : List Token :=
  [.keyword "new", .name (units "ArrayList"), .sign '<', .sign '>', .sign '(']

def viewTokens : List Token :=
  [.name (units "Collections"), .sign '.', .name (units "unmodifiableList"), .sign '(']

theorem delimits_copying :
    Delimits (units " == null ? null : new ArrayList<>(") (unlessNullTokens ++ copyTokens) := by
  decide

theorem delimits_viewing : Delimits (units " == null ? null : Collections.unmodifiableList(")
    (unlessNullTokens ++ viewTokens) := by
  decide

mutual

def expressionTokens (package : Option String) : Expression → List Token
  | .null => [.keyword "null"]
  | .bool true => [.keyword "true"]
  | .bool false => [.keyword "false"]
  | .int value => [.integer value.toNat]
  | .string value => [.string (units value)]
  | .ident name => [.name (units name)]
  | .this => [.keyword "this"]
  | .field target name => expressionTokens package target ++ [.sign '.', .name (units name)]
  | .new type => .keyword "new" :: typeTokens package type ++ [.sign '(', .sign ')']
  | .call .this method arguments =>
      .name (units method) :: .sign '(' :: commaTokens (argumentTokens package arguments) ++
        [.sign ')']
  | .call target method arguments =>
      expressionTokens package target ++ .sign '.' :: .name (units method) :: .sign '(' ::
        commaTokens (argumentTokens package arguments) ++ [.sign ')']
  | .superCall method arguments =>
      .keyword "super" :: .sign '.' :: .name (units method) :: .sign '(' ::
        commaTokens (argumentTokens package arguments) ++ [.sign ')']
  | .copyList list =>
      expressionTokens package list ++ unlessNullTokens ++ copyTokens ++
        expressionTokens package list ++ [.sign ')']
  | .readOnlyList list =>
      expressionTokens package list ++ unlessNullTokens ++ viewTokens ++
        expressionTokens package list ++ [.sign ')']

def argumentTokens (package : Option String) : List Expression → List (List Token)
  | [] => []
  | first :: rest => expressionTokens package first :: argumentTokens package rest

end

theorem argumentTexts_eq_map (package : Option String) (arguments : List Expression) :
    argumentTexts package arguments = arguments.map (expressionText package) := by
  induction arguments with
  | nil => rfl
  | cons first rest inductionHypothesis =>
      rw [argumentTexts, inductionHypothesis, List.map_cons]

theorem argumentTokens_eq_map (package : Option String) (arguments : List Expression) :
    argumentTokens package arguments = arguments.map (expressionTokens package) := by
  induction arguments with
  | nil => rfl
  | cons first rest inductionHypothesis =>
      rw [argumentTokens, inductionHypothesis, List.map_cons]

theorem trees_eq_map (package : Option String) (arguments : List Expression) :
    trees package arguments = arguments.map (tree package) := by
  induction arguments with
  | nil => rfl
  | cons first rest inductionHypothesis =>
      rw [trees, inductionHypothesis, List.map_cons]

/-! ### Expressions are scanned as their tokens -/

section

variable {package : Option String}

/-- The texts of arguments are ended by the parenthesis that closes them. -/
theorem closes_argumentTexts (arguments : List Expression)
    (each : ∀ argument ∈ arguments, Spells (units (expressionText package argument))
      (expressionTokens package argument) (isNumber argument)) :
    Closes (units (Text.joinWith ", " (argumentTexts package arguments)) ++ units ")")
      (commaTokens (argumentTokens package arguments) ++ [.sign ')']) := by
  rw [argumentTexts_eq_map, argumentTokens_eq_map]
  apply closes_arguments
  rw [List.forall₂_map_left_iff, List.forall₂_map_right_iff, List.forall₂_same]
  exact fun argument member => ⟨_, each argument member⟩

variable (package) in
theorem spells_expressionText {expression : Expression} (legal : Throughout isLegal expression)
    (scannable : Throughout isScannable expression) :
    Spells (units (expressionText package expression)) (expressionTokens package expression)
      (isNumber expression) := by
  induction expression using Code.Expression.induction_on_operands with
  | step expression inductionHypothesis =>
      obtain ⟨legal, legalToo⟩ := throughout_iff.1 legal
      obtain ⟨scannable, scannableToo⟩ := throughout_iff.1 scannable
      have each := fun operand member =>
        inductionHypothesis operand member (legalToo operand member) (scannableToo operand member)
      cases expression with
      | null => exact spells_keyword "null" (by decide)
      | bool value =>
          cases value with
          | true => exact spells_keyword "true" (by decide)
          | false => exact spells_keyword "false" (by decide)
      | int value =>
          simp only [isLegal, Bool.and_eq_true, decide_eq_true_eq] at legal
          lift value to Nat using legal.1
          exact spells_number (by omega)
      | string value => exact spells_literal value
      | ident name => exact spells_name legal
      | this => exact spells_keyword "this" (by decide)
      | field target name =>
          have inner := each target (List.mem_singleton_self target)
          simp only [isScannable, Bool.not_eq_true'] at scannable
          have whole := (inner.pointed scannable).append_spells (spells_name legal)
          simpa [expressionText, expressionTokens, isNumber] using whole
      | new type =>
          have word : Closes (units "new ") [.keyword "new"] := by decide
          have called : Delimits (units "()") [.sign '(', .sign ')'] := by decide
          have whole := (word.append ((spells_typeText package legal).delimited called)).spells
          simpa [expressionText, expressionTokens, isNumber] using whole
      | call target method arguments =>
          have given := closes_argumentTexts arguments fun argument inside =>
            each argument (List.mem_cons_of_mem target inside)
          have name := isLegalName_of_isLegal_call legal
          by_cases own : target = .this
          · subst own
            have whole := ((closes_called closes_nil name).append given).spells
            simpa [expressionText, expressionTokens, isNumber] using whole
          · have inner := each target List.mem_cons_self
            simp only [isScannable, Bool.not_eq_true'] at scannable
            have whole := ((closes_called (inner.pointed scannable) name).append given).spells
            rw [expressionText, expressionTokens]
            · simpa [isNumber] using whole
            all_goals exact own
      | superCall method arguments =>
          have given := closes_argumentTexts arguments each
          have whole := ((closes_called closes_super legal).append given).spells
          simpa [expressionText, expressionTokens, isNumber] using whole
      | copyList list =>
          have inner := each list (List.mem_singleton_self list)
          rw [expressionText, units_append, units_append, units_append, expressionTokens,
            List.append_assoc (expressionTokens package list)]
          exact spells_choice inner delimits_copying
      | readOnlyList list =>
          have inner := each list (List.mem_singleton_self list)
          rw [expressionText, units_append, units_append, units_append, expressionTokens,
            List.append_assoc (expressionTokens package list)]
          exact spells_choice inner delimits_viewing

theorem isInert_called {before : List Nat} (inert : IsInert before) {method : String}
    (legal : isLegalName method = true) (arguments : List Expression)
    (each : ∀ argument ∈ arguments, IsInert (units (expressionText package argument))) :
    IsInert (before ++ units method ++ units "(" ++
      units (Text.joinWith ", " (argumentTexts package arguments)) ++ units ")") := by
  have given : IsInert (units (Text.joinWith ", " (argumentTexts package arguments))) := by
    rw [argumentTexts_eq_map]
    exact isInert_joinWith (isInert_fixed ", " (by decide)) (List.forall_mem_map.2 each)
  have opened := (inert.append (isInert_name legal)).append (isInert_fixed "(" (by decide))
  exact (opened.append given).append (isInert_fixed ")" (by decide))

/-- The text of an expression has no Unicode escapes. -/
theorem isInert_expressionText {expression : Expression} (legal : Throughout isLegal expression) :
    IsInert (units (expressionText package expression)) := by
  induction expression using Code.Expression.induction_on_operands with
  | step expression inductionHypothesis =>
      obtain ⟨legal, legalToo⟩ := throughout_iff.1 legal
      have each := fun operand member =>
        inductionHypothesis operand member (legalToo operand member)
      cases expression with
      | null => exact isInert_fixed "null" (by decide)
      | bool value =>
          cases value with
          | true => exact isInert_fixed "true" (by decide)
          | false => exact isInert_fixed "false" (by decide)
      | int value =>
          simp only [isLegal, Bool.and_eq_true, decide_eq_true_eq] at legal
          lift value to Nat using legal.1
          exact isInert_number value
      | string value => exact isInert_literal value
      | ident name => exact isInert_name legal
      | this => exact isInert_fixed "this" (by decide)
      | field target name =>
          have inner := each target (List.mem_singleton_self target)
          rw [expressionText, units_append, units_append]
          exact (inner.append (isInert_fixed "." (by decide))).append (isInert_name legal)
      | new type =>
          have inner := isInert_typeText package legal
          rw [expressionText, units_append, units_append]
          have before := (isInert_fixed "new " (by decide)).append inner
          exact before.append (isInert_fixed "()" (by decide))
      | call target method arguments =>
          have name := isLegalName_of_isLegal_call legal
          have given := fun argument inside =>
            each argument (List.mem_cons_of_mem target inside)
          by_cases own : target = .this
          · subst own
            simpa [expressionText] using isInert_called .nil name arguments given
          · have before := (each target List.mem_cons_self).append
              (isInert_fixed "." (by decide))
            rw [expressionText]
            · simpa using isInert_called before name arguments given
            · exact own
      | superCall method arguments =>
          have before := isInert_fixed "super." (by decide)
          simpa [expressionText] using isInert_called before legal arguments each
      | copyList list | readOnlyList list =>
          have inner := each list (List.mem_singleton_self list)
          rw [expressionText, units_append, units_append, units_append]
          exact ((inner.append (isInert_fixed _ (by decide))).append inner).append
            (isInert_fixed ")" (by decide))

/-! ### What can be scanned has no digits before points -/

theorem throughout_isScannable_arguments {arguments : List Expression}
    (legal : ∀ argument ∈ arguments, Throughout isLegal argument)
    (each : ∀ argument ∈ arguments, Scanned (units (expressionText package argument)) →
      Throughout isScannable argument)
    (scanned : Scanned (units (Text.joinWith ", " (argumentTexts package arguments)))) :
    ∀ argument ∈ arguments, Throughout isScannable argument := by
  rw [argumentTexts_eq_map] at scanned
  induction arguments with
  | nil => exact List.forall_mem_nil _
  | cons first rest inductionHypothesis =>
      rw [List.forall_mem_cons] at legal each ⊢
      cases rest with
      | nil =>
          rw [List.map_singleton, units_joinWith_single] at scanned
          exact ⟨each.1 scanned, List.forall_mem_nil _⟩
      | cons second others =>
          rw [List.map_cons, List.map_cons, units_joinWith_cons] at scanned
          have here := each.1 scanned.left.left
          have comma : Delimits (units ", ") [.sign ','] := by decide
          have later := scanned.right ((spells_expressionText package legal.1 here).delimited comma)
          exact ⟨here, inductionHypothesis legal.2 each.2 later⟩

/-- What can be scanned has no digits before a point. -/
theorem throughout_isScannable {expression : Expression} (legal : Throughout isLegal expression)
    (scanned : Scanned (units (expressionText package expression))) :
    Throughout isScannable expression := by
  induction expression using Code.Expression.induction_on_operands with
  | step expression inductionHypothesis =>
      have ⟨here, legalToo⟩ := throughout_iff.1 legal
      have each := fun operand member =>
        inductionHypothesis operand member (legalToo operand member)
      rw [throughout_iff]
      cases expression with
      | field target name =>
          have targetLegal := legalToo target (List.mem_singleton_self target)
          rw [expressionText, units_append, units_append] at scanned
          have inner := each target (List.mem_singleton_self target) scanned.left.left
          have free := scanned.left.no_number (spells_expressionText package targetLegal inner)
          refine ⟨by simp [isScannable, free], ?_⟩
          exact List.forall_mem_singleton.2 inner
      | call target method arguments =>
          have name := isLegalName_of_isLegal_call here
          have given := throughout_isScannable_arguments
            (fun argument inside => legalToo argument (List.mem_cons_of_mem target inside))
            (fun argument inside => each argument (List.mem_cons_of_mem target inside))
          by_cases own : target = .this
          · subst own
            rw [expressionText, units_append, units_append, units_append] at scanned
            have self : Throughout isScannable .this := by decide
            exact ⟨rfl, List.forall_mem_cons.2
              ⟨self, given (scanned.left.right (closes_called closes_nil name))⟩⟩
          · rw [expressionText, units_append, units_append, units_append, units_append,
              units_append] at scanned
            · have selected := scanned.left.left.left.left
              have inner := each target List.mem_cons_self selected.left
              have targetLegal := legalToo target List.mem_cons_self
              have spelled := spells_expressionText package targetLegal inner
              have free := selected.no_number spelled
              have before := closes_called (spelled.pointed free) name
              refine ⟨by simp [isScannable, free], ?_⟩
              exact List.forall_mem_cons.2 ⟨inner, given (scanned.left.right before)⟩
            · exact own
      | superCall method arguments =>
          rw [expressionText, units_append, units_append, units_append, units_append] at scanned
          have given := scanned.left.right (closes_called closes_super here)
          exact ⟨rfl, throughout_isScannable_arguments legalToo each given⟩
      | copyList list | readOnlyList list =>
          rw [expressionText, units_append, units_append, units_append] at scanned
          have inner := each list (List.mem_singleton_self list) scanned.left.left.left
          exact ⟨rfl, List.forall_mem_singleton.2 inner⟩
      | _ => exact ⟨rfl, List.forall_mem_nil _⟩

end

/-! ### What is read -/

theorem Reads.expression {tokens : List Token} {read : Tree}
    (reads : Reads .primary tokens [read]) : Reads .expression tokens [read] :=
  .ofEquality (.ofPrimary reads)

/-- The part of the grammar that an expression is written in. -/
def phraseOf : Expression → Phrase
  | .copyList _ | .readOnlyList _ => .expression
  | _ => .primary

theorem reads_arguments {tokens : List (List Token)} {given : List Tree}
    (each : List.Forall₂ (fun tokens read => Reads .expression tokens [read]) tokens given) :
    Reads .arguments (.sign '(' :: commaTokens tokens ++ [.sign ')']) given := by
  cases each with
  | nil => exact .noArguments
  | @cons first read rest others here later =>
      apply Reads.someArguments
      induction later generalizing first read with
      | nil => exact .single here
      | cons second _ inductionHypothesis => exact .more here (inductionHypothesis second)

section

variable (package : Option String)

theorem reads_argumentTokens (arguments : List Expression)
    (each : ∀ argument ∈ arguments, Reads .expression (expressionTokens package argument)
      [tree package argument]) :
    Reads .arguments (.sign '(' :: commaTokens (argumentTokens package arguments) ++ [.sign ')'])
      (trees package arguments) := by
  rw [argumentTokens_eq_map, trees_eq_map]
  apply reads_arguments
  rwa [List.forall₂_map_left_iff, List.forall₂_map_right_iff, List.forall₂_same]

/-- A list that is tested for null and then passed on. -/
theorem reads_unlessNull {tokens made : List Token} {list chosen : Tree}
    (reads : Reads .primary tokens [list]) (readsToo : Reads .primary made [chosen]) :
    Reads .expression
      (tokens ++ unlessNullTokens ++ made) [unlessNull list chosen] := by
  have tested := (Reads.ofPrimary reads).equal .null
  have chosen := tested.conditional Reads.null.expression readsToo.expression
  simpa [unlessNull, unlessNullTokens] using chosen

/-- An expression with its operands where they can be is what its tokens are read as. -/
theorem reads_expressionTokens {expression : Expression}
    (placed : Throughout isPlaced expression) :
    Reads (phraseOf expression) (expressionTokens package expression)
      [tree package expression] := by
  induction expression using Code.Expression.induction_on_operands with
  | step expression inductionHypothesis =>
      obtain ⟨here, placedToo⟩ := throughout_iff.1 placed
      have each := fun operand member =>
        inductionHypothesis operand member (placedToo operand member)
      have primary : ∀ operand ∈ expression.operands, isChoice operand = false →
          Reads .primary (expressionTokens package operand) [tree package operand] := by
        intro operand member plain
        have reads := each operand member
        cases operand <;> first | exact reads | cases plain
      have anywhere : ∀ operand ∈ expression.operands,
          Reads .expression (expressionTokens package operand) [tree package operand] := by
        intro operand member
        have reads := each operand member
        cases operand <;> first | exact reads | exact reads.expression
      cases expression with
      | null => exact .null
      | bool value =>
          cases value with
          | true => exact .true
          | false => exact .false
      | int value => exact .integer value.toNat
      | string value => exact .string (units value)
      | ident name => exact .name (units name)
      | this => exact .this
      | field target name =>
          simp only [isPlaced, Bool.not_eq_true'] at here
          exact (primary target (List.mem_singleton_self target) here).field (units name)
      | new type =>
          exact .creation ((isCreated_typeTokens_iff package).2 here) .noArguments
      | call target method arguments =>
          simp only [isPlaced, Bool.not_eq_true'] at here
          have given := reads_argumentTokens package arguments fun argument inside =>
            anywhere argument (List.mem_cons_of_mem target inside)
          by_cases own : target = .this
          · subst own
            exact .ownCall (units method) given
          · have reads := primary target List.mem_cons_self here
            rw [expressionTokens]
            · simpa [phraseOf, tree] using reads.call (units method) given
            · exact own
      | superCall method arguments =>
          exact .superCall (units method) (reads_argumentTokens package arguments anywhere)
      | copyList list =>
          simp only [isPlaced, Bool.not_eq_true'] at here
          have reads := primary list (List.mem_singleton_self list) here
          have created : IsCreated [.name (units "ArrayList"), .sign '<', .sign '>'] :=
            .inr ⟨_, .single _, rfl⟩
          have copied := Reads.creation created (.someArguments (.single reads.expression))
          simpa [phraseOf, expressionTokens, copyTokens, tree] using reads_unlessNull reads copied
      | readOnlyList list =>
          simp only [isPlaced, Bool.not_eq_true'] at here
          have reads := primary list (List.mem_singleton_self list) here
          have viewed := (Reads.name (units "Collections")).call (units "unmodifiableList")
            (.someArguments (.single reads.expression))
          simpa [phraseOf, expressionTokens, viewTokens, tree] using reads_unlessNull reads viewed

theorem isChoice_of_stands {expression : Expression}
    (stands : Stands .equality (tree package expression)) : isChoice expression = false := by
  cases expression with
  | copyList list | readOnlyList list => exact absurd stands not_stands_conditional
  | _ => rfl

/-- What can be read has its operands where they can be. -/
theorem throughout_isPlaced_of_stands {expression : Expression}
    (stands : Stands .expression (tree package expression)) : Throughout isPlaced expression := by
  induction expression using Code.Expression.induction_on_operands with
  | step expression inductionHypothesis =>
      obtain ⟨tokens, reads⟩ := stands
      have parts := reads.decomposes _ (List.mem_singleton_self _)
      have each := fun operand member (reads : Stands .equality (tree package operand)) =>
        inductionHypothesis operand member (reads.imp fun _ => .ofEquality)
      rw [throughout_iff]
      cases expression with
      | field target name =>
          have inner : Stands .equality (tree package target) := Stands.equality parts
          have plain := isChoice_of_stands package inner
          refine ⟨by simp [isPlaced, plain], ?_⟩
          exact List.forall_mem_singleton.2 (each target (List.mem_singleton_self target) inner)
      | new type =>
          exact ⟨(isCreated_typeTokens_iff package).1 parts.1, List.forall_mem_nil _⟩
      | call target method arguments =>
          obtain ⟨receiver, given⟩ := parts
          have plain := isChoice_of_stands package receiver.equality
          rw [trees_eq_map, List.forall_mem_map] at given
          refine ⟨by simp [isPlaced, plain], List.forall_mem_cons.2 ⟨?_, ?_⟩⟩
          · exact each target List.mem_cons_self receiver.equality
          · exact fun argument inside =>
              inductionHypothesis argument (List.mem_cons_of_mem target inside)
                (given argument inside)
      | superCall method arguments =>
          have given : ∀ read ∈ trees package arguments, Stands .expression read := parts
          rw [trees_eq_map, List.forall_mem_map] at given
          exact ⟨rfl, fun argument inside =>
            inductionHypothesis argument inside (given argument inside)⟩
      | copyList list | readOnlyList list =>
          -- What is tested is compared with null, and so stands where no choice can.
          obtain ⟨⟨_, tested⟩, -⟩ := parts
          have compared := (tested.decomposes _ (List.mem_singleton_self _)).1
          have plain := isChoice_of_stands package compared
          refine ⟨by simp [isPlaced, plain], ?_⟩
          exact List.forall_mem_singleton.2 (each list (List.mem_singleton_self list) compared)
      | _ => exact ⟨rfl, List.forall_mem_nil _⟩

theorem readsAs_of_reads {expression : Expression} {read : Tree}
    (legal : Throughout isLegal expression) (scannable : Throughout isScannable expression)
    (reads : Reads .expression (expressionTokens package expression) [read]) :
    ReadsAs (expressionText package expression) read := by
  refine ⟨expressionTokens package expression, ?_, reads⟩
  rw [tokens?, (isInert_expressionText legal).translate_eq, Option.bind_some]
  exact (spells_expressionText package legal scannable).scanAll_eq

theorem reads_back {expression : Expression} (legal : Throughout isLegal expression)
    (readable : Throughout isReadable expression) (read : Tree) :
    ReadsAs (expressionText package expression) read ↔ read = tree package expression := by
  obtain ⟨scannable, placed⟩ := throughout_isReadable_iff.1 readable
  have meant : ReadsAs (expressionText package expression) (tree package expression) := by
    apply readsAs_of_reads package legal scannable
    have reads := reads_expressionTokens package placed
    cases expression <;> first | exact reads | exact reads.expression
  constructor
  · exact fun reads => reads.unique meant
  · rintro rfl
    exact meant

/-- What reads back has its operands where they can be read. -/
theorem throughout_isReadable {expression : Expression} (legal : Throughout isLegal expression)
    (back : ReadsAs (expressionText package expression) (tree package expression)) :
    Throughout isReadable expression := by
  obtain ⟨tokens, scanned, reads⟩ := back
  rw [tokens?, (isInert_expressionText legal).translate_eq, Option.bind_some] at scanned
  exact throughout_isReadable_iff.2 ⟨throughout_isScannable legal (.of_scanAll scanned),
    throughout_isPlaced_of_stands package ⟨tokens, reads⟩⟩

/-- An expression with legal names and numbers reads back, as itself and as nothing else, exactly if
its receivers are neither digits nor lists that are passed on, no list is passed on twice and all
new objects are of types with constructors. -/
theorem reads_back_iff {expression : Expression} (legal : Throughout isLegal expression) :
    (∀ read, ReadsAs (expressionText package expression) read ↔
      read = tree package expression) ↔ Throughout isReadable expression := by
  constructor
  · exact fun back => throughout_isReadable package legal ((back _).2 rfl)
  · exact fun readable => reads_back package legal readable

end

/-- A copy of the list that a call gives, with a view of a list among its arguments. -/
def shelvedCopy : Expression :=
  .copyList (.call .this "shelves" [.readOnlyList (.field (.ident "shelf") "items"), .int 7])

theorem shelvedCopy_reads_back :
    Throughout isLegal shelvedCopy ∧ Throughout isReadable shelvedCopy ∧
      ∀ read, ReadsAs (expressionText none shelvedCopy) read ↔ read = tree none shelvedCopy :=
  have legal : Throughout isLegal shelvedCopy := by decide
  have readable : Throughout isReadable shelvedCopy := by decide
  ⟨legal, readable, (reads_back_iff none legal).2 readable⟩

def copySize : Expression :=
  .call (.copyList (.ident "items")) "size" []

/-- The number is asked of the copy that is chosen, and not of the choice. -/
theorem copySize_readsAs : ReadsAs (expressionText none copySize)
    (unlessNull (.name (units "items"))
      (.call (.creation [.name (units "ArrayList"), .sign '<', .sign '>']
        [.name (units "items")]) (units "size") [])) := by
  apply readsAs_of_reads none (by decide) (by decide)
  have items := Reads.name (units "items")
  have created : IsCreated [.name (units "ArrayList"), .sign '<', .sign '>'] :=
    .inr ⟨_, .single _, rfl⟩
  have copied := Reads.creation created (.someArguments (.single items.expression))
  exact reads_unlessNull items (copied.call (units "size") .noArguments)

theorem not_every_expression_reads_back :
    ¬ ∀ (package : Option String) (expression : Expression), Throughout isLegal expression →
      ∀ read, ReadsAs (expressionText package expression) read ↔
        read = tree package expression := by
  intro back
  have same := (back none copySize (by decide) _).1 copySize_readsAs
  cases same

end Java

end BuilderSynthesis
