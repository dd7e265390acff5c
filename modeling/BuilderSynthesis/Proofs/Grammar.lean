import BuilderSynthesis.Proofs.Tokens

/-!
Contract: the expressions of Java that method bodies are made of, as its grammar has them.

Member access, calls and the creation of objects bind tighter than equality, equality binds
tighter than the choice between two expressions, and a choice in the last part of a choice belongs
to that part. An expression in parentheses can stand anywhere. `Reads.unique` says that tokens are
read in one way at most: a machine that takes one token after the other ends with every tree that
the grammar gives them.

Owns: `Tree`, `Reads` and `Reads.unique`; `Reads.decomposes`, what the grammar asks of the parts of
an expression.
-/

namespace BuilderSynthesis.Java

/-- An expression as it is read. -/
inductive Tree where
  | null
  | bool (value : Bool)
  | integer (value : Nat)
  | string (contents : List Nat)
  | name (word : List Nat)
  | this
  | field (target : Tree) (name : List Nat)
  /-- A new object, with the tokens of its type. -/
  | creation (type : List Token) (arguments : List Tree)
  /-- A call; one without a receiver is one of a method of `this`. -/
  | call (target : Tree) (method : List Nat) (arguments : List Tree)
  | superCall (method : List Nat) (arguments : List Tree)
  | equal (left right : Tree)
  | conditional (test yes no : Tree)
  /-- An expression in parentheses. -/
  | group (inner : Tree)

/-! ### The grammar -/

def primitiveWords : List String :=
  ["boolean", "byte", "short", "int", "long", "char", "float", "double"]

/-- The kinds of types, of which only classes have constructors. -/
inductive TypeKind where
  | primitive
  | reference
  | array
deriving DecidableEq

/-- Names with points between them. -/
inductive IsPath : List Token → Prop where
  | single (word : List Nat) : IsPath [.name word]
  | cons (word : List Nat) {rest : List Token} (path : IsPath rest) :
      IsPath (.name word :: .sign '.' :: rest)

/-- The tokens of a type. -/
inductive IsType : TypeKind → List Token → Prop where
  | primitive {word : String} (known : word ∈ primitiveWords) : IsType .primitive [.keyword word]
  | path {tokens : List Token} (path : IsPath tokens) : IsType .reference tokens
  | generic {kind : TypeKind} {tokens argument : List Token} (path : IsPath tokens)
      (type : IsType kind argument) (boxed : kind ≠ .primitive) :
      IsType .reference (tokens ++ .sign '<' :: argument ++ [.sign '>'])
  | array {kind : TypeKind} {tokens : List Token} (element : IsType kind tokens) :
      IsType .array (tokens ++ [.sign '[', .sign ']'])

/-- The tokens of a type of which there can be a new object; the argument of its type can be left
to be found. -/
def IsCreated (tokens : List Token) : Prop :=
  IsType .reference tokens ∨
    ∃ path, IsPath path ∧ tokens = path ++ [.sign '<', .sign '>']

/-- The parts of the grammar, those that bind tighter first. -/
inductive Phrase where
  | primary
  | equality
  | expression
  /-- Expressions with commas between them. -/
  | expressions
  | arguments

/-- The grammar of expressions. -/
inductive Reads : Phrase → List Token → List Tree → Prop where
  | null : Reads .primary [.keyword "null"] [.null]
  | true : Reads .primary [.keyword "true"] [.bool true]
  | false : Reads .primary [.keyword "false"] [.bool false]
  | integer (value : Nat) : Reads .primary [.integer value] [.integer value]
  | string (contents : List Nat) : Reads .primary [.string contents] [.string contents]
  | name (word : List Nat) : Reads .primary [.name word] [.name word]
  | this : Reads .primary [.keyword "this"] [.this]
  | group {tokens : List Token} {inner : Tree} (reads : Reads .expression tokens [inner]) :
      Reads .primary (.sign '(' :: tokens ++ [.sign ')']) [.group inner]
  | field {tokens : List Token} {target : Tree} (reads : Reads .primary tokens [target])
      (name : List Nat) : Reads .primary (tokens ++ [.sign '.', .name name]) [.field target name]
  | creation {type tokens : List Token} {given : List Tree} (created : IsCreated type)
      (arguments : Reads .arguments tokens given) :
      Reads .primary (.keyword "new" :: type ++ tokens) [.creation type given]
  | call {tokens others : List Token} {target : Tree} {given : List Tree}
      (reads : Reads .primary tokens [target]) (method : List Nat)
      (arguments : Reads .arguments others given) :
      Reads .primary (tokens ++ .sign '.' :: .name method :: others) [.call target method given]
  | ownCall {tokens : List Token} {given : List Tree} (method : List Nat)
      (arguments : Reads .arguments tokens given) :
      Reads .primary (.name method :: tokens) [.call .this method given]
  | superCall {tokens : List Token} {given : List Tree} (method : List Nat)
      (arguments : Reads .arguments tokens given) :
      Reads .primary (.keyword "super" :: .sign '.' :: .name method :: tokens)
        [.superCall method given]
  | ofPrimary {tokens : List Token} {tree : Tree} (reads : Reads .primary tokens [tree]) :
      Reads .equality tokens [tree]
  | equal {tokens others : List Token} {left right : Tree}
      (reads : Reads .equality tokens [left]) (readsToo : Reads .primary others [right]) :
      Reads .equality (tokens ++ .equal :: others) [.equal left right]
  | ofEquality {tokens : List Token} {tree : Tree} (reads : Reads .equality tokens [tree]) :
      Reads .expression tokens [tree]
  | conditional {tokens first second : List Token} {test yes no : Tree}
      (reads : Reads .equality tokens [test]) (readsYes : Reads .expression first [yes])
      (readsNo : Reads .expression second [no]) :
      Reads .expression (tokens ++ .sign '?' :: first ++ .sign ':' :: second)
        [.conditional test yes no]
  | single {tokens : List Token} {tree : Tree} (reads : Reads .expression tokens [tree]) :
      Reads .expressions tokens [tree]
  | more {tokens others : List Token} {first : Tree} {rest : List Tree}
      (reads : Reads .expression tokens [first]) (readsRest : Reads .expressions others rest) :
      Reads .expressions (tokens ++ .sign ',' :: others) (first :: rest)
  | noArguments : Reads .arguments [.sign '(', .sign ')'] []
  | someArguments {tokens : List Token} {given : List Tree}
      (reads : Reads .expressions tokens given) :
      Reads .arguments (.sign '(' :: tokens ++ [.sign ')']) given

/-! ### Types -/

theorem IsPath.mem {tokens : List Token} (path : IsPath tokens) {token : Token}
    (member : token ∈ tokens) : token = .sign '.' ∨ ∃ word, token = .name word := by
  induction path with
  | single word => exact .inr ⟨word, List.mem_singleton.1 member⟩
  | cons word path inductionHypothesis =>
      rcases List.mem_cons.1 member with rfl | later
      · exact .inr ⟨word, rfl⟩
      · rcases List.mem_cons.1 later with rfl | inside
        · exact .inl rfl
        · exact inductionHypothesis inside

theorem IsPath.head {tokens : List Token} (path : IsPath tokens) :
    ∃ word rest, tokens = .name word :: rest := by
  cases path with
  | single word => exact ⟨word, [], rfl⟩
  | cons word path => exact ⟨word, _, rfl⟩

/-- The tokens of types are words, names and signs, but no parentheses, and no word for nothing. -/
theorem IsType.not_mem {kind : TypeKind} {tokens : List Token} (type : IsType kind tokens) :
    .sign '(' ∉ tokens ∧ .keyword "void" ∉ tokens := by
  have path_not_mem : ∀ {path : List Token}, IsPath path →
      .sign '(' ∉ path ∧ .keyword "void" ∉ path := by
    intro path isPath
    constructor
    · intro member
      rcases isPath.mem member with same | ⟨word, same⟩ <;> simp at same
    · intro member
      rcases isPath.mem member with same | ⟨word, same⟩ <;> cases same
  induction type with
  | primitive known =>
      constructor
      · simp
      · intro member
        rw [List.mem_singleton, Token.keyword.injEq] at member
        exact absurd (member ▸ known) (by decide)
  | path path => exact path_not_mem path
  | generic path _ _ inductionHypothesis =>
      obtain ⟨one, two⟩ := path_not_mem path
      simp [one, two, inductionHypothesis]
  | array _ inductionHypothesis => simp [inductionHypothesis]

theorem IsCreated.not_mem {tokens : List Token} (created : IsCreated tokens) :
    .sign '(' ∉ tokens ∧ .keyword "void" ∉ tokens := by
  rcases created with type | ⟨path, isPath, rfl⟩
  · exact type.not_mem
  · obtain ⟨one, two⟩ := (IsType.path isPath).not_mem
    simp [one, two]

/-- A type of which there can be a new object starts with a name and does not end like an array. -/
theorem IsCreated.ends {tokens : List Token} (created : IsCreated tokens) :
    (∃ word, tokens.head? = some (.name word)) ∧ tokens.getLast? ≠ some (.sign ']') := by
  have path_ends : ∀ {path : List Token}, IsPath path → path.getLast? ≠ some (.sign ']') := by
    intro path isPath same
    rcases isPath.mem (List.mem_of_getLast? same) with other | ⟨word, other⟩ <;> simp at other
  rcases created with type | ⟨path, isPath, rfl⟩
  · cases type with
    | path isPath =>
        obtain ⟨word, rest, rfl⟩ := isPath.head
        exact ⟨⟨word, rfl⟩, path_ends isPath⟩
    | generic isPath =>
        obtain ⟨word, rest, same⟩ := isPath.head
        refine ⟨⟨word, by simp [same]⟩, ?_⟩
        rw [List.getLast?_concat]
        simp
  · obtain ⟨word, rest, same⟩ := isPath.head
    exact ⟨⟨word, by simp [same]⟩, by simp [List.getLast?_append]⟩

/-! ### A machine that reads expressions -/

/-- What arguments are given to. -/
inductive Callee where
  | method (target : Tree) (name : List Nat)
  | superMethod (name : List Nat)
  | constructor (type : List Token)

def Callee.tree : Callee → List Tree → Tree
  | .method target name, given => .call target name given
  | .superMethod name, given => .superCall name given
  | .constructor type, given => .creation type given

/-- What an expression is read for. -/
inductive Frame where
  /-- An argument, after others. -/
  | argument (callee : Callee) (before : List Tree)
  | group
  /-- The right side of an equality. -/
  | equal (left : Tree)
  /-- What is chosen if a test holds. -/
  | yes (test : Tree)
  /-- What is chosen if it does not. -/
  | no (test yes : Tree)

/-- What has been read of the expression at hand. -/
inductive Mode where
  | start
  | operand (tree : Tree)
  /-- After the point that follows an expression. -/
  | selecting (target : Tree)
  | superWord
  | superPoint
  | superMethod (name : List Nat)
  | creating (type : List Token)

/-- An equality is complete when no more points or calls follow. -/
def joinEqual : List Frame → Tree → List Frame × Tree
  | .equal left :: stack, tree => (stack, .equal left tree)
  | stack, tree => (stack, tree)

def joinChoices : List Frame → Tree → List Frame × Tree
  | .no test yes :: stack, tree => joinChoices stack (.conditional test yes tree)
  | stack, tree => (stack, tree)

/-- What the expression at hand completes. -/
def joinAll (stack : List Frame) (tree : Tree) : List Frame × Tree :=
  joinChoices (joinEqual stack tree).1 (joinEqual stack tree).2

def readStart (stack : List Frame) : Token → Option (List Frame × Mode)
  | .keyword "null" => some (stack, .operand .null)
  | .keyword "true" => some (stack, .operand (.bool true))
  | .keyword "false" => some (stack, .operand (.bool false))
  | .keyword "this" => some (stack, .operand .this)
  | .keyword "super" => some (stack, .superWord)
  | .keyword "new" => some (stack, .creating [])
  | .integer value => some (stack, .operand (.integer value))
  | .string contents => some (stack, .operand (.string contents))
  | .name word => some (stack, .operand (.name word))
  | .sign '(' => some (.group :: stack, .start)
  | .sign ')' =>
      match stack with
      | .argument callee [] :: rest => some (rest, .operand (callee.tree []))
      | _ => none
  | _ => none

/-- A token after an expression that may go on. -/
def readOperand (stack : List Frame) (tree : Tree) : Token → Option (List Frame × Mode)
  | .sign '.' => some (stack, .selecting tree)
  | .sign '(' =>
      match tree with
      | .name method => some (.argument (.method .this method) [] :: stack, .start)
      | .field target method => some (.argument (.method target method) [] :: stack, .start)
      | _ => none
  | .equal =>
      let joined := joinEqual stack tree
      some (.equal joined.2 :: joined.1, .start)
  | .sign '?' =>
      let joined := joinEqual stack tree
      some (.yes joined.2 :: joined.1, .start)
  | .sign ':' =>
      match joinAll stack tree with
      | (.yes test :: rest, yes) => some (.no test yes :: rest, .start)
      | _ => none
  | .sign ',' =>
      match joinAll stack tree with
      | (.argument callee before :: rest, last) =>
          some (.argument callee (before ++ [last]) :: rest, .start)
      | _ => none
  | .sign ')' =>
      match joinAll stack tree with
      | (.argument callee before :: rest, last) =>
          some (rest, .operand (callee.tree (before ++ [last])))
      | (.group :: rest, inner) => some (rest, .operand (.group inner))
      | _ => none
  | _ => none

def readToken (state : List Frame × Mode) (token : Token) : Option (List Frame × Mode) :=
  match state.2, token with
  | .start, token => readStart state.1 token
  | .operand tree, token => readOperand state.1 tree token
  | .selecting target, .name name => some (state.1, .operand (.field target name))
  | .superWord, .sign '.' => some (state.1, .superPoint)
  | .superPoint, .name method => some (state.1, .superMethod method)
  | .superMethod method, .sign '(' =>
      some (.argument (.superMethod method) [] :: state.1, .start)
  | .creating type, .sign '(' => some (.argument (.constructor type) [] :: state.1, .start)
  | .creating type, token => some (state.1, .creating (type ++ [token]))
  | _, _ => none

def readTokens (state : List Frame × Mode) (tokens : List Token) : Option (List Frame × Mode) :=
  tokens.foldlM readToken state

theorem readTokens_append {state later : List Frame × Mode} {first : List Token}
    (reads : readTokens state first = some later) (second : List Token) :
    readTokens state (first ++ second) = readTokens later second := by
  unfold readTokens at *
  rw [List.foldlM_append, reads]
  rfl

theorem readTokens_cons {state later : List Frame × Mode} {token : Token}
    (reads : readToken state token = some later) (rest : List Token) :
    readTokens state (token :: rest) = readTokens later rest := by
  unfold readTokens
  rw [List.foldlM_cons, reads]
  rfl

/-- The tokens of a type are collected up to the arguments of its constructor. -/
theorem readTokens_creating (stack : List Frame) {type : List Token} (plain : .sign '(' ∉ type)
    (before : List Token) :
    readTokens (stack, .creating before) type = some (stack, .creating (before ++ type)) := by
  induction type generalizing before with
  | nil => rw [List.append_nil]; rfl
  | cons token rest inductionHypothesis =>
      rw [List.mem_cons, not_or] at plain
      have here : readToken (stack, .creating before) token =
          some (stack, .creating (before ++ [token])) := by
        unfold readToken
        split <;> simp_all
      rw [readTokens_cons here, inductionHypothesis plain.2, List.append_assoc,
        List.singleton_append]

/-- An equality is not waiting for its right side. -/
def NoEqual (stack : List Frame) : Prop :=
  ∀ tree, joinEqual stack tree = (stack, tree)

/-- What the machine makes of a phrase. It leaves equalities and choices open as long as more
can belong to them, so only what they will be joined to is known. -/
def Processed : Phrase → List Token → List Tree → Prop
  | .primary, tokens, trees => ∀ tree, trees = [tree] → ∀ stack,
      readTokens (stack, .start) tokens = some (stack, .operand tree)
  | .equality, tokens, trees => ∀ tree, trees = [tree] → ∀ stack, NoEqual stack →
      ∃ open' last, readTokens (stack, .start) tokens = some (open', .operand last) ∧
        joinEqual open' last = (stack, tree)
  | .expression, tokens, trees => ∀ tree, trees = [tree] → ∀ stack, NoEqual stack →
      ∃ open' last, readTokens (stack, .start) tokens = some (open', .operand last) ∧
        joinAll open' last = joinChoices stack tree
  | .expressions, tokens, trees => ∀ stack callee before,
      readTokens (.argument callee before :: stack, .start) (tokens ++ [.sign ')']) =
        some (stack, .operand (callee.tree (before ++ trees)))
  | .arguments, tokens, trees => ∃ rest, tokens = .sign '(' :: rest ∧ ∀ stack callee,
      readTokens (.argument callee [] :: stack, .start) rest =
        some (stack, .operand (callee.tree trees))

/-- The machine makes the trees of the grammar. -/
theorem Reads.processed {phrase : Phrase} {tokens : List Token} {trees : List Tree}
    (reads : Reads phrase tokens trees) : Processed phrase tokens trees := by
  induction reads with
  | null | true | false | integer | string | name | this =>
      intro tree same stack
      cases same
      rfl
  | group _ inductionHypothesis =>
      intro tree same stack
      cases same
      obtain ⟨open', last, inner, joined⟩ :=
        inductionHypothesis _ rfl (.group :: stack) (fun _ => rfl)
      rw [List.cons_append, readTokens_cons rfl, readTokens_append inner]
      apply readTokens_cons
      simp [readToken, readOperand, joined, joinChoices]
  | field _ name inductionHypothesis =>
      intro tree same stack
      cases same
      rw [readTokens_append (inductionHypothesis _ rfl stack)]
      rfl
  | creation created _ inductionHypothesis =>
      intro tree same stack
      cases same
      obtain ⟨rest, rfl, given⟩ := inductionHypothesis
      rw [List.cons_append, readTokens_cons rfl,
        readTokens_append (readTokens_creating stack created.not_mem.1 []), readTokens_cons rfl]
      exact given stack _
  | call _ method _ target arguments =>
      intro tree same stack
      cases same
      obtain ⟨rest, rfl, given⟩ := arguments
      rw [readTokens_append (target _ rfl stack), readTokens_cons rfl, readTokens_cons rfl,
        readTokens_cons rfl]
      exact given stack _
  | ownCall method _ arguments =>
      intro tree same stack
      cases same
      obtain ⟨rest, rfl, given⟩ := arguments
      rw [readTokens_cons rfl, readTokens_cons rfl]
      exact given stack _
  | superCall method _ arguments =>
      intro tree same stack
      cases same
      obtain ⟨rest, rfl, given⟩ := arguments
      rw [readTokens_cons rfl, readTokens_cons rfl, readTokens_cons rfl, readTokens_cons rfl]
      exact given stack _
  | ofPrimary _ inductionHypothesis =>
      intro tree same stack settled
      exact ⟨stack, tree, inductionHypothesis tree same stack, settled tree⟩
  | @equal tokens others left right _ _ comparing compared =>
      intro tree same stack settled
      cases same
      obtain ⟨open', last, there, joined⟩ := comparing left rfl stack settled
      refine ⟨.equal left :: stack, right, ?_, rfl⟩
      rw [readTokens_append there, readTokens_cons rfl, joined]
      exact compared right rfl _
  | ofEquality _ inductionHypothesis =>
      intro tree same stack settled
      obtain ⟨open', last, there, joined⟩ := inductionHypothesis tree same stack settled
      exact ⟨open', last, there, by rw [joinAll, joined]⟩
  | @conditional tokens first second test yes no _ _ _ testing choosing otherwise =>
      intro tree same stack settled
      cases same
      obtain ⟨openTest, lastTest, there, joined⟩ := testing test rfl stack settled
      obtain ⟨openYes, lastYes, thereYes, joinedYes⟩ :=
        choosing yes rfl (.yes test :: stack) (fun _ => rfl)
      obtain ⟨openNo, lastNo, thereNo, joinedNo⟩ :=
        otherwise no rfl (.no test yes :: stack) (fun _ => rfl)
      refine ⟨openNo, lastNo, ?_, joinedNo⟩
      have colon : readToken (openYes, .operand lastYes) (.sign ':') =
          some (.no test yes :: stack, .start) := by
        simp [readToken, readOperand, joinedYes, joinChoices]
      rw [List.append_assoc, readTokens_append there, List.cons_append, readTokens_cons rfl, joined,
        readTokens_append thereYes, readTokens_cons colon]
      exact thereNo
  | single _ inductionHypothesis =>
      intro stack callee before
      obtain ⟨open', last, there, joined⟩ :=
        inductionHypothesis _ rfl (.argument callee before :: stack) (fun _ => rfl)
      rw [readTokens_append there]
      apply readTokens_cons
      simp [readToken, readOperand, joined, joinChoices]
  | @more tokens others first rest _ _ here later =>
      intro stack callee before
      obtain ⟨open', last, there, joined⟩ :=
        here first rfl (.argument callee before :: stack) (fun _ => rfl)
      have comma : readToken (open', .operand last) (.sign ',') =
          some (.argument callee (before ++ [first]) :: stack, .start) := by
        simp [readToken, readOperand, joined, joinChoices]
      rw [List.append_assoc, readTokens_append there, List.cons_append, readTokens_cons comma,
        later, List.append_assoc, List.singleton_append]
  | noArguments => exact ⟨_, rfl, fun stack callee => rfl⟩
  | someArguments _ inductionHypothesis =>
      exact ⟨_, rfl, fun stack callee => inductionHypothesis stack callee []⟩

/-- Tokens are read as one expression at most. -/
theorem Reads.unique {tokens : List Token} {one two : Tree}
    (first : Reads .expression tokens [one]) (second : Reads .expression tokens [two]) :
    one = two := by
  obtain ⟨open', last, here, joined⟩ := first.processed one rfl [] (fun _ => rfl)
  obtain ⟨other, final, there, joinedToo⟩ := second.processed two rfl [] (fun _ => rfl)
  rw [here, Option.some.injEq, Prod.mk.injEq, Mode.operand.injEq] at there
  obtain ⟨rfl, rfl⟩ := there
  rw [joined] at joinedToo
  exact congrArg Prod.snd joinedToo

/-! ### Parts of expressions -/

/-- Some tokens are read as a tree. -/
def Stands (phrase : Phrase) (tree : Tree) : Prop :=
  ∃ tokens, Reads phrase tokens [tree]

/-- What the grammar asks of the parts of an expression. -/
def Tree.Decomposes : Tree → Prop
  | .field target _ => Stands .primary target
  | .creation type given => IsCreated type ∧ ∀ tree ∈ given, Stands .expression tree
  | .call target _ given => Stands .primary target ∧ ∀ tree ∈ given, Stands .expression tree
  | .superCall _ given => ∀ tree ∈ given, Stands .expression tree
  | .equal left right => Stands .equality left ∧ Stands .primary right
  | .conditional test yes no =>
      Stands .equality test ∧ Stands .expression yes ∧ Stands .expression no
  | .group inner => Stands .expression inner
  | _ => True

/-- Each of several expressions is an expression. -/
theorem Reads.stand {phrase : Phrase} {tokens : List Token} {trees : List Tree}
    (reads : Reads phrase tokens trees) (several : phrase = .expressions ∨ phrase = .arguments) :
    ∀ tree ∈ trees, Stands .expression tree := by
  induction reads with
  | single reads => exact List.forall_mem_singleton.2 ⟨_, reads⟩
  | more reads _ _ inductionHypothesis =>
      exact List.forall_mem_cons.2 ⟨⟨_, reads⟩, inductionHypothesis (.inl rfl)⟩
  | noArguments => exact List.forall_mem_nil _
  | someArguments _ inductionHypothesis => exact inductionHypothesis (.inl rfl)
  | _ => simp at several

theorem Reads.decomposes {phrase : Phrase} {tokens : List Token} {trees : List Tree}
    (reads : Reads phrase tokens trees) : ∀ tree ∈ trees, tree.Decomposes := by
  induction reads with
  | null | true | false | integer | string | name | this =>
      exact List.forall_mem_singleton.2 trivial
  | group reads => exact List.forall_mem_singleton.2 ⟨_, reads⟩
  | field reads => exact List.forall_mem_singleton.2 ⟨_, reads⟩
  | creation created arguments =>
      exact List.forall_mem_singleton.2 ⟨created, arguments.stand (.inr rfl)⟩
  | call reads _ arguments =>
      exact List.forall_mem_singleton.2 ⟨⟨_, reads⟩, arguments.stand (.inr rfl)⟩
  | ownCall _ arguments =>
      exact List.forall_mem_singleton.2 ⟨⟨_, .this⟩, arguments.stand (.inr rfl)⟩
  | superCall _ arguments => exact List.forall_mem_singleton.2 (arguments.stand (.inr rfl))
  | ofPrimary _ inductionHypothesis => exact inductionHypothesis
  | equal reads readsToo => exact List.forall_mem_singleton.2 ⟨⟨_, reads⟩, _, readsToo⟩
  | ofEquality _ inductionHypothesis => exact inductionHypothesis
  | conditional reads readsYes readsNo =>
      exact List.forall_mem_singleton.2 ⟨⟨_, reads⟩, ⟨_, readsYes⟩, _, readsNo⟩
  | single _ inductionHypothesis => exact inductionHypothesis
  | more _ _ here later =>
      exact List.forall_mem_cons.2 ⟨here _ List.mem_cons_self, later⟩
  | noArguments => exact List.forall_mem_nil _
  | someArguments _ inductionHypothesis => exact inductionHypothesis

/-- A choice is no operand of an equality. -/
theorem not_stands_conditional {test yes no : Tree} :
    ¬ Stands .equality (.conditional test yes no) := by
  rintro ⟨tokens, reads⟩
  cases reads with
  | ofPrimary reads => cases reads

/-- What binds tightest is an operand of an equality. -/
theorem Stands.equality {tree : Tree} (stands : Stands .primary tree) : Stands .equality tree :=
  stands.imp fun _ reads => .ofPrimary reads

end BuilderSynthesis.Java
