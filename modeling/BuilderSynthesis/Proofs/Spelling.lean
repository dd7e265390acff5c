import BuilderSynthesis.Proofs.Lines
import BuilderSynthesis.Proofs.Lists
import BuilderSynthesis.Toml.Document

/-!
Contract: a document that is written in plain lines is read line by line.

A plain line is empty, a header, or a key with a truth value or with a text that needs no escapes.
Keys stand without quotes. Where such lines are written below each other, each is read as the one
expression that it spells, and nothing is left over.

Owns: `Line`, `Line.Plain`, and `read?_document`; `ReadsPlainLines`, the same of any reader.

Does not own: other ways to write the same expressions.
-/

namespace BuilderSynthesis.Toml

/-- A key that can stand without quotes. -/
def IsBareKey (key : String) : Prop :=
  key.toList ≠ [] ∧ ∀ character ∈ key.toList, isBareKeyCharacter character = true

instance (key : String) : Decidable (IsBareKey key) :=
  -- Decided over the text, never over all characters there are.
  letI := List.decidableBAll (isBareKeyCharacter · = true) key.toList
  inferInstanceAs (Decidable (_ ∧ _))

/-- A text that stands for itself between double quotes. -/
def IsVerbatim (text : String) : Prop :=
  ∀ character ∈ text.toList, isPlain character = true ∧ character ≠ '"' ∧ character ≠ '\\'

instance (text : String) : Decidable (IsVerbatim text) :=
  List.decidableBAll
    (fun character => isPlain character = true ∧ character ≠ '"' ∧ character ≠ '\\') text.toList

/-- A line of a document. -/
inductive Line where
  | blank
  | header (path : List String) (key : String)
  | arrayHeader (path : List String) (key : String)
  | text (key value : String)
  | flag (key : String) (value : Bool)

def dotted (path : List String) : List Char :=
  Text.join '.' (path.map String.toList)

namespace Line

/-- A line as it is written, without its end. -/
def spelling : Line → String
  | .blank => ""
  | .header path key => "[" ++ Text.joinWith "." (path ++ [key]) ++ "]"
  | .arrayHeader path key => "[[" ++ Text.joinWith "." (path ++ [key]) ++ "]]"
  | .text key value => key ++ " = \"" ++ value ++ "\""
  | .flag key value => key ++ " = " ++ (if value then "true" else "false")

def characters : Line → List Char
  | .blank => []
  | .header path key => '[' :: (dotted (path ++ [key]) ++ [']'])
  | .arrayHeader path key => '[' :: '[' :: (dotted (path ++ [key]) ++ [']', ']'])
  | .text key value => key.toList ++ ' ' :: '=' :: ' ' :: '"' :: (value.toList ++ ['"'])
  | .flag key value =>
      key.toList ++ ' ' :: '=' :: ' ' :: (if value then "true".toList else "false".toList)

/-- The keys are bare and not too many, and a text stands for itself. -/
def Plain : Line → Prop
  | .blank => True
  | .header path key | .arrayHeader path key =>
      (∀ part ∈ path ++ [key], IsBareKey part) ∧ (path ++ [key]).length ≤ maximalDepth
  | .text key value => IsBareKey key ∧ IsVerbatim value
  | .flag key _ => IsBareKey key

instance (line : Line) : Decidable line.Plain :=
  match line with
  | .blank => .isTrue trivial
  | .header _ _ | .arrayHeader _ _ => inferInstanceAs (Decidable (_ ∧ _))
  | .text _ _ => inferInstanceAs (Decidable (_ ∧ _))
  | .flag key _ => inferInstanceAs (Decidable (IsBareKey key))

/-- What a line says, given where its text stands. -/
def expression? (span : Span) : Line → Option Expression
  | .blank => none
  | .header path key => some (.header path key)
  | .arrayHeader path key => some (.arrayHeader path key)
  | .text key value => some (.binding [] key (.string value span))
  | .flag key value => some (.binding [] key (.boolean value))

end Line

def document (lines : List Line) : String :=
  String.join (lines.map fun line => line.spelling ++ "\n")

def characters (lines : List Line) : List Char :=
  lines.flatMap fun line => line.characters ++ ['\n']

/-- What lines say. The place of the text in a line is told by this line and those after it. -/
def expressions (span : List Line → Span) : List Line → List Expression
  | [] => []
  | line :: rest => (line.expression? (span (line :: rest))).toList ++ expressions span rest

/-- The place of the text in the first of the last lines of a document. -/
def spanIn (total : Nat) : List Line → Span
  | .text _ value :: rest =>
      ⟨total - Schema.byteLength ('"' :: (value.toList ++ '"' :: '\n' :: characters rest)),
        total - Schema.byteLength ('\n' :: characters rest)⟩
  | _ => ⟨0, 0⟩

/-! ### Characters -/

theorem toList_spelling (line : Line) : line.spelling.toList = line.characters := by
  have keys : ∀ path : List String, (Text.joinWith "." path).toList = dotted path := by
    intro path
    rw [dotted, Text.join_eq_intercalate, Text.joinWith, String.toList_intercalate]
    rfl
  cases line with
  | blank => rfl
  | header path key => simp [Line.spelling, Line.characters, keys]
  | arrayHeader path key => simp [Line.spelling, Line.characters, keys]
  | text key value => simp [Line.spelling, Line.characters]
  | flag key value => cases value <;> simp [Line.spelling, Line.characters]

theorem document_cons (line : Line) (rest : List Line) :
    document (line :: rest) = line.spelling ++ "\n" ++ document rest := by
  unfold document
  rw [List.map_cons, String.join_cons]

theorem characters_cons (line : Line) (rest : List Line) :
    characters (line :: rest) = line.characters ++ '\n' :: characters rest := by
  unfold characters
  rw [List.flatMap_cons, List.append_assoc, List.singleton_append]

theorem toList_document (lines : List Line) : (document lines).toList = characters lines := by
  induction lines with
  | nil => rfl
  | cons line rest inductionHypothesis =>
      rw [document_cons, String.toList_append, String.toList_append, toList_spelling,
        inductionHypothesis, characters_cons, List.append_assoc]
      rfl

theorem length_le_length_characters (lines : List Line) :
    lines.length ≤ (characters lines).length := by
  induction lines with
  | nil => exact Nat.le_refl 0
  | cons line rest inductionHypothesis =>
      rw [characters_cons, List.length_append, List.length_cons, List.length_cons]
      omega

/-! ### Keys -/

theorem isBlank_of_bare {character : Char} (bare : isBareKeyCharacter character = true) :
    isBlank character = false := by
  cases blank : isBlank character with
  | false => rfl
  | true =>
      unfold isBlank at blank
      rw [Bool.or_eq_true, beq_iff_eq, beq_iff_eq] at blank
      rcases blank with rfl | rfl <;> exact absurd bare (by decide)

theorem skipBlanks_of_head {text : List Char}
    (first : ∀ first ∈ text.head?, isBlank first = false) : skipBlanks text = text :=
  Lists.dropWhile_append_of_stop (List.forall_mem_nil _) first

theorem IsBareKey.exists_cons {key : String} (bare : IsBareKey key) :
    ∃ first rest, key.toList = first :: rest ∧ isBareKeyCharacter first = true := by
  cases characters : key.toList with
  | nil => exact absurd characters bare.1
  | cons first rest => exact ⟨first, rest, rfl, bare.2 first (characters ▸ List.mem_cons_self)⟩

theorem readKey_of_bare {key : String} (bare : IsBareKey key) {rest : List Char}
    (stop : ∀ next ∈ rest.head?, isBareKeyCharacter next = false) :
    readKey (key.toList ++ rest) = some (key, rest) := by
  unfold readKey
  rw [Lists.takeWhile_append_of_stop bare.2 stop, Lists.dropWhile_append_of_stop bare.2 stop]
  split
  · rename_i empty
    exact absurd empty bare.1
  · rw [String.ofList_toList]

theorem dotted_cons_cons (key next : String) (path : List String) :
    dotted (key :: next :: path) = key.toList ++ '.' :: dotted (next :: path) :=
  rfl

theorem exists_cons_dotted {path : List String} (nonempty : path ≠ [])
    (bare : ∀ key ∈ path, IsBareKey key) :
    ∃ first rest, dotted path = first :: rest ∧ isBareKeyCharacter first = true := by
  obtain ⟨key, others, rfl⟩ := List.exists_cons_of_ne_nil nonempty
  obtain ⟨first, rest, characters, start⟩ := (bare key List.mem_cons_self).exists_cons
  cases others with
  | nil => exact ⟨first, rest, characters, start⟩
  | cons next path =>
      refine ⟨first, rest ++ '.' :: dotted (next :: path), ?_, start⟩
      rw [dotted_cons_cons, characters, List.cons_append]

theorem skipBlanks_dotted {path : List String} (nonempty : path ≠ [])
    (bare : ∀ key ∈ path, IsBareKey key) (rest : List Char) :
    skipBlanks (dotted path ++ rest) = dotted path ++ rest := by
  obtain ⟨first, more, characters, bareFirst⟩ := exists_cons_dotted nonempty bare
  rw [characters, List.cons_append]
  apply skipBlanks_of_head
  rintro _ ⟨⟩
  exact isBlank_of_bare bareFirst

/-- The keys of a dotted path are read up to what is neither a key nor a dot. -/
theorem readPath_dotted {path : List String} (nonempty : path ≠ [])
    (bare : ∀ key ∈ path, IsBareKey key) {limit : Nat} (short : path.length ≤ limit)
    {rest : List Char} (stop : ∀ next ∈ rest.head?, isBareKeyCharacter next = false)
    (ends : ∀ next ∈ (skipBlanks rest).head?, next ≠ '.') :
    readPath limit (dotted path ++ rest) = some (path, skipBlanks rest) := by
  induction path generalizing limit with
  | nil => exact absurd rfl nonempty
  | cons key others inductionHypothesis =>
      rw [List.forall_mem_cons] at bare
      obtain ⟨bareKey, bareOthers⟩ := bare
      cases limit with
      | zero => cases short
      | succ limit =>
          cases others with
          | nil =>
              rw [readPath, show dotted [key] = key.toList from rfl, readKey_of_bare bareKey stop,
                Option.bind_eq_bind, Option.bind_some]
              dsimp only
              split
              · rename_i dot
                exact absurd rfl (ends '.' (by rw [dot]; rfl))
              · rfl
          | cons next path =>
              have dot : ∀ character ∈ ('.' :: (dotted (next :: path) ++ rest)).head?,
                  isBareKeyCharacter character = false := by
                rintro _ ⟨⟩
                decide
              have later := inductionHypothesis (List.cons_ne_nil next path) bareOthers
                (Nat.le_of_succ_le_succ short)
              have start := skipBlanks_dotted (List.cons_ne_nil next path) bareOthers rest
              rw [readPath, dotted_cons_cons, List.append_assoc, List.cons_append,
                readKey_of_bare bareKey dot, Option.bind_eq_bind, Option.bind_some]
              have here : skipBlanks ('.' :: (dotted (next :: path) ++ rest)) =
                '.' :: (dotted (next :: path) ++ rest) := rfl
              simp only [here, start, later]
              rfl

theorem readKeys_dotted {path : List String} {key : String}
    (bare : ∀ part ∈ path ++ [key], IsBareKey part)
    (short : (path ++ [key]).length ≤ maximalDepth) {rest : List Char}
    (stop : ∀ next ∈ rest.head?, isBareKeyCharacter next = false)
    (ends : ∀ next ∈ (skipBlanks rest).head?, next ≠ '.') :
    readKeys (dotted (path ++ [key]) ++ rest) = some (path, key, skipBlanks rest) := by
  unfold readKeys
  rw [readPath_dotted (List.append_ne_nil_of_right_ne_nil _ (List.cons_ne_nil key [])) bare short
    stop ends]
  simp

/-! ### Values -/

/-- A text that needs no escapes is read as it stands. -/
theorem readLine_of_verbatim {text : List Char}
    (verbatim : ∀ character ∈ text, isPlain character = true ∧ character ≠ '"' ∧ character ≠ '\\')
    (rest : List Char) : readLine .basic .nothing (text ++ '"' :: rest) = some (text, rest) := by
  induction text with
  | nil => rfl
  | cons character text inductionHypothesis =>
      rw [List.forall_mem_cons] at verbatim
      obtain ⟨⟨plain, noQuote, noEscape⟩, others⟩ := verbatim
      have goesOn : ¬ (Pending.nothing = .nothing ∧ character = QuoteStyle.basic.delimiter) :=
        fun closes => noQuote closes.2
      have step : lineStep .basic .nothing character = some ([character], .nothing) := by
        unfold lineStep
        rw [if_neg (fun escapes => noEscape escapes.2), if_pos plain]
      rw [List.cons_append, readLine, if_neg goesOn, step]
      simp only [inductionHypothesis others]
      rfl

theorem readQuoted_of_verbatim {text : List Char}
    (verbatim : ∀ character ∈ text, isPlain character = true ∧ character ≠ '"' ∧ character ≠ '\\')
    (rest : List Char) :
    readQuoted ('"' :: (text ++ '"' :: '\n' :: rest)) = some (text, '\n' :: rest) := by
  cases text with
  | nil => rfl
  | cons first others =>
      have noQuote := (verbatim first List.mem_cons_self).2.1
      have line := readLine_of_verbatim verbatim ('\n' :: rest)
      unfold readQuoted
      split
      · rename_i tripled
        exact absurd (List.cons.inj (List.cons.inj tripled).2).1 noQuote
      · rename_i tripled
        cases tripled
      · exact line

theorem readValue_text {value : String} (verbatim : IsVerbatim value) (total : Nat)
    (rest : List Char) :
    readValue total maximalDepth ('"' :: (value.toList ++ '"' :: '\n' :: rest)) =
      some (.string value
        ⟨total - Schema.byteLength ('"' :: (value.toList ++ '"' :: '\n' :: rest)),
          total - Schema.byteLength ('\n' :: rest)⟩, '\n' :: rest) := by
  have scalar : readValue total maximalDepth ('"' :: (value.toList ++ '"' :: '\n' :: rest)) =
    readScalar total ('"' :: (value.toList ++ '"' :: '\n' :: rest)) := rfl
  rw [scalar, readScalar]
  rw [readQuoted_of_verbatim verbatim, Option.map_some, String.ofList_toList]

theorem readValue_flag (total : Nat) (value : Bool) (rest : List Char) :
    readValue total maximalDepth
        ((if value then "true".toList else "false".toList) ++ '\n' :: rest) =
      some (.boolean value, '\n' :: rest) := by
  cases value <;> rfl

/-! ### Lines -/

theorem readBinding_key {key : String} (bare : IsBareKey key) {total : Nat} {value : Value}
    {written rest : List Char} (first : ∀ first ∈ written.head?, isBlank first = false)
    (reads : readValue total maximalDepth written = some (value, rest)) :
    readBinding (some ∘ skipBlanks) (readValue total maximalDepth)
        (key.toList ++ ' ' :: '=' :: ' ' :: written) = some ([], key, value, rest) := by
  have short : ([] ++ [key]).length ≤ maximalDepth := (by decide : 1 ≤ maximalDepth)
  have keys : readKeys (dotted ([] ++ [key]) ++ ' ' :: '=' :: ' ' :: written) =
      some ([], key, skipBlanks (' ' :: '=' :: ' ' :: written)) :=
    readKeys_dotted (List.forall_mem_singleton.2 bare) short (by rintro _ ⟨⟩; decide)
      (by rintro _ ⟨⟩; decide)
  change readKeys (key.toList ++ ' ' :: '=' :: ' ' :: written) = _ at keys
  have equals : skipBlanks (' ' :: '=' :: ' ' :: written) = '=' :: ' ' :: written := rfl
  have blank : skipBlanks (' ' :: written) = written := skipBlanks_of_head first
  unfold readBinding
  rw [keys, equals]
  simp only [Option.bind_eq_bind, Option.bind_some, Function.comp_apply]
  rw [show skipBlanks ('=' :: ' ' :: written) = '=' :: ' ' :: written from rfl]
  simp only [blank, reads, Option.bind_some, Option.pure_def]

theorem readExpression_key {key : String} (bare : IsBareKey key) {total : Nat} {value : Value}
    {written rest : List Char} (first : ∀ first ∈ written.head?, isBlank first = false)
    (reads : readValue total maximalDepth written = some (value, rest)) :
    readExpression total (key.toList ++ ' ' :: '=' :: ' ' :: written) =
      some (.binding [] key value, rest) := by
  have binding := readBinding_key bare first reads
  obtain ⟨start, more, same, bareStart⟩ := bare.exists_cons
  have noBracket : start ≠ '[' := by
    rintro rfl
    exact absurd bareStart (by decide)
  rw [same, List.cons_append] at binding ⊢
  unfold readExpression
  split
  · rename_i bracket
    exact absurd (List.cons.inj bracket).1 noBracket
  · rename_i bracket
    exact absurd (List.cons.inj bracket).1 noBracket
  · rw [binding, Option.map_some]

section

variable {path : List String} {key : String} (bare : ∀ part ∈ path ++ [key], IsBareKey part)
  (short : (path ++ [key]).length ≤ maximalDepth)

include bare short

/-- The keys of a header are read from its first character to its bracket. -/
theorem readKeys_header (rest : List Char) :
    readKeys (skipBlanks (dotted (path ++ [key]) ++ ']' :: rest)) =
      some (path, key, ']' :: rest) := by
  rw [skipBlanks_dotted (List.append_ne_nil_of_right_ne_nil path (List.cons_ne_nil key [])) bare]
  exact readKeys_dotted bare short (by rintro _ ⟨⟩; decide) (by rintro _ ⟨⟩; decide)

theorem readExpression_header (total : Nat) (rest : List Char) :
    readExpression total ('[' :: (dotted (path ++ [key]) ++ ']' :: rest)) =
      some (.header path key, rest) := by
  have keys := readKeys_header bare short rest
  obtain ⟨first, more, characters, bareFirst⟩ :=
    exists_cons_dotted (List.append_ne_nil_of_right_ne_nil path (List.cons_ne_nil key [])) bare
  have noBracket : first ≠ '[' := by
    rintro rfl
    exact absurd bareFirst (by decide)
  have header : readExpression total ('[' :: (dotted (path ++ [key]) ++ ']' :: rest)) =
      readHeader (dotted (path ++ [key]) ++ ']' :: rest) := by
    rw [characters, List.cons_append]
    unfold readExpression
    split
    · rename_i doubled
      exact absurd (List.cons.inj (List.cons.inj doubled).2).1 noBracket
    · rename_i same
      rw [(List.cons.inj same).2]
    · rename_i single
      exact absurd rfl (single _)
  rw [header, readHeader, keys]
  rfl

theorem readExpression_arrayHeader (total : Nat) (rest : List Char) :
    readExpression total ('[' :: '[' :: (dotted (path ++ [key]) ++ ']' :: ']' :: rest)) =
      some (.arrayHeader path key, rest) := by
  have keys := readKeys_header bare short (']' :: rest)
  rw [readExpression, readArrayHeader, keys]
  rfl

end

/-- A plain line is read as the one expression that it spells. -/
theorem Line.Plain.readExpression {line : Line} (plain : line.Plain) {total : Nat}
    {rest : List Line} {expression : Expression}
    (meaning : line.expression? (spanIn total (line :: rest)) = some expression) :
    readExpression total (line.characters ++ '\n' :: Toml.characters rest) =
      some (expression, '\n' :: Toml.characters rest) := by
  cases line with
  | blank => cases meaning
  | header path key =>
      obtain rfl := Option.some.inj meaning
      simpa [Line.characters] using readExpression_header plain.1 plain.2 total _
  | arrayHeader path key =>
      obtain rfl := Option.some.inj meaning
      simpa [Line.characters] using readExpression_arrayHeader plain.1 plain.2 total _
  | text key value =>
      obtain rfl := Option.some.inj meaning
      have reads := readValue_text plain.2 total (Toml.characters rest)
      simpa [Line.characters, spanIn] using
        readExpression_key plain.1 (by rintro _ ⟨⟩; decide) reads
  | flag key value =>
      obtain rfl := Option.some.inj meaning
      have reads := readValue_flag total value (Toml.characters rest)
      have first : ∀ first ∈ ((if value then "true".toList else "false".toList) ++
          '\n' :: Toml.characters rest).head?, isBlank first = false := by
        cases value <;> rintro _ ⟨⟩ <;> decide
      simpa [Line.characters] using readExpression_key plain first reads

/-! ### Documents -/

theorem skipGap_of_start {first : Char} (start : first = '[' ∨ isBareKeyCharacter first = true)
    (rest : List Char) : skipGap false (first :: rest) = some (first :: rest) := by
  have solid : first ≠ '\n' ∧ first ≠ '\r' ∧ first ≠ '#' ∧ isBlank first = false := by
    rcases start with rfl | bare
    · decide
    · refine ⟨?_, ?_, ?_, isBlank_of_bare bare⟩ <;>
        rintro rfl <;>
        exact absurd bare (by decide)
  obtain ⟨noLineFeed, noCarriage, noComment, noBlank⟩ := solid
  unfold skipGap
  split
  · rename_i empty
    cases empty
  · rename_i lineFeed
    exact absurd (List.cons.inj lineFeed).1 noLineFeed
  · rename_i carriage
    exact absurd (List.cons.inj carriage).1 noCarriage
  · rename_i character others _ _ same
    obtain ⟨rfl, rfl⟩ := List.cons.inj same
    simp [noBlank, noComment]

/-- A plain line is empty, or it spells an expression and starts as one. -/
theorem Line.Plain.blank_or_start {line : Line} (plain : line.Plain) :
    line = .blank ∨ ∃ first more, line.characters = first :: more ∧
      (first = '[' ∨ isBareKeyCharacter first = true) ∧
      ∀ span, ∃ expression, line.expression? span = some expression := by
  cases line with
  | blank => exact .inl rfl
  | header path key => exact .inr ⟨'[', _, rfl, .inl rfl, fun _ => ⟨_, rfl⟩⟩
  | arrayHeader path key => exact .inr ⟨'[', _, rfl, .inl rfl, fun _ => ⟨_, rfl⟩⟩
  | text key value =>
      obtain ⟨first, more, same, bareFirst⟩ := plain.1.exists_cons
      rw [Line.characters, same]
      exact .inr ⟨first, _, rfl, .inr bareFirst, fun _ => ⟨_, rfl⟩⟩
  | flag key value =>
      obtain ⟨first, more, same, bareFirst⟩ := IsBareKey.exists_cons plain
      rw [Line.characters, same]
      exact .inr ⟨first, _, rfl, .inr bareFirst, fun _ => ⟨_, rfl⟩⟩

theorem readExpressions_lineFeed (total steps : Nat) (text : List Char) :
    readExpressions total (steps + 1) ('\n' :: text) = readExpressions total (steps + 1) text :=
  rfl

/-- Plain lines below each other are read one by one, and each spells at most one expression. -/
theorem readExpressions_characters {lines : List Line} (plain : ∀ line ∈ lines, line.Plain)
    (total : Nat) {steps : Nat} (enough : lines.length < steps) :
    readExpressions total steps (characters lines) = some (expressions (spanIn total) lines) := by
  induction lines generalizing steps with
  | nil =>
      obtain ⟨steps, rfl⟩ := Nat.exists_eq_succ_of_ne_zero (Nat.ne_zero_of_lt enough)
      rfl
  | cons line rest inductionHypothesis =>
      rw [List.forall_mem_cons] at plain
      obtain ⟨plainLine, plainRest⟩ := plain
      rw [List.length_cons] at enough
      obtain ⟨steps, rfl⟩ := Nat.exists_eq_succ_of_ne_zero (Nat.ne_zero_of_lt enough)
      rw [characters_cons, expressions]
      rcases plainLine.blank_or_start with rfl | ⟨first, more, same, start, expresses⟩
      · exact (readExpressions_lineFeed total steps _).trans
          (inductionHypothesis plainRest (by omega))
      · obtain ⟨expression, meaning⟩ := expresses (spanIn total (line :: rest))
        have reads := plainLine.readExpression meaning
        have kept := skipGap_of_start start (more ++ '\n' :: characters rest)
        have lineEnd : skipLineEnd false ('\n' :: characters rest) = some (characters rest) := rfl
        have later := inductionHypothesis plainRest (by omega : rest.length < steps)
        rw [same, List.cons_append] at reads ⊢
        rw [readExpressions, kept]
        simp only [Option.bind_eq_bind, Option.bind_some, reads, lineEnd, later, meaning]
        rfl

/-- No plain line starts with a byte-order mark. -/
theorem dropByteOrderMark_characters {lines : List Line} (plain : ∀ line ∈ lines, line.Plain) :
    dropByteOrderMark (characters lines) = characters lines := by
  cases lines with
  | nil => rfl
  | cons line rest =>
      rw [characters_cons]
      rcases (plain line List.mem_cons_self).blank_or_start with
        rfl | ⟨first, more, same, start, -⟩
      · rfl
      · have noMark : first ≠ '\uFEFF' := by
          rintro rfl
          revert start
          decide
        rw [same, List.cons_append]
        unfold dropByteOrderMark
        split
        · rename_i marked
          exact absurd (List.cons.inj marked).1 noMark
        · rfl

/-- A document in plain lines is the table that their expressions build. -/
theorem read?_document {lines : List Line} (plain : ∀ line ∈ lines, line.Plain) :
    read? (document lines) =
      assemble? (expressions (spanIn (Schema.byteLength (characters lines))) lines) := by
  have enough := Nat.lt_succ_of_le (length_le_length_characters lines)
  unfold read?
  dsimp only
  rw [toList_document, dropByteOrderMark_characters plain,
    readExpressions_characters plain _ enough]
  rfl

/-- What is asked of a reader of documents: plain lines are the table that their expressions build,
wherever the reader says that texts stand. -/
def ReadsPlainLines (toml : Reader) : Prop :=
  ∀ lines : List Line, (∀ line ∈ lines, line.Plain) →
    ∃ span, toml (document lines) = assemble? (expressions span lines)

theorem readsPlainLines_read? : ReadsPlainLines read? :=
  fun _ plain => ⟨_, read?_document plain⟩

end BuilderSynthesis.Toml
