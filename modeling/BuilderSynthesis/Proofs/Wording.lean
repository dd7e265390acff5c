import BuilderSynthesis.Proofs.Distinctness

/-!
Contract: which signatures have one text.

The text of a type puts brackets around the texts of elements, and that of a signature puts commas
and parentheses around types. Names that a Java program can have contain none of these, so the text
shows how a type is built, down to a name. It does not show what the name is of: a primitive type,
a class and a type parameter are written alike. `ReadsAs` lists these cases, and signatures have
one text exactly if their names are the same and their parameters read alike.

Owns: `TypeRef.ReadsAs`, `TypeRef.ReadsAlike`, `Method.NamesLegally` and `signature_eq_iff`.
-/

namespace BuilderSynthesis

namespace Lists

variable {mark : α} {more : List α}

theorem intercalate_cons_ne_nil {separator part : List α} (filled : part ≠ [])
    (rest : List (List α)) : List.intercalate separator (part :: rest) ≠ [] := by
  cases rest with
  | nil => simpa [List.intercalate] using filled
  | cons second others => simp [List.intercalate_cons_cons, filled]

/-- With one more separator at the end, every part is followed by one. -/
theorem intercalate_append (separator first : List α) (rest : List (List α)) :
    List.intercalate separator (first :: rest) ++ separator =
      (first :: rest).flatMap (· ++ separator) := by
  induction rest generalizing first with
  | nil => simp [List.intercalate]
  | cons second others inductionHypothesis =>
      rw [List.intercalate_cons_cons, List.append_assoc, inductionHypothesis]
      simp only [List.flatMap_cons]

/-- Parts that are each followed by a separator can be told apart, if the separator begins with an
item that no part has. -/
theorem flatMap_append_inj {left right : List (List α)} (one : ∀ part ∈ left, mark ∉ part)
    (two : ∀ part ∈ right, mark ∉ part)
    (same : left.flatMap (· ++ mark :: more) = right.flatMap (· ++ mark :: more)) :
    left = right := by
  induction left generalizing right with
  | nil =>
      cases right with
      | nil => rfl
      | cons other others => simp at same
  | cons first rest inductionHypothesis =>
      cases right with
      | nil => simp at same
      | cons other others =>
          rw [List.forall_mem_cons] at one two
          rw [List.flatMap_cons, List.flatMap_cons, List.append_assoc, List.append_assoc,
            List.cons_append, List.cons_append] at same
          obtain ⟨rfl, tails⟩ := cons_append_inj_of_not_mem one.1 two.1 same
          rw [inductionHypothesis one.2 two.2 (List.append_cancel_left tails)]

/-- The same for parts with separators between them, if no part is empty. -/
theorem intercalate_inj {left right : List (List α)}
    (one : ∀ part ∈ left, part ≠ [] ∧ mark ∉ part)
    (two : ∀ part ∈ right, part ≠ [] ∧ mark ∉ part)
    (same : List.intercalate (mark :: more) left = List.intercalate (mark :: more) right) :
    left = right := by
  cases left with
  | nil =>
      cases right with
      | nil => rfl
      | cons other others =>
          exact absurd same.symm (intercalate_cons_ne_nil (two other List.mem_cons_self).1 others)
  | cons first rest =>
      cases right with
      | nil => exact absurd same (intercalate_cons_ne_nil (one first List.mem_cons_self).1 rest)
      | cons other others =>
          have followed := congrArg (· ++ mark :: more) same
          simp only [intercalate_append] at followed
          exact flatMap_append_inj (fun part member => (one part member).2)
            (fun part member => (two part member).2) followed

end Lists

namespace Code

open Java (IsPlain IsUsable isIdentifierPart)
open Schema (Primitive)

namespace TypeRef

/-! ### Types with one text -/

/-- A type is written like another that is a different one. -/
inductive ReadsAs : TypeRef → TypeRef → Prop where
  /-- A primitive type, and a class of its name. -/
  | primitiveClass (kind : Primitive) : ReadsAs (.primitive kind) (.named kind.name)
  /-- A primitive type, and a type parameter of its name. -/
  | primitiveParameter (kind : Primitive) : ReadsAs (.primitive kind) (.var kind.name)
  /-- A type parameter, and a class of its name. -/
  | parameterClass (name : String) : ReadsAs (.var name) (.named name)
  | array {one other : TypeRef} (elements : ReadsAs one other) : ReadsAs (.array one) (.array other)
  | list {one other : TypeRef} (elements : ReadsAs one other) : ReadsAs (.list one) (.list other)

/-- Two types are the same, or are written as if they were. -/
def ReadsAlike (left right : TypeRef) : Prop :=
  left = right ∨ left.ReadsAs right ∨ right.ReadsAs left

/-- A type without type parameters, and without classes that are named like a primitive type. -/
def IsUnmistakable : TypeRef → Prop
  | .array element => element.IsUnmistakable
  | .list element => element.IsUnmistakable
  | .named className => Primitive.ofName? className = none
  | .var _ => False
  | .primitive _ => True
  | .unit => True

instance decideUnmistakable : (type : TypeRef) → Decidable type.IsUnmistakable
  | .array element => decideUnmistakable element
  | .list element => decideUnmistakable element
  | .named className => inferInstanceAs (Decidable (Primitive.ofName? className = none))
  | .var _ => inferInstanceAs (Decidable False)
  | .primitive _ => inferInstanceAs (Decidable True)
  | .unit => inferInstanceAs (Decidable True)

theorem ReadsAs.text_eq {one other : TypeRef} (reads : one.ReadsAs other) :
    one.text = other.text := by
  induction reads with
  | array _ inductionHypothesis => simp only [text, inductionHypothesis]
  | list _ inductionHypothesis => simp only [text, inductionHypothesis]
  | _ => rfl

theorem ReadsAlike.text_eq {left right : TypeRef} (alike : left.ReadsAlike right) :
    left.text = right.text := by
  rcases alike with rfl | reads | reads
  · rfl
  · exact reads.text_eq
  · exact reads.text_eq.symm

theorem ReadsAlike.array {left right : TypeRef} (alike : left.ReadsAlike right) :
    (TypeRef.array left).ReadsAlike (.array right) :=
  alike.imp (congrArg _) (Or.imp .array .array)

theorem ReadsAlike.list {left right : TypeRef} (alike : left.ReadsAlike right) :
    (TypeRef.list left).ReadsAlike (.list right) :=
  alike.imp (congrArg _) (Or.imp .list .list)

theorem ReadsAs.not_unmistakable {one other : TypeRef} (reads : one.ReadsAs other) :
    ¬ (one.IsUnmistakable ∧ other.IsUnmistakable) := by
  induction reads with
  | primitiveClass kind =>
      rintro ⟨-, unlike⟩
      exact Option.some_ne_none kind ((Primitive.ofName?_name kind).symm.trans unlike)
  | primitiveParameter kind => exact And.right
  | parameterClass name => exact And.left
  | array _ inductionHypothesis => exact inductionHypothesis
  | list _ inductionHypothesis => exact inductionHypothesis

/-! ### What a text shows -/

def bracket? : TypeRef → Option Char
  | .array _ => some ']'
  | .list _ => some '>'
  | _ => none

def isBracket (character : Char) : Bool :=
  ['[', ']', '<', '>'].contains character

theorem isPlain_text_primitive (kind : Primitive) : IsPlain kind.name := by
  apply Java.isPlain_of_all
  cases kind <;> decide

theorem isPlain_of_isUsablePath {name : String} (path : Manifest.IsUsablePath name) :
    IsPlain name :=
  (Java.isClassName_of_isUsablePath path).isPlain

/-- The text of a type has the characters of names, and brackets. -/
theorem mem_text_cases {type : TypeRef} (legal : type.Legal) {character : Char}
    (member : character ∈ type.text.toList) :
    (isIdentifierPart character = true ∨ character = '.') ∨ isBracket character = true := by
  have around : ∀ text : String, text.toList.all isBracket = true → character ∈ text.toList →
      isBracket character = true := fun _ all here => List.all_eq_true.1 all character here
  induction type with
  | array element inductionHypothesis =>
      rw [text, String.toList_append, List.mem_append] at member
      exact member.elim (inductionHypothesis legal) fun here => .inr (around "[]" (by decide) here)
  | list element inductionHypothesis =>
      rw [text, String.toList_append, String.toList_append, List.mem_append, List.mem_append]
        at member
      rcases member with (before | inside) | behind
      · rcases List.mem_append.1 (show character ∈ "list".toList ++ "<".toList from before) with
          word | bracket
        · exact .inl (Java.isPlain_of_all (by decide) character word)
        · exact .inr (around "<" (by decide) bracket)
      · exact inductionHypothesis legal inside
      · exact .inr (around ">" (by decide) behind)
  | primitive kind => exact .inl (isPlain_text_primitive kind character member)
  | named className => exact .inl (isPlain_of_isUsablePath legal character member)
  | var parameter => exact .inl (isPlain_of_isUsablePath legal.isUsablePath character member)
  | unit => exact .inl (Java.isPlain_of_all (by decide) character member)

theorem text_ne_nil {type : TypeRef} (legal : type.Legal) : type.text.toList ≠ [] := by
  have filled : ∀ {name : String}, Manifest.IsUsablePath name → name.toList ≠ [] := by
    intro name path empty
    obtain rfl : name = "" := String.toList_inj.1 empty
    exact absurd (path "" (by decide)) (by decide)
  cases type with
  | array element => simp [text, String.toList_append]
  | list element => simp [text, String.toList_append]
  | primitive kind => cases kind <;> decide
  | named className => exact filled legal
  | var parameter => exact filled legal.isUsablePath
  | unit => decide

/-- A text ends with a bracket exactly if that of the type does. -/
theorem bracket?_eq {type : TypeRef} (legal : type.Legal) :
    type.bracket? = type.text.toList.getLast?.filter isBracket := by
  have plain : ∀ {name : String}, IsPlain name → none = name.toList.getLast?.filter isBracket := by
    intro name characters
    rw [eq_comm, Option.filter_eq_none_iff]
    intro character last bracket
    have outside : ['[', ']', '<', '>'].all
        (fun other => !(isIdentifierPart other || other == '.')) = true := by
      decide
    have foreign := List.all_eq_true.1 outside character (List.contains_iff_mem.1 bracket)
    have own := characters character (List.mem_of_getLast? last)
    rw [← beq_iff_eq (b := '.'), ← Bool.or_eq_true] at own
    rw [own] at foreign
    cases foreign
  cases type with
  | array element =>
      have last : (element.text ++ "[]").toList.getLast? = some ']' := by
        rw [String.toList_append, List.getLast?_append]
        rfl
      rw [bracket?, text, last]
      rfl
  | list element =>
      have last : ("list<" ++ element.text ++ ">").toList.getLast? = some '>' := by
        rw [String.toList_append, List.getLast?_append]
        rfl
      rw [bracket?, text, last]
      rfl
  | primitive kind => exact plain (isPlain_text_primitive kind)
  | named className => exact plain (isPlain_of_isUsablePath legal)
  | var parameter => exact plain (isPlain_of_isUsablePath legal.isUsablePath)
  | unit => exact plain (Java.isPlain_of_all (by decide))

theorem ReadsAlike.symm {left right : TypeRef} (alike : left.ReadsAlike right) :
    right.ReadsAlike left := by
  rcases alike with rfl | reads | reads
  · exact .inl rfl
  · exact .inr (.inr reads)
  · exact .inr (.inl reads)

theorem bracket?_congr {left right : TypeRef} (legal : left.Legal) (too : right.Legal)
    (same : left.text = right.text) : left.bracket? = right.bracket? := by
  rw [bracket?_eq legal, bracket?_eq too, same]

theorem not_isUsablePath_void : ¬ Manifest.IsUsablePath "void" := by
  intro path
  exact absurd (Java.isClassName_of_isUsablePath path).unreserved (by decide)

/-- A name that is written like a primitive type is of that type, of a class or of a type
parameter. -/
theorem readsAlike_primitive {kind : Primitive} {other : TypeRef} (leaf : other.bracket? = none)
    (same : kind.name = other.text) : (TypeRef.primitive kind).ReadsAlike other := by
  cases other with
  | array element => cases leaf
  | list element => cases leaf
  | primitive second =>
      have known := Primitive.ofName?_name kind
      rw [show kind.name = second.name from same, Primitive.ofName?_name] at known
      exact .inl (congrArg _ (Option.some.inj known).symm)
  | named className =>
      obtain rfl : kind.name = className := same
      exact .inr (.inl (.primitiveClass kind))
  | var parameter =>
      obtain rfl : kind.name = parameter := same
      exact .inr (.inl (.primitiveParameter kind))
  | unit =>
      have different : kind.name ≠ "void" := by
        cases kind <;> decide
      exact absurd same different

theorem readsAlike_named {className : String} {other : TypeRef}
    (legal : (TypeRef.named className).Legal) (leaf : other.bracket? = none)
    (same : className = other.text) : (TypeRef.named className).ReadsAlike other := by
  cases other with
  | array element => cases leaf
  | list element => cases leaf
  | primitive kind =>
      have alike : (TypeRef.primitive kind).ReadsAlike (.named className) :=
        readsAlike_primitive rfl same.symm
      exact alike.symm
  | named second => exact .inl (congrArg _ same)
  | var parameter =>
      obtain rfl : className = parameter := same
      exact .inr (.inr (.parameterClass className))
  | unit =>
      obtain rfl : className = "void" := same
      exact absurd legal not_isUsablePath_void

theorem readsAlike_var {parameter : String} {other : TypeRef}
    (legal : (TypeRef.var parameter).Legal) (too : other.Legal) (leaf : other.bracket? = none)
    (same : parameter = other.text) : (TypeRef.var parameter).ReadsAlike other := by
  cases other with
  | array element => cases leaf
  | list element => cases leaf
  | primitive kind =>
      have alike : (TypeRef.primitive kind).ReadsAlike (.var parameter) :=
        readsAlike_primitive rfl same.symm
      exact alike.symm
  | named className =>
      have alike : (TypeRef.named className).ReadsAlike (.var parameter) :=
        readsAlike_named too rfl same.symm
      exact alike.symm
  | var second => exact .inl (congrArg _ same)
  | unit =>
      obtain rfl : parameter = "void" := same
      exact absurd legal.isUsablePath not_isUsablePath_void

theorem readsAlike_unit {other : TypeRef} (too : other.Legal) (leaf : other.bracket? = none)
    (same : TypeRef.unit.text = other.text) : TypeRef.unit.ReadsAlike other := by
  cases other with
  | array element => cases leaf
  | list element => cases leaf
  | primitive kind =>
      have alike : (TypeRef.primitive kind).ReadsAlike .unit := readsAlike_primitive rfl same.symm
      exact alike.symm
  | named className =>
      have alike : (TypeRef.named className).ReadsAlike .unit := readsAlike_named too rfl same.symm
      exact alike.symm
  | var parameter =>
      have alike : (TypeRef.var parameter).ReadsAlike .unit :=
        readsAlike_var too trivial rfl same.symm
      exact alike.symm
  | unit => exact .inl rfl

/-- Types with one text are built in one way, up to what the name inside is of. -/
theorem readsAlike_of_text_eq {left right : TypeRef} (legal : left.Legal) (too : right.Legal)
    (same : left.text = right.text) : left.ReadsAlike right := by
  induction left generalizing right with
  | array element inductionHypothesis =>
      cases right with
      | array other =>
          exact (@inductionHypothesis other legal too ((String.append_left_inj "[]").1 same)).array
      | _ => cases bracket?_congr legal too same
  | list element inductionHypothesis =>
      cases right with
      | list other =>
          have elements := (String.append_right_inj "list<").1 ((String.append_left_inj ">").1 same)
          exact (@inductionHypothesis other legal too elements).list
      | _ => cases bracket?_congr legal too same
  | primitive kind => exact readsAlike_primitive (bracket?_congr legal too same).symm same
  | named className => exact readsAlike_named legal (bracket?_congr legal too same).symm same
  | var parameter => exact readsAlike_var legal too (bracket?_congr legal too same).symm same
  | unit => exact readsAlike_unit too (bracket?_congr legal too same).symm same

theorem text_eq_iff {left right : TypeRef} (legal : left.Legal) (too : right.Legal) :
    left.text = right.text ↔ left.ReadsAlike right :=
  ⟨readsAlike_of_text_eq legal too, ReadsAlike.text_eq⟩

theorem ReadsAlike.eq_of_unmistakable {left right : TypeRef} (alike : left.ReadsAlike right)
    (one : left.IsUnmistakable) (two : right.IsUnmistakable) : left = right := by
  rcases alike with same | reads | reads
  · exact same
  · exact absurd ⟨one, two⟩ reads.not_unmistakable
  · exact absurd ⟨two, one⟩ reads.not_unmistakable

theorem map_text_eq_iff {left right : List TypeRef} (legal : ∀ type ∈ left, type.Legal)
    (too : ∀ type ∈ right, type.Legal) :
    left.map text = right.map text ↔ List.Forall₂ ReadsAlike left right := by
  induction left generalizing right with
  | nil => cases right <;> simp
  | cons first rest inductionHypothesis =>
      cases right with
      | nil => simp
      | cons other others =>
          rw [List.forall_mem_cons] at legal too
          rw [List.map_cons, List.map_cons, List.cons.injEq, text_eq_iff legal.1 too.1,
            inductionHypothesis legal.2 too.2, List.forall₂_cons]

theorem forall₂_readsAlike_iff {left right : List TypeRef}
    (one : ∀ type ∈ left, type.IsUnmistakable) (two : ∀ type ∈ right, type.IsUnmistakable) :
    List.Forall₂ ReadsAlike left right ↔ left = right := by
  constructor
  · intro alike
    induction alike with
    | nil => rfl
    | cons first _ inductionHypothesis =>
        rw [List.forall_mem_cons] at one two
        rw [first.eq_of_unmistakable one.1 two.1, inductionHypothesis one.2 two.2]
  · rintro rfl
    exact List.forall₂_same.2 fun _ _ => .inl rfl

end TypeRef

/-! ### Signatures with one text -/

namespace Method

/-- A Java program can have the name of a method and the names in the types of its signature. -/
structure NamesLegally (method : Method) : Prop where
  name : IsUsable method.name
  parameters : ∀ parameter ∈ method.parameters, parameter.type.Legal
  bounds : ∀ parameter ∈ method.typeParameters, ∀ bound ∈ parameter.bounds, bound.Legal

theorem NamesLegally.erasure {method : Method} (legal : method.NamesLegally)
    {parameter : TypeParameter} (member : parameter ∈ method.typeParameters) :
    parameter.erasure.Legal := by
  unfold TypeParameter.erasure
  cases bounds : parameter.bounds with
  | nil =>
      show Manifest.IsUsablePath objectType
      unfold Manifest.IsUsablePath
      decide
  | cons bound rest => exact legal.bounds parameter member bound (bounds ▸ List.mem_cons_self)

theorem NamesLegally.erase {method : Method} (legal : method.NamesLegally) {type : TypeRef}
    (own : type.Legal) : (method.erase type).Legal := by
  induction type with
  | var name =>
      cases known : method.typeParameter? name with
      | none => simpa only [Method.erase, known] using own
      | some parameter =>
          simp only [Method.erase, known]
          exact legal.erasure (List.mem_of_find?_eq_some known)
  | array element inductionHypothesis => exact inductionHypothesis own
  | list element inductionHypothesis => exact inductionHypothesis own
  | _ => exact own

theorem NamesLegally.erasedParameters {method : Method} (legal : method.NamesLegally) :
    ∀ type ∈ method.erasedParameters, type.Legal := by
  intro type member
  obtain ⟨parameter, listed, rfl⟩ := List.mem_map.1 member
  exact legal.erase (legal.parameters parameter listed)

theorem comma_not_mem_text {type : TypeRef} (legal : type.Legal) : ',' ∉ type.text.toList := by
  intro member
  exact absurd (TypeRef.mem_text_cases legal member) (by decide)

/-- Signatures with one text have one name, and parameters with one text each. -/
theorem signature_eq_iff_texts {left right : Method} (legal : left.NamesLegally)
    (too : right.NamesLegally) :
    left.signature = right.signature ↔ left.name = right.name ∧
      left.erasedParameters.map TypeRef.text = right.erasedParameters.map TypeRef.text := by
  constructor
  · intro same
    unfold signature at same
    rw [String.append_left_inj, ← String.toList_inj, String.toList_append, String.toList_append,
      String.toList_append, String.toList_append, List.append_assoc, List.append_assoc] at same
    obtain ⟨names, types⟩ := Lists.cons_append_inj_of_not_mem
      (legal.name.1.not_mem (by decide)) (too.name.1.not_mem (by decide)) same
    refine ⟨String.toList_inj.1 names, ?_⟩
    rw [String.toList_intercalate, String.toList_intercalate] at types
    have parts : ∀ method : Method, method.NamesLegally →
        ∀ part ∈ (method.erasedParameters.map TypeRef.text).map String.toList,
          part ≠ [] ∧ ',' ∉ part := by
      intro method legal part member
      obtain ⟨text, listed, rfl⟩ := List.mem_map.1 member
      obtain ⟨type, known, rfl⟩ := List.mem_map.1 listed
      have own := legal.erasedParameters type known
      exact ⟨TypeRef.text_ne_nil own, comma_not_mem_text own⟩
    have equal := Lists.intercalate_inj (parts left legal) (parts right too) types
    exact List.map_injective_iff.2 (fun _ _ => String.toList_inj.1) equal
  · rintro ⟨names, types⟩
    unfold signature
    rw [names, types]

/-- Signatures have one text exactly if their names are the same and their parameters read alike.
Where no type can be mistaken, the text is as good as the signature. -/
theorem signature_eq_iff {left right : Method} (legal : left.NamesLegally)
    (too : right.NamesLegally) :
    (left.signature = right.signature ↔ left.name = right.name ∧
      List.Forall₂ TypeRef.ReadsAlike left.erasedParameters right.erasedParameters) ∧
    ((∀ type ∈ left.erasedParameters ++ right.erasedParameters, type.IsUnmistakable) →
      (left.signature = right.signature ↔ left.sameSignature right = true)) := by
  have alike : left.signature = right.signature ↔ left.name = right.name ∧
      List.Forall₂ TypeRef.ReadsAlike left.erasedParameters right.erasedParameters := by
    rw [signature_eq_iff_texts legal too,
      TypeRef.map_text_eq_iff legal.erasedParameters too.erasedParameters]
  refine ⟨alike, fun unmistakable => ?_⟩
  rw [List.forall_mem_append] at unmistakable
  rw [alike, TypeRef.forall₂_readsAlike_iff unmistakable.1 unmistakable.2, sameSignature,
    Bool.and_eq_true, beq_iff_eq, beq_iff_eq]

/-- A setter for one type. -/
def colouring (type : TypeRef) : Method where
  name := "withColour"
  parameters := [{ name := "colour", type := type }]

theorem namesLegally_colouring (type : TypeRef) (legal : type.Legal) :
    (colouring type).NamesLegally where
  name := show IsUsable "withColour" by decide
  parameters := List.forall_mem_singleton.2 legal
  bounds := fun _ member => nomatch member

theorem legal_string : (TypeRef.named "string").Legal := by
  show Manifest.IsUsablePath "string"
  unfold Manifest.IsUsablePath
  decide

theorem colouring_signature_eq_iff :
    (colouring (.array (.primitive .string))).NamesLegally ∧
      (colouring (.array (.named "string"))).NamesLegally ∧
      (colouring (.array (.primitive .string))).signature =
        (colouring (.array (.named "string"))).signature ∧
      (colouring (.list (.primitive .string))).NamesLegally ∧
      (colouring (.list (.primitive .string))).signature ≠
        (colouring (.array (.primitive .string))).signature := by
  have one := namesLegally_colouring (.array (.primitive .string)) trivial
  have two := namesLegally_colouring (.array (.named "string")) legal_string
  have three := namesLegally_colouring (.list (.primitive .string)) trivial
  have alike : (TypeRef.array (.primitive .string)).ReadsAlike (.array (.named "string")) :=
    .inr (.inl (.array (.primitiveClass .string)))
  refine ⟨one, two, (signature_eq_iff one two).1.2 ⟨rfl, .cons alike .nil⟩, three, ?_⟩
  rw [Ne, (signature_eq_iff three one).2 (by decide)]
  decide

theorem not_every_text_is_of_one_signature :
    ¬ ∀ left right : Method, left.NamesLegally → right.NamesLegally →
      (left.signature = right.signature ↔
        left.name = right.name ∧ left.erasedParameters = right.erasedParameters) := by
  intro always
  have same := (always (colouring (.primitive .string)) (colouring (.named "string"))
    (namesLegally_colouring _ trivial) (namesLegally_colouring _ legal_string)).1 rfl
  exact absurd same.2 (by decide)

end Method

end Code

end BuilderSynthesis
