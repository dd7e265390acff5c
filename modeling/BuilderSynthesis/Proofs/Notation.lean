import BuilderSynthesis.Proofs.Distinctness
import BuilderSynthesis.Proofs.Trimming
import BuilderSynthesis.Schema.Tree

/-!
Contract: which texts are notations of field types, and that types are shown as notations.

`Writes` says how a notation is written: its form, with padding around the whole and around the
element. Reading and writing agree, since the brackets of a form occur in no element. The element
of a field of an accepted manifest is named by a primitive or by identifiers between dots, so
what is shown for the field is a notation too.

Owns: `IsElementText`, `form`, `Writes`, and `read?_eq_some_iff`.
-/

namespace BuilderSynthesis

namespace Text

theorem dropTrailing?_eq_some_iff {pattern text rest : List Char} :
    dropTrailing? pattern text = some rest ↔ text = rest ++ pattern := by
  unfold dropTrailing?
  simp only [Option.map_eq_some_iff, dropLeading?_eq_some_iff]
  constructor
  · rintro ⟨reversed, parts, rfl⟩
    rw [← List.reverse_reverse text, parts, List.reverse_append, List.reverse_reverse]
  · rintro rfl
    exact ⟨rest.reverse, List.reverse_append, List.reverse_reverse rest⟩

end Text

namespace Manifest.TypeNotation

open Schema (Cardinality)
open Text (IsPadding IsTrimmed dropLeading?_eq_some_iff dropTrailing?_eq_some_iff isPadding_nil
  isTrimmed_of_forall trimBlanks_eq_iff trimBlanks_padded)

/-- A text that can stand for an element. -/
structure IsElementText (element : List Char) : Prop where
  nonempty : element ≠ []
  trimmed : IsTrimmed element
  unbroken : ∀ character ∈ element, isSeparator character = false

def form (cardinality : Cardinality) (element : List Char) : List Char :=
  match cardinality with
  | .single => element
  | .array => element ++ ['[', ']']
  | .list => ['l', 'i', 's', 't', '<'] ++ element ++ ['>']

/-- A text is the form of a notation, with padding around it and around the element. -/
def Writes (text : List Char) (typeNotation : TypeNotation) : Prop :=
  ∃ before inner behind after, IsPadding before ∧ IsPadding inner ∧ IsPadding behind ∧
    IsPadding after ∧
    text = before ++
      form typeNotation.cardinality (inner ++ typeNotation.element.toList ++ behind) ++ after

/-! ### Reading -/

section

variable {element : List Char} (isElement : IsElementText element)

include isElement

theorem IsElementText.not_mem {separator : Char} (separates : isSeparator separator = true) :
    separator ∉ element := by
  intro member
  rw [isElement.unbroken separator member] at separates
  cases separates

/-- An element alone has neither the end of an array nor the start of a list. -/
theorem unwrap_single : unwrap element = (element, .single) := by
  have noArray : Text.dropTrailing? ['[', ']'] element = none := by
    rw [Option.eq_none_iff_forall_ne_some]
    intro inner found
    apply isElement.not_mem (by decide : isSeparator ']' = true)
    simp [dropTrailing?_eq_some_iff.1 found]
  have noList : Text.dropLeading? ['l', 'i', 's', 't', '<'] element = none := by
    rw [Option.eq_none_iff_forall_ne_some]
    intro inner found
    apply isElement.not_mem (by decide : isSeparator '<' = true)
    simp [dropLeading?_eq_some_iff.1 found]
  simp only [unwrap, noArray, noList, Option.bind_none]

theorem unwrap_array {inner behind : List Char} (blankInner : IsPadding inner)
    (blankBehind : IsPadding behind) :
    unwrap (form .array (inner ++ element ++ behind)) = (element, .array) := by
  have array := dropTrailing?_eq_some_iff.2 (rfl : form .array (inner ++ element ++ behind) = _)
  simp only [unwrap, array, trimBlanks_padded blankInner isElement.trimmed blankBehind]

theorem unwrap_list {inner behind : List Char} (blankInner : IsPadding inner)
    (blankBehind : IsPadding behind) :
    unwrap (form .list (inner ++ element ++ behind)) = (element, .list) := by
  have noArray : Text.dropTrailing? ['[', ']'] (form .list (inner ++ element ++ behind)) =
      none := by
    rw [Option.eq_none_iff_forall_ne_some]
    intro rest found
    have mirrored := congrArg List.reverse (dropTrailing?_eq_some_iff.1 found)
    simp [form] at mirrored
  have list : (Text.dropLeading? ['l', 'i', 's', 't', '<']
      (form .list (inner ++ element ++ behind))).bind (Text.dropTrailing? ['>']) =
        some (inner ++ element ++ behind) := by
    rw [Option.bind_eq_some_iff]
    refine ⟨inner ++ element ++ behind ++ ['>'], dropLeading?_eq_some_iff.2 ?_,
      dropTrailing?_eq_some_iff.2 rfl⟩
    rw [form, List.append_assoc]
  simp only [unwrap, noArray, list, trimBlanks_padded blankInner isElement.trimmed blankBehind]

end

/-- What is unwrapped is trimmed and was written as a form around padding. -/
theorem form_of_unwrap {notated element : List Char} {cardinality : Cardinality}
    (trimmed : IsTrimmed notated) (unwrapped : unwrap notated = (element, cardinality)) :
    IsTrimmed element ∧ ∃ inner behind, IsPadding inner ∧ IsPadding behind ∧
      notated = form cardinality (inner ++ element ++ behind) := by
  unfold unwrap at unwrapped
  split at unwrapped
  · rename_i whole array
    obtain ⟨core, rfl⟩ := Prod.mk.inj unwrapped
    obtain ⟨solid, inner, behind, blankInner, blankBehind, parts⟩ := trimBlanks_eq_iff.1 core
    refine ⟨solid, inner, behind, blankInner, blankBehind, ?_⟩
    rw [dropTrailing?_eq_some_iff.1 array, ← parts, form]
  · split at unwrapped
    · rename_i whole list
      obtain ⟨core, rfl⟩ := Prod.mk.inj unwrapped
      obtain ⟨solid, inner, behind, blankInner, blankBehind, parts⟩ := trimBlanks_eq_iff.1 core
      obtain ⟨rest, opened, closed⟩ := Option.bind_eq_some_iff.1 list
      refine ⟨solid, inner, behind, blankInner, blankBehind, ?_⟩
      rw [dropLeading?_eq_some_iff.1 opened, dropTrailing?_eq_some_iff.1 closed, ← parts, form,
        List.append_assoc]
    · obtain ⟨rfl, rfl⟩ := Prod.mk.inj unwrapped
      refine ⟨trimmed, [], [], isPadding_nil, isPadding_nil, ?_⟩
      rw [form, List.nil_append, List.append_nil]

/-- Text that starts as an element and ends with a bracket is trimmed. -/
theorem isTrimmed_closed {start middle : List Char} {last : Char} (nonempty : start ≠ [])
    (first : ∀ first ∈ start.head?, Text.isBlank first = false)
    (solid : Text.isBlank last = false) : IsTrimmed (start ++ (middle ++ [last])) := by
  refine ⟨fun character there => first character ?_, fun character there => ?_⟩
  · rwa [List.head?_append_of_ne_nil _ nonempty] at there
  · rw [← List.append_assoc, List.getLast?_concat, Option.mem_some] at there
    exact there ▸ solid

/-- Without its padding a text that writes a notation is unwrapped to the element. -/
theorem unwrap_of_writes {text : List Char} {typeNotation : TypeNotation}
    (isElement : IsElementText typeNotation.element.toList) (writes : Writes text typeNotation) :
    unwrap (Text.trimBlanks text) =
      (typeNotation.element.toList, typeNotation.cardinality) := by
  obtain ⟨before, inner, behind, after, blankBefore, blankInner, blankBehind, blankAfter, rfl⟩ :=
    writes
  cases typeNotation.cardinality with
  | single =>
      -- Padding around the element is padding around the whole.
      have parts :
          before ++ form .single (inner ++ typeNotation.element.toList ++ behind) ++ after =
            (before ++ inner) ++ typeNotation.element.toList ++ (behind ++ after) := by
        simp only [form, List.append_assoc]
      rw [parts, trimBlanks_padded (blankBefore.append blankInner) isElement.trimmed
        (blankBehind.append blankAfter), unwrap_single isElement]
  | array =>
      have parts :
          before ++ form .array (inner ++ typeNotation.element.toList ++ behind) ++ after =
            (before ++ inner) ++ form .array ([] ++ typeNotation.element.toList ++ behind) ++
              after := by
        simp only [form, List.append_assoc, List.nil_append]
      have trimmed : IsTrimmed (form .array ([] ++ typeNotation.element.toList ++ behind)) := by
        have closed : IsTrimmed (typeNotation.element.toList ++ ((behind ++ ['[']) ++ [']'])) :=
          isTrimmed_closed isElement.nonempty isElement.trimmed.1 (by decide)
        simpa only [form, List.nil_append, List.append_assoc, List.singleton_append] using closed
      rw [parts, trimBlanks_padded (blankBefore.append blankInner) trimmed blankAfter,
        unwrap_array isElement isPadding_nil blankBehind]
  | list =>
      have trimmed : IsTrimmed (form .list (inner ++ typeNotation.element.toList ++ behind)) := by
        have closed : IsTrimmed (['l', 'i', 's', 't', '<'] ++
            ((inner ++ typeNotation.element.toList ++ behind) ++ ['>'])) :=
          isTrimmed_closed (List.cons_ne_nil _ _) (by rintro _ ⟨⟩; rfl) rfl
        simpa only [form, List.append_assoc] using closed
      rw [trimBlanks_padded blankBefore trimmed blankAfter,
        unwrap_list isElement blankInner blankBehind]

/-- A text is read as a notation exactly if it writes one whose element can be read. -/
theorem read?_eq_some_iff {text : String} {typeNotation : TypeNotation} :
    read? text = some typeNotation ↔
      IsElementText typeNotation.element.toList ∧ Writes text.toList typeNotation := by
  constructor
  · intro success
    cases unwrapped : unwrap (Text.trimBlanks text.toList) with
    | mk element cardinality =>
        simp only [read?, unwrapped, Option.ite_none_left_eq_some, Option.some.injEq,
          Bool.or_eq_true, not_or, List.isEmpty_iff, List.any_eq_true, not_exists, not_and,
          Bool.not_eq_true] at success
        obtain ⟨⟨nonempty, unbroken⟩, rfl⟩ := success
        obtain ⟨trimmed, before, after, blankBefore, blankAfter, whole⟩ :=
          trimBlanks_eq_iff.1 (rfl : Text.trimBlanks text.toList = _)
        obtain ⟨solid, inner, behind, blankInner, blankBehind, notated⟩ :=
          form_of_unwrap trimmed unwrapped
        rw [notated] at whole
        simp only [Writes, String.toList_ofList]
        exact ⟨⟨nonempty, solid, unbroken⟩, before, inner, behind, after, blankBefore, blankInner,
          blankBehind, blankAfter, whole⟩
  · rintro ⟨isElement, writes⟩
    have whole : ¬ (typeNotation.element.toList.isEmpty ||
        typeNotation.element.toList.any isSeparator) = true := by
      simpa [List.isEmpty_iff, isElement.nonempty] using isElement.unbroken
    simp only [read?, unwrap_of_writes isElement writes, if_neg whole, String.ofList_toList]

/-- Elements without blanks and separators can be read. -/
theorem isElementText_of_forall {element : List Char} (nonempty : element ≠ [])
    (solid : ∀ character ∈ element,
      Text.isBlank character = false ∧ isSeparator character = false) : IsElementText element :=
  ⟨nonempty, isTrimmed_of_forall fun character member => (solid character member).1,
    fun character member => (solid character member).2⟩

/-- The type of a field is shown as a notation. -/
theorem writes_typeText (field : Schema.Field) :
    Writes field.typeText.toList ⟨field.element.text, field.cardinality⟩ := by
  refine ⟨[], [], [], [], isPadding_nil, isPadding_nil, isPadding_nil, isPadding_nil, ?_⟩
  unfold Schema.Field.typeText
  cases field.cardinality <;> simp [form, String.toList_append]

end Manifest.TypeNotation

/-! ### Elements of accepted manifests -/

namespace Java

/-- Characters of identifiers and dots are neither blank nor separators. -/
theorem solid_of_plain {character : Char}
    (plain : isIdentifierPart character = true ∨ character = '.') :
    Text.isBlank character = false ∧ Manifest.TypeNotation.isSeparator character = false := by
  have ascii : ∀ code < 128,
      (isIdentifierPart (Char.ofNat code) = true ∨ Char.ofNat code = '.') →
        Text.isBlank (Char.ofNat code) = false ∧
          Manifest.TypeNotation.isSeparator (Char.ofNat code) = false := by
    decide
  have small : character.toNat < 128 := by
    rcases plain with part | rfl
    · exact isIdentifierPart_lt part
    · decide
  rw [← Char.ofNat_toNat character] at plain ⊢
  exact ascii character.toNat small plain

theorem IsClassName.nonempty {name : String} (className : IsClassName name) :
    name.toList ≠ [] := by
  intro empty
  have segment : "" ∈ Text.dottedSegments name := by
    simp [Text.dottedSegments, empty, Text.split]
  obtain ⟨_, _, characters, -⟩ := className.segments "" segment
  cases characters

end Java

namespace Manifest

open Schema (Primitive)
open TypeNotation (IsElementText isElementText_of_forall)

theorem isElementText_text {element : Schema.Element}
    (elementType : Java.IsElementType (Code.TypeRef.ofElement element)) :
    IsElementText element.text.toList := by
  cases element with
  | primitive kind =>
      have solid : (Schema.Element.primitive kind).text.toList.all (fun character =>
          !Text.isBlank character && !TypeNotation.isSeparator character) = true := by
        cases kind <;> decide
      refine isElementText_of_forall (by cases kind <;> decide) fun character member => ?_
      simpa using List.all_eq_true.1 solid character member
  | named className =>
      cases elementType with
      | named isClassName =>
          exact isElementText_of_forall isClassName.nonempty fun character member =>
            Java.solid_of_plain (isClassName.isPlain character member)

/-- What is shown for a field of a well-formed manifest is read as the type of the field. -/
theorem WellFormed.read?_typeText {manifest : Manifest} (wellFormed : manifest.WellFormed)
    {entry : ClassEntry} (member : entry ∈ manifest.classes) {field : FieldEntry}
    (declares : field ∈ entry.fields) :
    ∃ lowered, manifest.lowerField field = .ok lowered ∧ manifest.DescribesField field lowered ∧
      TypeNotation.read? lowered.typeText = some ⟨lowered.element.text, lowered.cardinality⟩ := by
  obtain ⟨typeNotation, written, known⟩ := wellFormed.fieldTypes entry member field declares
  have success : ∃ lowered, manifest.lowerField field = .ok lowered := by
    simp [lowerField, written]
  obtain ⟨lowered, success⟩ := success
  have describes := describes_lowerField success
  obtain ⟨other, same, -, means⟩ := describes.type
  rw [written, Option.some.injEq] at same
  subst same
  exact ⟨lowered, success, describes, TypeNotation.read?_eq_some_iff.2
    ⟨isElementText_text (wellFormed.isElementType known means),
      TypeNotation.writes_typeText lowered⟩⟩

/-- Notations are read as what they write, whatever padding there is; what is read was written so;
and what is shown for a field of an accepted manifest is a notation of its type. -/
theorem notations_read_back :
    (∀ (typeNotation : TypeNotation) (before inner behind after : List Char),
      typeNotation.element ≠ "" →
      (∀ character ∈ typeNotation.element.toList, Text.isBlank character = false ∧
        character ∉ ['[', ']', '<', '>']) →
      Text.IsPadding before → Text.IsPadding inner → Text.IsPadding behind →
      Text.IsPadding after →
      TypeNotation.read? (String.ofList (before ++ TypeNotation.form typeNotation.cardinality
        (inner ++ typeNotation.element.toList ++ behind) ++ after)) = some typeNotation) ∧
    (∀ text typeNotation, TypeNotation.read? text = some typeNotation ↔
      IsElementText typeNotation.element.toList ∧
        TypeNotation.Writes text.toList typeNotation) ∧
    (∀ file source manifest, read file source = .ok manifest → ∀ entry ∈ manifest.classes,
      ∀ field ∈ entry.fields, ∃ lowered, manifest.lowerField field = .ok lowered ∧
        manifest.DescribesField field lowered ∧
        lowered.description = (if field.isStatic then "static " else "") ++ field.name.text ++
          ": " ++ lowered.typeText ∧
        TypeNotation.read? lowered.typeText =
          some ⟨lowered.element.text, lowered.cardinality⟩) := by
  refine ⟨?_, fun text typeNotation => TypeNotation.read?_eq_some_iff, ?_⟩
  · intro typeNotation before inner behind after nonempty solid blankBefore blankInner blankBehind
      blankAfter
    have isElement : IsElementText typeNotation.element.toList := by
      refine isElementText_of_forall (fun empty => nonempty (String.toList_eq_nil_iff.1 empty)) ?_
      intro character member
      obtain ⟨notBlank, noBracket⟩ := solid character member
      have noSpace : character ≠ ' ' := by
        rintro rfl
        exact absurd notBlank (by decide)
      simp only [List.mem_cons, List.not_mem_nil, or_false, not_or] at noBracket
      simp [TypeNotation.isSeparator, notBlank, noBracket, noSpace]
    rw [TypeNotation.read?_eq_some_iff, String.toList_ofList]
    exact ⟨isElement, before, inner, behind, after, blankBefore, blankInner, blankBehind,
      blankAfter, rfl⟩
  · intro file source manifest accepted entry member field declares
    have wellFormed := wellFormed_of_validate (validate_of_read accepted)
    obtain ⟨lowered, success, describes, readBack⟩ := wellFormed.read?_typeText member declares
    refine ⟨lowered, success, describes, ?_, readBack⟩
    rw [Schema.Field.description, describes.isStatic, describes.name]

/-- A class that has a list of itself. -/
def nodeSource : String :=
  "[generator]\npackage = \"graph\"\n\n[[class]]\nname = \"Node\"\n\n" ++
    "[[class.field]]\nname = \"next\"\ntype = \" list<\\t Node > \"\n"

def nextField : Schema.Field :=
  ⟨"next", .named "graph.Node", .list, false, none⟩

theorem node_notation_reads_back :
    TypeNotation.read? " list<\t Node > " = some ⟨"Node", .list⟩ ∧
      ∃ manifest, read "fluent.toml" nodeSource = .ok manifest ∧
        ∃ entry ∈ manifest.classes, ∃ field ∈ entry.fields,
          manifest.lowerField field = .ok nextField ∧
          nextField.description = "next: list<graph.Node>" ∧
          TypeNotation.read? "list<graph.Node>" = some ⟨"graph.Node", .list⟩ := by
  obtain ⟨written, -, shown⟩ := notations_read_back
  constructor
  · exact written ⟨"Node", .list⟩ [' '] ['\t', ' '] [' '] [' '] (by decide)
      (by simp [Text.isBlank]) (by decide) (by decide) (by decide) (by decide)
  · have accepted : read "fluent.toml" nodeSource = .ok (Run.manifestIn nodeSource) := by
      decide +kernel
    have declared : ∃ entry ∈ (Run.manifestIn nodeSource).classes, ∃ field ∈ entry.fields,
        (Run.manifestIn nodeSource).lowerField field = .ok nextField := by
      decide +kernel
    obtain ⟨entry, member, field, declares, lowers⟩ := declared
    obtain ⟨lowered, success, -, -, readBack⟩ := shown _ _ _ accepted entry member field declares
    rw [lowers, Except.ok.injEq] at success
    subst success
    exact ⟨_, accepted, entry, member, field, declares, lowers, rfl, readBack⟩

end Manifest

end BuilderSynthesis
