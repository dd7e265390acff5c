import BuilderSynthesis.Manifest.Starter
import BuilderSynthesis.Proofs.Identifier
import BuilderSynthesis.Proofs.Located
import BuilderSynthesis.Proofs.Spelling
import Mathlib.Data.List.Permutation

/-!
Contract: a starter is accepted for the packages that can be used, and for no others.

A package stands between the quotes of a starter as it was given, so what the starter means
depends on how its text is read. A package that can be used has no character that ends the quotes
or escapes anything; with it a starter is a document in plain lines, which is read line by line.

Owns: `starterLines`, `starterManifest`, and `starter_accepted_iff`, with the same for any reader of
TOML that reads plain lines as they stand.

Does not own: what a starter means with a package that cannot be used.
-/

namespace BuilderSynthesis.Manifest

open Toml (Line IsVerbatim)
open Java (IsUsable)

/-! ### The lines of a starter -/

def bodyLines : List Line :=
  [.text "policy" "mutable", .blank,
    .arrayHeader [] "class", .text "name" "Entity", .flag "abstract" true,
    .text "doc" "Base of all persistent types", .blank,
    .arrayHeader ["class"] "field", .text "name" "id", .text "type" "long", .blank,
    .arrayHeader [] "class", .text "name" "Customer", .text "extends" "Entity", .blank,
    .arrayHeader ["class"] "field", .text "name" "name", .text "type" "string", .blank,
    .arrayHeader ["class"] "field", .text "name" "emails", .text "type" "string[]"]

def starterLines (package : String) : List Line :=
  .header [] "generator" :: .text "package" package :: bodyLines

theorem starterBody_eq : starterBody = Toml.document bodyLines := by
  have nothing : Toml.document [] = "" := rfl
  unfold starterBody bodyLines
  simp only [Toml.document_cons, nothing, Line.spelling, Text.joinWith, List.nil_append,
    List.cons_append, String.intercalate_singleton, String.intercalate_cons_cons, if_true,
    String.reduceAppend]

theorem starter_eq (package : String) :
    starter package = Toml.document (starterLines package) := by
  have opening : "[generator]\npackage = \"" =
      "[" ++ "generator" ++ "]" ++ "\n" ++ ("package" ++ " = \"") := by
    simp only [String.reduceAppend]
  have closing : "\"\n" = "\"" ++ "\n" := by
    simp only [String.reduceAppend]
  unfold starter starterLines
  rw [starterBody_eq, opening, closing, Toml.document_cons, Toml.document_cons]
  simp only [Line.spelling, Text.joinWith, List.nil_append, String.intercalate_singleton,
    String.append_assoc]

theorem isVerbatim_of_part {character : Char} (part : Java.isIdentifierPart character = true) :
    Toml.isPlain character = true ∧ character ≠ '"' ∧ character ≠ '\\' := by
  have ascii : ∀ code < 128, Java.isIdentifierPart (Char.ofNat code) = true →
      Toml.isPlain (Char.ofNat code) = true ∧ Char.ofNat code ≠ '"' ∧ Char.ofNat code ≠ '\\' := by
    decide
  have small := Java.isIdentifierPart_lt part
  rw [← Char.ofNat_toNat character] at part ⊢
  exact ascii character.toNat small part

/-- A usable dotted name stands for itself between quotes. -/
theorem IsUsablePath.isVerbatim {name : String} (path : IsUsablePath name) : IsVerbatim name := by
  intro character member
  have inSegment : character = '.' ∨ ∃ segment ∈ Text.split '.' name.toList, character ∈ segment :=
    Text.mem_split member
  rcases inSegment with rfl | ⟨segment, inside, there⟩
  · decide
  · have usable := path (String.ofList segment) (List.mem_map_of_mem inside)
    apply isVerbatim_of_part
    apply usable.1.parts
    rwa [String.toList_ofList]

theorem plain_starterLines {package : String} (verbatim : IsVerbatim package) :
    ∀ line ∈ starterLines package, line.Plain := by
  have body : ∀ line ∈ bodyLines, line.Plain := by
    decide +kernel
  have header : (Line.header [] "generator").Plain := by
    decide +kernel
  have key : Toml.IsBareKey "package" := by
    decide +kernel
  exact List.forall_mem_cons.2 ⟨header, List.forall_mem_cons.2 ⟨⟨key, verbatim⟩, body⟩⟩

/-! ### The manifest of a starter -/

/-- The first class of a starter, given the place of the text in each line. -/
def starterEntity (span : Nat → Toml.Span) : ClassEntry where
  name := ⟨"Entity", span 5⟩
  isAbstract := true
  doc := some "Base of all persistent types"
  fields := [{ name := ⟨"id", span 10⟩, type := ⟨"long", span 11⟩ }]

def starterCustomer (span : Nat → Toml.Span) : ClassEntry where
  name := ⟨"Customer", span 14⟩
  superclass := some ⟨"Entity", span 15⟩
  fields :=
    [{ name := ⟨"name", span 18⟩, type := ⟨"string", span 19⟩ },
      { name := ⟨"emails", span 22⟩, type := ⟨"string[]", span 23⟩ }]

def starterManifest (package : String) (span : Nat → Toml.Span) : Manifest where
  settings := { package := some package, policy := .direct }
  classes := [starterEntity span, starterCustomer span]

theorem decode_expressions (package : String) (span : List Line → Toml.Span) :
    (Toml.assemble? (Toml.expressions span (starterLines package))).map
        (fun entries => (sortedEntries entries).foldlM addKey {}) =
      some (.ok (starterManifest package fun line => span ((starterLines package).drop line))) := by
  cbv

/-- A starter whose package stands for itself has the shape of a manifest. -/
theorem decode_starter {toml : Toml.Reader} (reads : Toml.ReadsPlainLines toml) {package : String}
    (verbatim : IsVerbatim package) :
    ∃ span, decode (starter package) toml = .ok (starterManifest package span) := by
  obtain ⟨span, built⟩ := reads _ (plain_starterLines verbatim)
  obtain ⟨entries, assembled, decoded⟩ := Option.map_eq_some_iff.1 (decode_expressions package span)
  have read : toml (starter package) = some entries := by
    rw [starter_eq, built, assembled]
  exact ⟨_, by rw [decode, read]; exact decoded⟩

/-! ### Checks of a starter -/

section

variable {package : String} {span : Nat → Toml.Span}

theorem qualify_starterManifest {name : String} (simple : isDotted name = false) :
    (starterManifest package span).qualify name =
      if package = "" then name else package ++ "." ++ name := by
  unfold qualify qualifyIn starterManifest
  simp [simple]

theorem qualify_starterManifest_inj {one two : String} (first : isDotted one = false)
    (second : isDotted two = false)
    (same : (starterManifest package span).qualify one =
      (starterManifest package span).qualify two) : one = two := by
  rw [qualify_starterManifest first, qualify_starterManifest second] at same
  split at same
  · exact same
  · exact String.append_right_inj (package ++ ".") |>.1 same

theorem mem_starterManifest {entry : ClassEntry} :
    entry ∈ (starterManifest package span).classes ↔
      entry = starterEntity span ∨ entry = starterCustomer span := by
  simp [starterManifest]

/-- The only link is from the second class to the first. -/
theorem isChild_starterManifest {entry parent : ClassEntry}
    (child : (starterManifest package span).IsChild entry parent) :
    entry = starterCustomer span ∧ parent = starterEntity span := by
  obtain ⟨inside, above, extended, link, same⟩ := child
  rcases mem_starterManifest.1 inside with rfl | rfl
  · cases link
  · cases link
    rcases mem_starterManifest.1 above with rfl | rfl
    · exact ⟨rfl, rfl⟩
    · have names : "Customer" = "Entity" :=
        qualify_starterManifest_inj (by decide) (by decide) same
      exact absurd names (by decide)

/-- The instance fields of a starter, each with its class. -/
theorem hasField_starterManifest {entry owner : ClassEntry} {field : FieldEntry}
    (inside : entry ∈ (starterManifest package span).classes)
    (has : (starterManifest package span).HasField entry owner field) :
    (owner, field) ∈ (starterEntity span).fields.map (Prod.mk (starterEntity span)) ++
      (starterCustomer span).fields.map (Prod.mk (starterCustomer span)) := by
  obtain ⟨reaches, declares, -⟩ := has
  have known : owner ∈ (starterManifest package span).classes := by
    rcases Relation.ReflTransGen.cases_tail reaches with rfl | ⟨below, -, child⟩
    · exact inside
    · exact child.2.1
  rcases mem_starterManifest.1 known with rfl | rfl
  · exact List.mem_append_left _ (List.mem_map_of_mem declares)
  · exact List.mem_append_right _ (List.mem_map_of_mem declares)

theorem wellFormed_starterManifest (valid : package = "" ∨ IsUsablePath package) :
    (starterManifest package span).WellFormed where
  package := by
    rintro _ ⟨⟩
    exact valid.imp_left String.isEmpty_iff.2
  builderName := (by decide : IsUsable "Builder")
  classNames := by
    have entity : IsUsable "Entity" := by decide
    have customer : IsUsable "Customer" := by decide
    exact List.forall_mem_cons.2 ⟨entity.isUsablePath,
      List.forall_mem_singleton.2 customer.isUsablePath⟩
  distinct := by
    refine List.nodup_cons.2 ⟨?_, List.nodup_singleton _⟩
    intro again
    have same : "Entity" = "Customer" :=
      qualify_starterManifest_inj (by decide) (by decide) (List.mem_singleton.1 again)
    exact absurd same (by decide)
  superclasses := by
    intro entry inside extended link
    rcases mem_starterManifest.1 inside with rfl | rfl
    · cases link
    · cases link
      exact ⟨starterEntity span, List.mem_cons_self, rfl⟩
  fieldNames := by
    have id' : IsUsable "id" := by decide
    have name : IsUsable "name" := by decide
    have emails : IsUsable "emails" := by decide
    refine List.forall_mem_cons.2 ⟨List.forall_mem_singleton.2 id', ?_⟩
    exact List.forall_mem_singleton.2 (List.forall_mem_cons.2
      ⟨name, List.forall_mem_singleton.2 emails⟩)
  distinctFields := by
    have one : ["id"].Nodup := by decide
    have two : ["name", "emails"].Nodup := by decide
    exact List.forall_mem_cons.2 ⟨one, List.forall_mem_singleton.2 two⟩
  fieldTypes := by
    have long : TypeNotation.read? "long" = some ⟨"long", .single⟩ := by decide +kernel
    have string : TypeNotation.read? "string" = some ⟨"string", .single⟩ := by decide +kernel
    have strings : TypeNotation.read? "string[]" = some ⟨"string", .array⟩ := by decide +kernel
    have isLong : (starterManifest package span).IsElement "long" := .inl ⟨.long, by decide⟩
    have isString : (starterManifest package span).IsElement "string" := .inl ⟨.string, by decide⟩
    refine List.forall_mem_cons.2 ⟨List.forall_mem_singleton.2 ⟨_, long, isLong⟩, ?_⟩
    exact List.forall_mem_singleton.2 (List.forall_mem_cons.2
      ⟨⟨_, string, isString⟩, List.forall_mem_singleton.2 ⟨_, strings, isString⟩⟩)
  acyclic := by
    intro entry _ loop
    obtain ⟨_, first, -⟩ := Relation.TransGen.head'_iff.1 loop
    obtain ⟨_, -, last⟩ := Relation.TransGen.tail'_iff.1 loop
    have same := (isChild_starterManifest first).1.symm.trans (isChild_starterManifest last).2
    cases congrArg ClassEntry.superclass same
  stems := by
    intro entry inside owner field other field' has hasOther same
    have distinct : (((starterEntity span).fields.map (Prod.mk (starterEntity span)) ++
        (starterCustomer span).fields.map (Prod.mk (starterCustomer span))).map fun pair =>
          Schema.propertyStem pair.2.name.text).Nodup := by
      have stems : (["id", "name", "emails"].map Schema.propertyStem).Nodup := by decide +kernel
      exact stems
    exact Prod.mk.inj (List.inj_on_of_nodup_map distinct (hasField_starterManifest inside has)
      (hasField_starterManifest inside hasOther) same)

end

/-! ### Accepted starters -/

/-- With a usable package, or none, a starter is read as the manifest that it means. -/
theorem read_starter {toml : Toml.Reader} (reads : Toml.ReadsPlainLines toml) {package : String}
    (valid : package = "" ∨ IsUsablePath package) (file : String) :
    ∃ span, read file (starter package) toml =
      .ok ((starterManifest package span).located file (starter package)) := by
  have verbatim : IsVerbatim package := by
    rcases valid with rfl | path
    · decide
    · exact path.isVerbatim
  obtain ⟨span, decoded⟩ := decode_starter reads verbatim
  have passes : (starterManifest package span).validate = .ok () :=
    validate_of_wellFormed (wellFormed_starterManifest valid)
  refine ⟨span, ?_⟩
  unfold read
  rw [decoded]
  simp only [Except.mapError, Outcome.bind_eq_ok_iff]
  exact ⟨_, rfl, (), passes, rfl⟩

/-- An accepted manifest has a package that can be used, if it has one that is not empty. -/
theorem usable_of_read {file source package : String} {toml : Toml.Reader} {manifest : Manifest}
    (accepted : read file source toml = .ok manifest)
    (same : manifest.settings.package = some package) : package = "" ∨ IsUsablePath package :=
  ((wellFormed_of_validate (validate_of_read accepted)).package package same).imp_left
    String.isEmpty_iff.1

/-- Whatever reads TOML, if it reads plain lines as they stand, then a starter is accepted with its
package exactly if the package is empty or can be used. Then its two classes belong to the package,
and the second extends the first. -/
theorem starter_accepted_of_readsPlainLines {toml : Toml.Reader}
    (reads : Toml.ReadsPlainLines toml) (file package : String) :
    ((∃ manifest, read file (starter package) toml = .ok manifest ∧
        manifest.settings.package = some package) ↔ package = "" ∨ IsUsablePath package) ∧
      (package = "" ∨ IsUsablePath package →
        ∃ manifest entity customer, read file (starter package) toml = .ok manifest ∧
          manifest.settings.package = some package ∧ manifest.classes = [entity, customer] ∧
          manifest.qualifiedName entity =
            (if package = "" then "Entity" else package ++ "." ++ "Entity") ∧
          manifest.qualifiedName customer =
            (if package = "" then "Customer" else package ++ "." ++ "Customer") ∧
          entity.superclass = none ∧ manifest.parent? customer = some entity) := by
  constructor
  · constructor
    · rintro ⟨manifest, accepted, same⟩
      exact usable_of_read accepted same
    · intro valid
      obtain ⟨span, accepted⟩ := read_starter reads valid file
      exact ⟨_, accepted, rfl⟩
  · intro valid
    obtain ⟨span, accepted⟩ := read_starter reads valid file
    have entity : (starterManifest package span).qualify "Entity" =
        if package = "" then "Entity" else package ++ "." ++ "Entity" :=
      qualify_starterManifest (by decide)
    have customer : (starterManifest package span).qualify "Customer" =
        if package = "" then "Customer" else package ++ "." ++ "Customer" :=
      qualify_starterManifest (by decide)
    have parent : (starterManifest package span).parent? (starterCustomer span) =
        some (starterEntity span) := by
      unfold parent? findClass? starterCustomer
      rw [Option.bind_some]
      exact List.find?_cons_of_pos (beq_self_eq_true _)
    refine ⟨_, _, _, accepted, rfl, rfl, entity, customer, rfl, ?_⟩
    exact (parent?_located _ file (starter package) _).trans (congrArg _ parent)

/-- A starter is accepted with its package exactly if the package is empty or can be used. -/
theorem starter_accepted_iff (file package : String) :
    ((∃ manifest, read file (starter package) = .ok manifest ∧
        manifest.settings.package = some package) ↔ package = "" ∨ IsUsablePath package) ∧
      (package = "" ∨ IsUsablePath package →
        ∃ manifest entity customer, read file (starter package) = .ok manifest ∧
          manifest.settings.package = some package ∧ manifest.classes = [entity, customer] ∧
          manifest.qualifiedName entity =
            (if package = "" then "Entity" else package ++ "." ++ "Entity") ∧
          manifest.qualifiedName customer =
            (if package = "" then "Customer" else package ++ "." ++ "Customer") ∧
          entity.superclass = none ∧ manifest.parent? customer = some entity) :=
  starter_accepted_of_readsPlainLines Toml.readsPlainLines_read? file package

/-- A package with a hyphen is not accepted, one without is. -/
theorem starter_accepted_without_hyphen :
    (∃ manifest, read "fluent.toml" (starter "my.app") = .ok manifest ∧
        manifest.settings.package = some "my.app") ∧
      ¬ ∃ manifest, read "fluent.toml" (starter "my-app") = .ok manifest ∧
        manifest.settings.package = some "my-app" := by
  have usable : IsUsablePath "my.app" := by
    unfold IsUsablePath
    decide +kernel
  have unusable : ¬ ("my-app" = "" ∨ IsUsablePath "my-app") := by
    unfold IsUsablePath
    decide +kernel
  exact ⟨(starter_accepted_iff "fluent.toml" "my.app").1.2 (.inr usable),
    fun accepted => unusable ((starter_accepted_iff "fluent.toml" "my-app").1.1 accepted)⟩

end BuilderSynthesis.Manifest
