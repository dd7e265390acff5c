import BuilderSynthesis.Proofs.Commenting
import BuilderSynthesis.Proofs.Faithfulness
import BuilderSynthesis.Proofs.Forest
import BuilderSynthesis.Proofs.Identifier
import BuilderSynthesis.Proofs.Located
import BuilderSynthesis.Proofs.Provenance
import Mathlib.Data.Bool.AllAny

/-!
Contract: the comments in the source files of a run.

Documentation comes from a manifest or is made for builders, and what is made has names in it and
the documentation of fields. Names have no delimiters. So all comments of the files end where they
should if no documentation in the manifest has a closing delimiter in it, and only then.

Owns: `Java.docsOf`, what is documented of a type; `Manifest.DocsOpen`; and `comments_whole_iff`.

Does not own: when one comment ends where it should.
-/

namespace BuilderSynthesis

namespace Layout

/-! ### Comments of fragments -/

/-- Every stretch that is meant to be a comment is one. -/
def AreComments (indent : Indent) (stretches : List Stretch) : Prop :=
  ∀ stretch ∈ stretches, stretch.isComment = true → IsComment (stretch.text indent).toList

/-- None of several texts has a closing delimiter in it. -/
def AreOpen (texts : List String) : Prop :=
  ∀ text ∈ texts, ¬ Closes text.toList

mutual

def Fragment.docs : Fragment → List String
  | .line _ => []
  | .blank => []
  | .block _ body _ => docsOfAll body
  | .sequence parts => docsOfAll parts
  | .doc text => [text]

def docsOfAll : List Fragment → List String
  | [] => []
  | first :: rest => first.docs ++ docsOfAll rest

end

theorem areComments_append_iff {indent : Indent} {first second : List Stretch} :
    AreComments indent (first ++ second) ↔
      AreComments indent first ∧ AreComments indent second :=
  List.forall_mem_append

theorem areComments_of_line (indent : Indent) (level : Nat) (lines : List String) :
    AreComments indent [⟨false, level, lines⟩] := by
  intro stretch member comment
  rw [List.mem_singleton.1 member] at comment
  cases comment

mutual

/-- The comments of a fragment are whole if its documentation has no closing delimiter. -/
theorem areComments_stretches_iff (indent : Indent) (level : Nat) (fragment : Fragment) :
    AreComments indent (fragment.stretches level) ↔ AreOpen fragment.docs := by
  cases fragment with
  | line text => exact iff_of_true (areComments_of_line indent level [text]) nofun
  | blank => exact iff_of_true (areComments_of_line indent level [""]) nofun
  | block header body close =>
      have first := areComments_of_line indent level [header]
      have last := areComments_of_line indent level close.toList
      rw [Fragment.stretches, ← List.singleton_append, areComments_append_iff,
        areComments_append_iff, areComments_stretchesOfAll_iff indent (level + 1) body]
      simp only [first, last, true_and, and_true, Fragment.docs]
  | sequence parts => exact areComments_stretchesOfAll_iff indent level parts
  | doc text =>
      have one := isComment_docLines_iff indent level text
      simp only [AreComments, AreOpen, Fragment.stretches, Fragment.docs, List.forall_mem_singleton,
        forall_const]
      exact one

theorem areComments_stretchesOfAll_iff (indent : Indent) (level : Nat)
    (fragments : List Fragment) :
    AreComments indent (stretchesOfAll level fragments) ↔ AreOpen (docsOfAll fragments) := by
  cases fragments with
  | nil => exact iff_of_true nofun nofun
  | cons first rest =>
      rw [stretchesOfAll, areComments_append_iff, areComments_stretches_iff indent level first,
        areComments_stretchesOfAll_iff indent level rest, docsOfAll]
      exact List.forall_mem_append.symm

end

theorem docsOfAll_append (first second : List Fragment) :
    docsOfAll (first ++ second) = docsOfAll first ++ docsOfAll second := by
  induction first with
  | nil => rfl
  | cons fragment rest inductionHypothesis =>
      rw [List.cons_append, docsOfAll, inductionHypothesis, docsOfAll, List.append_assoc]

theorem docsOfAll_flatMap {items : List α} (fragments : α → List Fragment) :
    docsOfAll (items.flatMap fragments) = items.flatMap fun item => docsOfAll (fragments item) :=
  Lists.flatMap_of_append rfl docsOfAll_append fragments

theorem docsOfAll_map_line {items : List α} (text : α → String) :
    docsOfAll (items.map fun item => Fragment.line (text item)) = [] := by
  induction items with
  | nil => rfl
  | cons item rest inductionHypothesis => simpa [docsOfAll, Fragment.docs] using inductionHypothesis

/-- Blank lines between groups have no documentation. -/
theorem docsOfAll_intercalate_blank (groups : List (List Fragment)) :
    docsOfAll (List.intercalate [.blank] groups) = groups.flatMap docsOfAll := by
  have blank : docsOfAll [.blank] = [] := rfl
  rw [Lists.intercalate_of_append rfl docsOfAll_append, blank, Lists.intercalate_nil,
    ← List.flatMap_def]

end Layout

namespace Java

open BuilderSynthesis.Code (Declaration Model TypeId)
open BuilderSynthesis.Layout (AreComments AreOpen Fragment docsOfAll docsOfAll_append
  docsOfAll_flatMap docsOfAll_intercalate_blank docsOfAll_map_line)

/-! ### Comments of files -/

/-- What is documented of a type: the type, its fields and its methods. -/
def docsOf (declaration : Declaration) : List String :=
  declaration.header.doc.toList ++ declaration.fields.flatMap (fun field => field.doc.toList) ++
    declaration.methods.flatMap (fun method => method.doc.toList)

theorem docsOfAll_docFragments (doc : Option String) :
    docsOfAll (docFragments doc) = doc.toList := by
  cases doc <;> rfl

theorem docsOfAll_fieldFragments (package : Option String) (field : Code.Field) :
    docsOfAll (fieldFragments package field) = field.doc.toList := by
  unfold fieldFragments
  rw [docsOfAll_append, docsOfAll_docFragments]
  exact List.append_nil _

theorem docsOfAll_methodFragments (package : Option String) (method : Code.Method) :
    docsOfAll (methodFragments package method) = method.doc.toList := by
  have body : docsOfAll (method.body.map fun statement =>
      Fragment.line (statementText package statement)) = [] :=
    docsOfAll_map_line (statementText package)
  have block : docsOfAll [.block (methodHeader package method)
      (method.body.map fun statement => Fragment.line (statementText package statement))
      (some "\x7d")] = [] := by
    simp only [docsOfAll, Fragment.docs, body, List.append_nil]
  unfold methodFragments
  rw [docsOfAll_append, docsOfAll_append, docsOfAll_docFragments, docsOfAll_map_line, block,
    List.append_nil, List.append_nil]

namespace Outline

theorem docsOfAll_memberGroups (package : Option String) (declaration : Declaration) :
    (memberGroups package declaration).flatMap docsOfAll =
      declaration.fields.flatMap (fun field => field.doc.toList) ++
        declaration.methods.flatMap (fun method => method.doc.toList) := by
  have fields : List.flatMap docsOfAll (if declaration.fields.isEmpty then [] else
        [declaration.fields.flatMap (fieldFragments package)]) =
      declaration.fields.flatMap (fun field => field.doc.toList) := by
    split
    · rename_i none'
      rw [List.isEmpty_iff.1 none']
      rfl
    · rw [List.flatMap_singleton, docsOfAll_flatMap]
      exact List.flatMap_congr fun field _ => docsOfAll_fieldFragments package field
  unfold memberGroups
  rw [List.flatMap_append, fields, List.flatMap_map]
  congr 1
  exact List.flatMap_congr fun method _ => docsOfAll_methodFragments package method

/-- The comments of a class are those of the types in it. -/
theorem Fits.docsOfAll_fragments {model : Model} {outline : Outline} (fits : outline.Fits model)
    (package : Option String) :
    docsOfAll (outline.fragments model package) =
      outline.types.flatMap (fun entry => docsOf entry.2) := by
  induction fits with
  | @type id declaration nested found listed inside inductionHypothesis =>
      have within : (nested.map (fragments model package)).flatMap docsOfAll =
          (nested.flatMap types).flatMap (fun entry => docsOf entry.2) := by
        rw [List.flatMap_map, List.flatMap_assoc]
        exact List.flatMap_congr inductionHypothesis
      rw [fragments, types_type, docsOfAll_append, docsOfAll_docFragments, fragmentsOfEach_eq,
        List.flatMap_cons, docsOf]
      simp only [docsOfAll, Fragment.docs, docsOfAll_intercalate_blank, List.flatMap_append,
        docsOfAll_memberGroups, within, List.append_nil, List.append_assoc]

theorem docsOfAll_preamble (outline : Outline) : docsOfAll outline.preamble = [] := by
  unfold preamble
  rw [docsOfAll_append]
  cases outline.entry.2.package <;> split <;>
    simp [docsOfAll, Fragment.docs, docsOfAll_append, docsOfAll_map_line]

end Outline

section

variable {model : Model} (coherent : model.Coherent)

include coherent

theorem Outline.Fits.fileFragments_eq {outline : Outline} (fits : outline.Fits model) :
    fileFragments model outline.entry.1 =
      outline.preamble ++ outline.fragments model outline.entry.2.package := by
  have enough : model.size ≤ model.size + outline.entry.1 := Nat.le_add_right _ _
  have found : model.get? outline.entry.1 = some outline.entry.2 := by
    cases fits with
    | type found _ _ => exact found
  unfold fileFragments Outline.preamble
  simp only [found, Option.bind_some, fits.nestedTypes_eq coherent enough,
    fits.classFragments_eq coherent _ enough]
  cases outline.entry.2.package <;> rfl

/-- The comments of all files are whole if no type has documentation with a closing delimiter. -/
theorem areComments_files_iff :
    (∀ entry ∈ model.topLevel, AreComments .standard (fileStretches model entry.1)) ↔
      ∀ id declaration, model.get? id = some declaration → AreOpen (docsOf declaration) := by
  obtain ⟨forest, shows⟩ := exists_shows coherent
  have each : ∀ outline ∈ forest, (AreComments .standard (fileStretches model outline.entry.1) ↔
      AreOpen (outline.types.flatMap fun entry => docsOf entry.2)) := by
    intro outline member
    have fits := shows.fits outline member
    rw [fileStretches, Layout.areComments_stretchesOfAll_iff, fits.fileFragments_eq coherent,
      docsOfAll_append, outline.docsOfAll_preamble, fits.docsOfAll_fragments, List.nil_append]
  rw [← shows.map_entry, List.forall_mem_map]
  constructor
  · intro whole id declaration found text member
    have shown : (id, declaration) ∈ forest.flatMap Outline.types :=
      shows.once.mem_iff.2 ((model.mem_entries_iff id declaration).2 found)
    obtain ⟨outline, there, inside⟩ := List.mem_flatMap.1 shown
    exact (each outline there).1 (whole outline there) text
      (List.mem_flatMap.2 ⟨_, inside, member⟩)
  · intro opens outline there
    refine (each outline there).2 fun text member => ?_
    obtain ⟨entry, inside, documented⟩ := List.mem_flatMap.1 member
    exact opens entry.1 entry.2 ((shows.fits outline there).get?_of_mem inside) text documented

end

end Java

/-! ### Documentation that is made -/

namespace Layout

/-- What is made around a usable name has no delimiters in it. -/
theorem isNeutral_around {name : String} (usable : Java.IsUsable name) {before after : String}
    (start : before.toList.all (fun character => IsNeutral character) = true)
    (ending : after.toList.all (fun character => IsNeutral character) = true) :
    ∀ character ∈ (before ++ name ++ after).toList, IsNeutral character := by
  have plain : ∀ character ∈ name.toList, IsNeutral character := by
    intro character member
    constructor
    · rintro rfl
      exact usable.1.not_mem (by decide) member
    · rintro rfl
      exact usable.1.not_mem (by decide) member
  rw [String.toList_append, String.toList_append]
  exact List.forall_mem_append.2
    ⟨List.forall_mem_append.2 ⟨List.all_iff_forall_prop.1 start, plain⟩,
      List.all_iff_forall_prop.1 ending⟩

end Layout

namespace Schema

/-- What is documented of a class: the class and its fields. -/
def DataClass.docs (dataClass : DataClass) : List String :=
  dataClass.doc.toList ++ dataClass.fields.flatMap (fun field => field.doc.toList)

end Schema

namespace Builder

open BuilderSynthesis.Code (Method TypeRef)
open BuilderSynthesis.Layout (Closes closes_neutral_append_iff isNeutral_around
  not_closes_of_isNeutral)
open BuilderSynthesis.Schema (DataClass Policy)

/-- The documentation of a setter closes a comment just as that of its field does. -/
theorem closes_setterDoc_iff {property : Property} (usable : Java.IsUsable property.name) :
    Closes property.setterDoc.toList ↔ ∃ doc ∈ property.doc, Closes doc.toList := by
  unfold Property.setterDoc
  cases property.doc with
  | none =>
      have open' : ¬ Closes ("Sets \x7b@code " ++ property.name ++ "\x7d.").toList :=
        not_closes_of_isNeutral (isNeutral_around usable (by decide) (by decide))
      exact iff_of_false open' nofun
  | some doc =>
      have neutral : ∀ character ∈ ("Sets \x7b@code " ++ property.name ++ "\x7d: ").toList,
          Layout.IsNeutral character :=
        isNeutral_around usable (by decide) (by decide)
      have same : Closes ("Sets \x7b@code " ++ property.name ++ "\x7d: " ++ doc).toList ↔
          Closes doc.toList := by
        rw [String.toList_append, closes_neutral_append_iff neutral]
      exact same.trans ⟨fun closes => ⟨doc, rfl, closes⟩, fun ⟨_, rfl, closes⟩ => closes⟩

theorem doc_override (policy : Policy) (builder : TypeRef) (hidden : List String)
    (property : Property) :
    (override policy builder hidden property).doc = some property.setterDoc := by
  unfold override
  split <;> rfl

/-- What is documented of the methods of a builder: setters, and what makes a product. -/
theorem doc_of_mem_builderMethods {policy : Policy} {productType builderType : TypeRef}
    {dataClass : DataClass} {ancestors : List DataClass} {method : Method}
    (member : method ∈ builderMethods policy productType builderType dataClass ancestors) :
    (∃ setting ∈ dataClass :: ancestors, ∃ property ∈ ownProperties setting,
      method.doc = some property.setterDoc) ∨
    method.doc = none ∨ method.doc = (buildMethod dataClass productType).doc := by
  simp only [builderMethods, List.mem_append, List.mem_singleton] at member
  rcases member with ((own | init) | inherited) | build
  · obtain ⟨property, listed, rfl⟩ := List.mem_map.1 own
    exact .inl ⟨dataClass, List.mem_cons_self, property, listed, rfl⟩
  · exact .inr (.inl (init ▸ rfl))
  · obtain ⟨ancestor, above, property, listed, hidden, rfl⟩ := of_mem_inheritedSetters inherited
    exact .inl ⟨ancestor, List.mem_cons_of_mem dataClass above, property, listed,
      doc_override policy builderType hidden property⟩
  · split at build
    · cases build
    · exact .inr (.inr (List.mem_singleton.1 build ▸ rfl))

end Builder

/-! ### Documentation of a run -/

namespace Run

open BuilderSynthesis.Builder (Workshop)
open BuilderSynthesis.Code (Declaration)
open BuilderSynthesis.Layout (AreOpen Closes isNeutral_around not_closes_of_isNeutral)
open BuilderSynthesis.Schema (DataClass Hierarchy)

section

variable {hierarchy : Hierarchy} {config : Config} {workshop : Workshop}
  (completes : Completes hierarchy config workshop)

include completes

section

variable (usable : ∀ dataClass ∈ hierarchy.classes, Java.IsUsable dataClass.simpleName ∧
    ∀ field ∈ dataClass.fields, Java.IsUsable field.name)
  (opens : ∀ dataClass ∈ hierarchy.classes, AreOpen dataClass.docs)
  {id : Code.TypeId} {declaration : Declaration}
  (found : workshop.model.get? id = some declaration)

include usable opens found

theorem Completes.header_open {text : String} (documented : text ∈ declaration.header.doc) :
    ¬ Closes text.toList := by
  cases completes.role found with
  | product known header =>
      rw [header] at documented
      exact opens _ known text (List.mem_append_left _ (Option.mem_toList.2 documented))
  | host known listed header =>
      rw [header] at documented
      cases documented
  | builder known header =>
      rw [header] at documented
      cases documented
      exact not_closes_of_isNeutral
        (isNeutral_around (usable _ known).1 (by decide) (by decide))

omit usable in
theorem Completes.field_open {field : Code.Field} (member : field ∈ declaration.fields)
    {text : String} (documented : text ∈ field.doc) : ¬ Closes text.toList := by
  rcases completes.field_cases found member with declared | built
  · obtain ⟨dataClass, known, source, listed, rfl⟩ := declared
    exact opens dataClass known text (List.mem_append_right _
      (List.mem_flatMap.2 ⟨source, listed, Option.mem_toList.2 documented⟩))
  · obtain ⟨dataClass, known, made⟩ := built
    obtain ⟨property, -, rfl⟩ := List.mem_map.1 made
    cases documented

theorem Completes.method_open {method : Code.Method} (member : method ∈ declaration.methods)
    {text : String} (documented : text ∈ method.doc) : ¬ Closes text.toList := by
  obtain ⟨dataClass, known, product, builder, made⟩ := completes.method_cases found member
  rcases made with ⟨ancestors, above, ofBuilder⟩ | ofProduct
  · rcases Builder.doc_of_mem_builderMethods ofBuilder with setter | none' | build
    · obtain ⟨setting, listed, property, own, same⟩ := setter
      have present : setting ∈ hierarchy.classes :=
        (List.mem_cons.1 listed).elim (fun same => same ▸ known) (fun inside => above inside)
      obtain ⟨field, instance', rfl⟩ := List.mem_map.1 own
      have declared : field ∈ setting.fields := (List.mem_filter.1 instance').1
      rw [same] at documented
      cases documented
      rw [Builder.closes_setterDoc_iff ((usable setting present).2 field declared)]
      rintro ⟨doc, given, closes⟩
      exact opens setting present doc (List.mem_append_right _
        (List.mem_flatMap.2 ⟨field, declared, Option.mem_toList.2 given⟩)) closes
    · rw [none'] at documented
      cases documented
    · rw [build] at documented
      cases documented
      exact not_closes_of_isNeutral
        (isNeutral_around (usable dataClass known).1 (by decide) (by decide))
  · unfold Builder.productMethods at ofProduct
    split at ofProduct
    · cases ofProduct
    · rw [List.mem_singleton.1 ofProduct] at documented
      cases documented
      exact not_closes_of_isNeutral
        (isNeutral_around (usable dataClass known).1 (by decide) (by decide))

end

/-- No type of a run has documentation that closes a comment if no class has, and the other way
round. -/
theorem Completes.docs_open_iff
    (usable : ∀ dataClass ∈ hierarchy.classes, Java.IsUsable dataClass.simpleName ∧
      ∀ field ∈ dataClass.fields, Java.IsUsable field.name) :
    (∀ id declaration, workshop.model.get? id = some declaration →
      AreOpen (Java.docsOf declaration)) ↔
    ∀ dataClass ∈ hierarchy.classes, AreOpen dataClass.docs := by
  constructor
  · intro opens dataClass known text documented
    obtain ⟨id, declaration, found, header, -, -, fields, -⟩ := completes.exists_product known
    refine opens id declaration found text (List.mem_append_left _ ?_)
    rcases List.mem_append.1 documented with ofClass | ofField
    · rw [header]
      exact List.mem_append_left _ ofClass
    · obtain ⟨field, listed, there⟩ := List.mem_flatMap.1 ofField
      exact List.mem_append_right _ (List.mem_flatMap.2
        ⟨declaredField field, fields.subset (List.mem_map_of_mem listed), there⟩)
  · intro opens id declaration found text documented
    simp only [Java.docsOf, List.mem_append, List.mem_flatMap, Option.mem_toList] at documented
    rcases documented with (ofType | ⟨field, member, ofField⟩) | ⟨method, member, ofMethod⟩
    · exact completes.header_open usable opens found ofType
    · exact completes.field_open opens found member ofField
    · exact completes.method_open usable opens found member ofMethod

end

end Run

/-! ### Documentation of a manifest -/

namespace Manifest

open BuilderSynthesis.Layout (AreOpen)
open BuilderSynthesis.Schema (DataClass Hierarchy)

/-- What is documented in an entry: the class and its fields. -/
def ClassEntry.docs (entry : ClassEntry) : List String :=
  entry.doc.toList ++ entry.fields.flatMap (fun field => field.doc.toList)

/-- Nothing that a manifest documents has a closing delimiter in it. -/
def DocsOpen (manifest : Manifest) : Prop :=
  ∀ entry ∈ manifest.classes, AreOpen entry.docs

/-- A class has the documentation of its entry. -/
theorem docs_lowerClass {manifest : Manifest} {entry : ClassEntry} {dataClass : DataClass}
    (success : manifest.lowerClass entry = .ok dataClass) : dataClass.docs = entry.docs := by
  obtain ⟨fields, lowered, rfl⟩ := lowerClass_eq_ok_iff.1 success
  have same : fields.map Schema.Field.doc = entry.fields.map FieldEntry.doc :=
    Lists.map_eq_of_forall₂ (Outcome.mapM_eq_ok_iff.1 lowered)
      fun _ _ described => (describes_lowerField described).doc
  have docs := congrArg (List.flatMap Option.toList) same
  rw [List.flatMap_map, List.flatMap_map] at docs
  unfold DataClass.docs ClassEntry.docs
  rw [docs]

/-- The classes of a manifest document what their entries do. -/
theorem docsOpen_iff_of_lower {manifest : Manifest} {hierarchy : Hierarchy}
    (success : manifest.lower = .ok hierarchy) :
    (∀ dataClass ∈ hierarchy.classes, AreOpen dataClass.docs) ↔ manifest.DocsOpen := by
  have docs : hierarchy.classes.map DataClass.docs = manifest.classes.map ClassEntry.docs :=
    map_of_lower (fun _ _ => rfl) (fun _ _ lowered => docs_lowerClass lowered) success
  unfold DocsOpen
  rw [← List.forall_mem_map, docs, List.forall_mem_map]

end Manifest

namespace Run

open BuilderSynthesis.Layout (AreComments Closes IsComment Page)

/-- What a page gets for documentation is one comment, and so is every comment in the files of a run
on an accepted manifest, just if there is no closing delimiter in the documentation. -/
theorem comments_whole_iff {manifest : Manifest} {context : Context}
    (accepted : manifest.validate = .ok ())
    (success : (({} : Pipeline).run manifest).result = .ok context) :
    (∀ (page : Page) (text : String), ∃ added, page.doc text = page.append added ∧
      (IsComment added.toList ↔ ¬ Closes text.toList)) ∧
    (∀ entry ∈ context.model.topLevel, Java.fileText context.model entry.1 =
      Layout.stretchesText .standard (Java.fileStretches context.model entry.1)) ∧
    ((∀ entry ∈ context.model.topLevel,
        AreComments .standard (Java.fileStretches context.model entry.1)) ↔
      manifest.DocsOpen) := by
  refine ⟨?_, fun entry _ => Java.fileText_eq context.model entry.1, ?_⟩
  · intro page text
    exact ⟨_, page.doc_eq text, Layout.isComment_docLines_iff page.indent page.level text⟩
  · obtain ⟨hierarchy, registry, lowered, lowers, completes⟩ :=
      completes_of_accepted accepted success
    have wellFormed := Manifest.wellFormed_of_validate accepted
    have usable : ∀ dataClass ∈ hierarchy.classes, Java.IsUsable dataClass.simpleName ∧
        ∀ field ∈ dataClass.fields, Java.IsUsable field.name := by
      intro dataClass known
      refine ⟨(lowers.isUsablePath wellFormed dataClass known).afterLastDot, ?_⟩
      intro field declared
      obtain ⟨entry, member, stands⟩ := Lists.exists_of_mem_forall₂ lowers.classes known
      obtain ⟨source, listed, described⟩ :=
        Lists.exists_of_mem_forall₂ stands.describes.fields declared
      rw [described.name]
      exact wellFormed.fieldNames entry member source listed
    rw [Java.areComments_files_iff completes.reached.coherent, completes.docs_open_iff usable,
      Manifest.docsOpen_iff_of_lower lowered]

/-- A class with a line of documentation, and a field with two lines that would end a comment if one
followed the other. -/
def documentedManifest : Manifest :=
  { classes := [
      { name := ⟨"Pet", ⟨0, 5⟩⟩
        doc := some "An animal."
        fields := [
          { name := ⟨"age", ⟨6, 11⟩⟩
            type := ⟨"int", ⟨12, 17⟩⟩
            doc := some "In years *\n/ rounded." }] }] }

theorem documented_comments_whole :
    documentedManifest.validate = .ok () ∧
      ∃ context, (({} : Pipeline).run documentedManifest).result = .ok context ∧
        ∀ entry ∈ context.model.topLevel,
          AreComments .standard (Java.fileStretches context.model entry.1) := by
  have accepted : documentedManifest.validate = .ok () := by
    decide +kernel
  have succeeds : (({} : Pipeline).run documentedManifest).failure = none := by
    decide +kernel
  have opens : documentedManifest.DocsOpen := by
    unfold Manifest.DocsOpen Layout.AreOpen
    decide +kernel
  have success := result_of_failure_eq_none succeeds
  exact ⟨accepted, _, success, (comments_whole_iff accepted success).2.2.2 opens⟩

def closingSource : String :=
  "[[class]]\nname = \"A\"\ndoc = \"a */ b\"\n"

theorem not_every_comment_is_whole :
    ¬ ∀ file source manifest context, Manifest.read file source = .ok manifest →
      (({} : Pipeline).run manifest).result = .ok context →
      ∀ entry ∈ context.model.topLevel,
        AreComments .standard (Java.fileStretches context.model entry.1) := by
  intro always
  have read : Manifest.read "fluent.toml" closingSource = .ok (manifestIn closingSource) := by
    decide +kernel
  have succeeds : (({} : Pipeline).run (manifestIn closingSource)).failure = none := by
    decide +kernel
  have documented : ((({} : Pipeline).run (manifestIn closingSource)).context.model.get? 0).map
      (fun declaration => declaration.header.doc) = some (some "a */ b") := by
    decide +kernel
  obtain ⟨declaration, found, doc⟩ := Option.map_eq_some_iff.1 documented
  have success := result_of_failure_eq_none succeeds
  have accepted := Manifest.validate_of_read read
  obtain ⟨hierarchy, registry, -, -, completes⟩ := completes_of_accepted accepted success
  have opens := (Java.areComments_files_iff completes.reached.coherent).1
    (always _ _ _ _ read success) 0 declaration found
  have text : "a */ b" ∈ Java.docsOf declaration :=
    List.mem_append_left _ (List.mem_append_left _ (doc ▸ List.mem_singleton_self _))
  exact opens "a */ b" text (by decide)

end Run

end BuilderSynthesis
