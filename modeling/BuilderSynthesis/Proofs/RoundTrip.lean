import BuilderSynthesis.Proofs.Building
import BuilderSynthesis.Proofs.Covariance
import BuilderSynthesis.Proofs.Disjoint
import BuilderSynthesis.Proofs.Setting

/-!
Contract: a product reads back what was set on its builder.

A caller makes a builder, calls setters one on the result of the other and builds. Each
property then reads the value that was set last, and every other field its default.

Owns:
- `SetterCall` and `buildWith`, such a chain of calls;
- `Reads`, what reading back a value means;
- `Follows`, what a builder holds after some calls, and `Follows.call`, that one more call
  keeps to it;
- `build_reads_back`.
-/

namespace BuilderSynthesis.Run

open Builder (buildName factoryName setterName)
open Code (Model TypeRef)
open Eval (Exec Object Store Typed Value Yields)
open Schema (ClassId DataClass Field Hierarchy)

/-! ### Chains of calls -/

/-- What a caller passes to a setter. -/
inductive Given where
  /-- A value of the type of the property. -/
  | whole (value : Value)
  /-- Any number of elements of an array. -/
  | elements (values : List Value)

namespace Given

def arguments (field : Field) : Given → List Typed
  | .whole value => [⟨value, some (.ofField field.element field.cardinality)⟩]
  | .elements values => values.map (fun value => ⟨value, some (.ofElement field.element)⟩)

/-- Elements are for arrays; a list exists, and what is passed as a list is one or is null. -/
def Fits (store : Store) (field : Field) : Given → Prop
  | .whole .null => True
  | .whole (.list place _) => place < store.lists.length
  | .whole _ => field.cardinality ≠ .list
  | .elements _ => field.cardinality = .array

/-- A value is what was given: elements as one array, in order, a list as a list with the items
that it had, and anything else as it was. -/
def Reads (before after : Store) (value : Value) : Given → Prop
  | .whole (.list place _) => ∃ copy isReadOnly items, value = .list copy isReadOnly ∧
      before.lists[place]? = some items ∧ after.lists[copy]? = some items
  | .whole given => value = given
  | .elements values => ∃ place, value = .array place ∧ after.arrays[place]? = some values

theorem Reads.mono {before middle after : Store} (lists : middle.lists <+: after.lists)
    (arrays : middle.arrays <+: after.arrays) {given : Given} {value : Value}
    (reads : given.Reads before middle value) : given.Reads before after value := by
  cases given with
  | whole given =>
      cases given with
      | list place isReadOnly =>
          obtain ⟨copy, readOnly, items, same, earlier, there⟩ := reads
          exact ⟨copy, readOnly, items, same, earlier, Lists.getElem?_of_isPrefix lists there⟩
      | _ => exact reads
  | elements values =>
      obtain ⟨place, same, there⟩ := reads
      exact ⟨place, same, Lists.getElem?_of_isPrefix arrays there⟩

/-- Handing over changes at most whether a list is read-only. -/
theorem Reads.handed {before after : Store} {given : Given} {value : Value}
    (reads : given.Reads before after value) (policy : Schema.Policy) (field : Field) :
    given.Reads before after (Synthesis.handed policy field value) := by
  cases given with
  | whole given =>
      cases given with
      | list place isReadOnly =>
          obtain ⟨copy, readOnly, items, rfl, earlier, there⟩ := reads
          exact ⟨copy, _, items, rfl, earlier, there⟩
      | _ =>
          subst reads
          rfl
  | elements values =>
      obtain ⟨place, rfl, there⟩ := reads
      exact ⟨place, rfl, there⟩

end Given

/-- A call of the setter of a property. -/
structure SetterCall where
  field : Field
  given : Given

def lastGiven? (calls : List SetterCall) (field : Field) : Option Given :=
  ((calls.filter (fun call => call.field.name == field.name)).getLast?).map SetterCall.given

/-- A builder of a class is made, setters are called one on the result of the other, and the
product is built. -/
def buildWith (model : Model) (className : String) (calls : List SetterCall) : Exec Typed := do
  let made ← Eval.callStatic model className factoryName []
  let filled ← calls.foldlM (fun builder call =>
    Eval.call model builder (setterName call.field.name) (call.given.arguments call.field)) made
  Eval.call model filled buildName []

theorem lastGiven?_append (calls : List SetterCall) (call : SetterCall) (field : Field) :
    lastGiven? (calls ++ [call]) field =
      if call.field.name = field.name then some call.given else lastGiven? calls field := by
  unfold lastGiven?
  rw [List.filter_append]
  by_cases same : call.field.name = field.name
  · have own : [call].filter (fun call => call.field.name == field.name) = [call] := by
      rw [List.filter_cons, if_pos (beq_iff_eq.2 same), List.filter_nil]
    rw [own, if_pos same, List.getLast?_concat, Option.map_some]
  · have other : [call].filter (fun call => call.field.name == field.name) = [] := by
      rw [List.filter_cons, if_neg (fun again => same (beq_iff_eq.1 again)), List.filter_nil]
    rw [other, if_neg same, List.append_nil]

namespace Synthesis

variable {synthesis : Synthesis}

/-! ### One call -/

/-- A value that fits a property is taken by its setter. -/
theorem exists_intake (policy : Schema.Policy) {before store : Store}
    (lists : before.lists <+: store.lists) {field : Field} {value : Value}
    (fits : (Given.whole value).Fits before field) :
    ∃ taken after, intake policy field value store = some (taken, after) ∧
      after.objects = store.objects ∧ store.lists <+: after.lists ∧
      store.arrays <+: after.arrays ∧ (Given.whole value).Reads before after taken ∧
      Handable policy field taken := by
  have earlier : ∀ {place isReadOnly}, value = .list place isReadOnly →
      ∃ items, before.lists[place]? = some items ∧ store.lists[place]? = some items := by
    rintro place isReadOnly rfl
    have present : place < before.lists.length := fits
    have there := List.getElem?_eq_getElem present
    exact ⟨_, there, Lists.getElem?_of_isPrefix lists there⟩
  unfold intake
  by_cases copies : policy = .defensive ∧ field.cardinality = .list
  · rw [if_pos copies]
    cases value with
    | null => exact ⟨_, _, rfl, rfl, List.prefix_rfl, List.prefix_rfl, rfl, fun _ _ => .inl rfl⟩
    | list place isReadOnly =>
        obtain ⟨items, known, there⟩ := earlier rfl
        have copied : store.listItems place = items := by
          unfold Store.listItems
          rw [List.getD_eq_getElem?_getD, there, Option.getD_some]
        refine ⟨_, _, rfl, rfl, List.prefix_append _ _, List.prefix_rfl, ?_,
          fun _ _ => .inr ⟨_, _, rfl⟩⟩
        refine ⟨store.lists.length, false, items, rfl, known, ?_⟩
        rw [copied]
        exact List.getElem?_concat_length
    | _ => exact absurd copies.2 fits
  · rw [if_neg copies]
    refine ⟨_, _, rfl, rfl, List.prefix_rfl, List.prefix_rfl, ?_,
      fun policy list => absurd ⟨policy, list⟩ copies⟩
    cases value with
    | list place isReadOnly =>
        obtain ⟨items, known, there⟩ := earlier rfl
        exact ⟨place, isReadOnly, items, rfl, known, there⟩
    | _ => rfl

theorem setting_whole (field : Field) (value : Value) (store : Store) :
    setting synthesis field ((Given.whole value).arguments field) store =
      intake synthesis.config.policy field value store := by
  have whole : whole? synthesis field ((Given.whole value).arguments field) =
      some ⟨value, some (.ofField field.element field.cardinality)⟩ :=
    if_pos (Eval.accepts_self synthesis.model _)
  unfold setting
  rw [whole]

/-- No elements are taken for an array, so they are gathered, also a single one. -/
theorem setting_elements {field : Field} (isArray : field.cardinality = .array)
    (values : List Value) (store : Store) :
    setting synthesis field ((Given.elements values).arguments field) store =
      some (store.newArray values) := by
  have several : whole? synthesis field ((Given.elements values).arguments field) = none := by
    rw [Option.eq_none_iff_forall_ne_some]
    intro argument whole
    obtain ⟨single, accepted⟩ := whole?_eq_some_iff.1 whole
    obtain ⟨value, -, rfl⟩ := List.map_eq_singleton_iff.1 single
    have refused := @Eval.isAssignable_array_of_ofElement synthesis.model field.element
      field.element
    rw [isArray] at accepted
    cases refused.symm.trans accepted
  have all : ∀ argument ∈ (Given.elements values).arguments field,
      Eval.accepts synthesis.model (.ofElement field.element) argument.type = true := by
    intro argument member
    obtain ⟨value, -, rfl⟩ := List.mem_map.1 member
    exact Eval.accepts_self synthesis.model _
  have gathered : ((Given.elements values).arguments field).map Typed.value = values := by
    unfold Given.arguments
    rw [List.map_map]
    exact List.map_id values
  unfold setting
  rw [several, gathered]
  exact if_pos ⟨isArray, all⟩

/-- What fits a property is taken by its setter. -/
theorem exists_setting {before store : Store} (lists : before.lists <+: store.lists)
    {field : Field} {given : Given} (fits : given.Fits before field) :
    ∃ value after, setting synthesis field (given.arguments field) store = some (value, after) ∧
      after.objects = store.objects ∧ store.lists <+: after.lists ∧
      store.arrays <+: after.arrays ∧ given.Reads before after value ∧
      Handable synthesis.config.policy field value := by
  cases given with
  | whole value =>
      rw [setting_whole]
      exact exists_intake synthesis.config.policy lists fits
  | elements values =>
      have isArray : field.cardinality = .array := fits
      refine ⟨_, _, setting_elements isArray values store, rfl, List.prefix_rfl,
        List.prefix_append _ _, ?_, ?_⟩
      · exact ⟨store.arrays.length, rfl, List.getElem?_concat_length⟩
      · intro _ list
        rw [isArray] at list
        cases list

/-- What is held once a property has been set. -/
def heldAfter (held : ClassId → Field → Value) (set : Field) (value : Value) :
    ClassId → Field → Value :=
  fun holder field => if set.name = field.name then value else held holder field

/-- A builder of which the slot of a property is written holds the value for this property, and
for all others what it held. -/
theorem Holds.set {id : ClassId} (bearing : synthesis.bears id = true) {object : Object}
    {store middle : Store} {held : ClassId → Field → Value}
    (holds : Holds synthesis store object (synthesis.chain id) held)
    (objects : middle.objects = store.objects) (room : object.place < middle.objects.length)
    {holder : ClassId} (above : holder ∈ synthesis.chain id) {field : Field}
    (declares : synthesis.Declares holder field) {value : Value}
    (handable : Handable synthesis.config.policy field value) :
    Holds synthesis (middle.write object (synthesis.builder holder, field.name) value) object
      (synthesis.chain id) (heldAfter held field value) := by
  have kept : ∀ slot, middle.slot? object slot = store.slot? object slot := by
    intro slot
    unfold Store.slot?
    rw [objects]
  intro other member otherField declaresToo
  unfold heldAfter
  rw [Store.slot?_write middle room]
  by_cases name : field.name = otherField.name
  · obtain ⟨rfl, rfl⟩ := property_unique_of_name (known_of_bears bearing)
      (mem_lineage_of_mem_chain above) declares (mem_lineage_of_mem_chain member) declaresToo name
    rw [if_pos ⟨rfl, rfl⟩, if_pos rfl]
    exact ⟨rfl, handable⟩
  · rw [if_neg (fun both => name (Prod.mk.inj both.2).2.symm), if_neg name, kept]
    exact holds other member otherField declaresToo

/-! ### A chain of calls -/

/-- What a builder holds after some calls. -/
structure Follows (synthesis : Synthesis) (id : ClassId) (object : Object) (before : Store)
    (calls : List SetterCall) (store : Store) (held : ClassId → Field → Value) : Prop where
  known : object.place < store.objects.length
  holds : Holds synthesis store object (synthesis.chain id) held
  lists : before.lists <+: store.lists
  reads : ∀ holder ∈ synthesis.chain id, ∀ field, synthesis.Declares holder field →
    match lastGiven? calls field with
    | some given => given.Reads before store (held holder field)
    | none => held holder field = defaultOf field

section

variable {id : ClassId} (bearing : synthesis.bears id = true) {object : Object}
  (own : object.type = synthesis.builder id) {before store : Store} {calls : List SetterCall}
  {held : ClassId → Field → Value}

include bearing own in
/-- One more call of a setter. -/
theorem Follows.call (follows : Follows synthesis id object before calls store held)
    {call : SetterCall} {holder : ClassId} (above : holder ∈ synthesis.chain id)
    (declares : synthesis.Declares holder call.field)
    (fits : call.given.Fits before call.field) :
    ∃ after heldAfter,
      Yields (Eval.call synthesis.model ⟨.object object, some (.named (synthesis.builderName id))⟩
          (setterName call.field.name) (call.given.arguments call.field)) store
        ⟨.object object, some (.named (synthesis.builderName id))⟩ after ∧
      Follows synthesis id object before (calls ++ [call]) after heldAfter := by
  obtain ⟨value, middle, taken, objects, lists, arrays, reads, handable⟩ :=
    exists_setting follows.lists fits
  have room : object.place < middle.objects.length := by
    rw [objects]
    exact follows.known
  refine ⟨_, heldAfter held call.field value,
    yields_setter bearing List.mem_cons_self above declares own taken, ?_,
    follows.holds.set bearing objects room above declares handable, follows.lists.trans lists, ?_⟩
  · rw [Store.length_objects_write]
    exact room
  · intro other member field declaresToo
    unfold heldAfter
    rw [lastGiven?_append]
    by_cases name : call.field.name = field.name
    · rw [if_pos name, if_pos name]
      exact reads
    · rw [if_neg name, if_neg name]
      have earlier := follows.reads other member field declaresToo
      cases last : lastGiven? calls field with
      | none =>
          rw [last] at earlier
          exact earlier
      | some given =>
          rw [last] at earlier
          exact earlier.mono lists arrays

include bearing own in
/-- Any number of further calls of setters. -/
theorem Follows.foldlM {more : List SetterCall}
    (follows : Follows synthesis id object before calls store held)
    (fits : ∀ call ∈ more, (∃ holder ∈ synthesis.chain id, synthesis.Declares holder call.field) ∧
      call.given.Fits before call.field) :
    ∃ after heldAfter,
      Yields (more.foldlM (fun builder call => Eval.call synthesis.model builder
          (setterName call.field.name) (call.given.arguments call.field))
          ⟨.object object, some (.named (synthesis.builderName id))⟩) store
        ⟨.object object, some (.named (synthesis.builderName id))⟩ after ∧
      Follows synthesis id object before (calls ++ more) after heldAfter := by
  induction more generalizing store calls held with
  | nil =>
      rw [List.append_nil]
      exact ⟨store, held, Eval.yields_pure _ store, follows⟩
  | cons call rest inductionHypothesis =>
      rw [List.forall_mem_cons] at fits
      obtain ⟨⟨holder, above, declares⟩, fitting⟩ := fits.1
      obtain ⟨middle, heldMiddle, called, later⟩ := follows.call bearing own above declares fitting
      obtain ⟨after, heldAfter, continued, last⟩ := inductionHypothesis later fits.2
      refine ⟨after, heldAfter, ?_, ?_⟩
      · rw [List.foldlM_cons]
        exact called.bind continued
      · rw [List.append_assoc, List.singleton_append] at last
        exact last

end

/-- A default is handed over as it is. -/
theorem handed_defaultOf (policy : Schema.Policy) (field : Field) :
    handed policy field (defaultOf field) = defaultOf field := by
  by_cases freezes : policy = .defensive ∧ field.cardinality = .list
  · rw [defaultOf_list freezes.2]
    rfl
  · exact handed_eq_self freezes _

/-- A new builder holds defaults. -/
theorem follows_new {id : ClassId} (bearing : synthesis.bears id = true) (before : Store) :
    Follows synthesis id ⟨before.objects.length, synthesis.builder id⟩ before []
      (before.newObject (synthesis.builder id)
        (newSlots synthesis synthesis.builder (synthesis.chain id))).2
      (fun _ field => defaultOf field) := by
  constructor
  · rw [Store.length_objects_newObject]
    exact Nat.lt_succ_self _
  · intro holder member field declares
    have slot := value?_newSlots_builder bearing member declares
    rw [Store.slot?_newObject, if_pos rfl]
    exact ⟨slot, fun _ list => .inl (defaultOf_list list)⟩
  · exact List.prefix_rfl
  · intro holder _ field _
    rfl

/-- A product reads back what was set last, and defaults for all else. -/
theorem yields_buildWith {id : ClassId} (bearing : synthesis.bears id = true)
    (isConcrete : (synthesis.classAt id).isAbstract = false)
    (enough : (synthesis.chain id).length ≤ 255) {before : Store} {calls : List SetterCall}
    (fits : ∀ call ∈ calls, (∃ holder ∈ synthesis.chain id, synthesis.Declares holder call.field) ∧
      call.given.Fits before call.field) :
    ∃ product after,
      Yields (buildWith synthesis.model (synthesis.productName id) calls) before
        ⟨.object product, some (.named (synthesis.productName id))⟩ after ∧
      ∀ holder ∈ synthesis.lineage id, ∀ field, synthesis.Declares holder field →
        ∃ value, Yields (Eval.fieldValue synthesis.model
            ⟨.object product, some (.named (synthesis.productName id))⟩ field.name) after value
            after ∧
          match lastGiven? calls field with
          | some given => given.Reads before after value
          | none => value = defaultOf field := by
  have known := known_of_bears bearing
  have first := follows_new bearing before
  obtain ⟨filled, held, called, follows⟩ := first.foldlM bearing rfl fits
  rw [List.nil_append] at follows
  have maker := maker?_eq_self isConcrete
  have built := yields_build bearing List.mem_cons_self rfl maker maker enough follows.known
    follows.holds
  refine ⟨_, _, (yields_factory bearing isConcrete before).bind (called.bind built), ?_⟩
  intro holder member field declares
  have slot := slot?_made_product bearing held filled member declares
  refine ⟨_, yields_fieldValue known member declares rfl slot, ?_⟩
  have lists : filled.lists <+: (synthesis.made held id filled).lists :=
    (lists_made held id filled).symm ▸ List.prefix_rfl
  have arrays : filled.arrays <+: (synthesis.made held id filled).arrays :=
    (arrays_made held id filled).symm ▸ List.prefix_rfl
  by_cases there : holder ∈ synthesis.chain id
  · rw [if_pos there]
    have reads := follows.reads holder there field declares
    cases last : lastGiven? calls field with
    | none =>
        rw [last] at reads
        rw [show held holder field = defaultOf field from reads]
        exact handed_defaultOf _ field
    | some given =>
        rw [last] at reads
        exact (reads.mono lists arrays).handed _ field
  · rw [if_neg there]
    have never : lastGiven? calls field = none := by
      unfold lastGiven?
      rw [Option.map_eq_none_iff, List.getLast?_eq_none_iff, List.filter_eq_nil_iff]
      intro call listed same
      obtain ⟨⟨other, above, declaresToo⟩, -⟩ := fits call listed
      have holders := (property_unique_of_name known (mem_lineage_of_mem_chain above) declaresToo
        member declares (beq_iff_eq.1 same)).1
      exact there (holders ▸ above)
    rw [never]

/-! ### Properties by the hierarchy -/

/-- The properties of a chain are those that the hierarchy and the registry give a builder. -/
theorem exists_holder_of_hasProperty {registry : Builder.Registry}
    (registered : synthesis.bears = Run.bears synthesis.hierarchy registry) {id : ClassId}
    (bearing : synthesis.bears id = true) {field : Field}
    (property : HasProperty synthesis.hierarchy registry id field) :
    ∃ holder ∈ synthesis.chain id, synthesis.Declares holder field := by
  obtain ⟨holder, dataClass, above, bears, known, declares⟩ := property
  refine ⟨holder, ?_, (declares_iff known field).2 declares⟩
  rw [chain_eq_filter bearing, List.mem_filter, mem_lineage_iff, registered]
  exact ⟨above, bears⟩

end Synthesis

/-! ### Runs on manifests -/

/-- Whatever setters are called with fitting values, in whatever store, the product is built, and
reads back what was set last, or the default of a field that was never set. -/
def RoundTrips (hierarchy : Hierarchy) (registry : Builder.Registry) (model : Model)
    (id : ClassId) (className : String) : Prop :=
  ∀ before calls, (∀ call ∈ calls, HasProperty hierarchy registry id call.field ∧
      call.given.Fits before call.field) →
    ∃ product after,
      Yields (buildWith model className calls) before
        ⟨.object product, some (.named className)⟩ after ∧
      ∀ field, HasInstanceField hierarchy id field →
        ∃ value, Yields (Eval.fieldValue model ⟨.object product, some (.named className)⟩
            field.name) after value after ∧
          match lastGiven? calls field with
          | some given => given.Reads before after value
          | none => value = Synthesis.defaultOf field

/-- In a program of a manifest every concrete class with a builder round-trips, as long as the
machine can have a call pending for each builder of its chain. -/
theorem build_reads_back {file source : String} {manifest : Manifest}
    (accepted : Manifest.read file source = .ok manifest) (disjoint : manifest.NameDisjoint)
    (policy : Schema.Policy) :
    ∃ context hierarchy registry,
      (({} : Pipeline).run (manifest.withPolicy policy)).result = .ok context ∧
      (manifest.withPolicy policy).lower = .ok hierarchy ∧ context.registry = some registry ∧
      ∀ id dataClass, hierarchy.get? id = some dataClass → dataClass.isAbstract = false →
        (registry.forClass? hierarchy id).isSome →
        ((id :: hierarchy.ancestors id).filter (fun ancestor =>
          (registry.forClass? hierarchy ancestor).isSome)).length ≤ 255 →
        RoundTrips hierarchy registry context.model id dataClass.name := by
  have known := Manifest.accepted_of_validate (Manifest.validate_of_read accepted)
  obtain ⟨context, synthesis, provides⟩ := exists_synthesis (known.withPolicy policy) disjoint
  obtain ⟨registry, registered, same⟩ := provides.registry
  refine ⟨context, synthesis.hierarchy, registry, provides.result, provides.lowered, registered, ?_⟩
  intro id dataClass found isConcrete builder enough before calls fits
  have bearing : synthesis.bears id = true := by
    rw [same]
    exact builder
  have dataClassAt := Synthesis.classAt_eq found
  have name : synthesis.productName id = dataClass.name := by
    unfold Synthesis.productName
    rw [dataClassAt]
  have short : (synthesis.chain id).length ≤ 255 := by
    rw [Synthesis.chain_eq_filter bearing, same]
    exact enough
  obtain ⟨product, after, built, reads⟩ := Synthesis.yields_buildWith bearing
    (dataClassAt ▸ isConcrete) short (fun call member =>
      ⟨Synthesis.exists_holder_of_hasProperty same bearing (fits call member).1,
        (fits call member).2⟩)
  rw [name, provides.model] at built
  refine ⟨product, after, built, ?_⟩
  rintro field ⟨holder, holderClass, above, there, declares⟩
  obtain ⟨value, read, last⟩ := reads holder (Synthesis.mem_lineage_iff.2 above) field
    ((Synthesis.declares_iff there field).2 declares)
  rw [name, provides.model] at read
  exact ⟨value, read, last⟩

/-- A class without a builder between two that have one. -/
def skippingSource : String :=
  "[[class]]\nname = \"Root\"\n\n" ++
  "[[class.field]]\nname = \"tags\"\ntype = \"list<string>\"\n\n" ++
  "[[class]]\nname = \"Middle\"\nextends = \"Root\"\nnested = [\"Builder\"]\n\n" ++
  "[[class]]\nname = \"Leaf\"\nextends = \"Middle\"\n\n" ++
  "[[class.field]]\nname = \"codes\"\ntype = \"string[]\"\n"

def skippingManifest : Manifest :=
  { classes := [
      { name := ⟨"Root", ⟨17, 23⟩⟩
        fields := [{ name := ⟨"tags", ⟨48, 54⟩⟩, type := ⟨"list<string>", ⟨62, 76⟩⟩ }]
        location := some ⟨"fluent.toml", 2, 8⟩ },
      { name := ⟨"Middle", ⟨95, 103⟩⟩
        superclass := some ⟨"Root", ⟨114, 120⟩⟩
        nested := ["Builder"]
        location := some ⟨"fluent.toml", 9, 8⟩ },
      { name := ⟨"Leaf", ⟨160, 166⟩⟩
        superclass := some ⟨"Middle", ⟨177, 185⟩⟩
        fields := [{ name := ⟨"codes", ⟨210, 217⟩⟩, type := ⟨"string[]", ⟨225, 235⟩⟩ }]
        location := some ⟨"fluent.toml", 14, 8⟩ }] }

theorem read_skippingSource :
    Manifest.read "fluent.toml" skippingSource = .ok skippingManifest := by
  decide +kernel

theorem skipping_nameDisjoint : skippingManifest.NameDisjoint := by
  decide +kernel

def skippingContext : Context :=
  (({} : Pipeline).run (skippingManifest.withPolicy .defensive)).context

def skippingHierarchy : Hierarchy :=
  (skippingManifest.withPolicy .defensive).lower.toOption.getD {}

def skippingRegistry : Builder.Registry :=
  skippingContext.registry.getD {}

/-- A run on the manifest leaves what these names stand for. -/
theorem skipping_run {context : Context} {hierarchy : Hierarchy} {registry : Builder.Registry}
    (success : (({} : Pipeline).run (skippingManifest.withPolicy .defensive)).result = .ok context)
    (lowered : (skippingManifest.withPolicy .defensive).lower = .ok hierarchy)
    (registered : context.registry = some registry) :
    context = skippingContext ∧ hierarchy = skippingHierarchy ∧ registry = skippingRegistry := by
  have completes : (({} : Pipeline).run (skippingManifest.withPolicy .defensive)).result =
      .ok skippingContext :=
    result_of_failure_eq_none (by decide +kernel)
  have same : context = skippingContext := Except.ok.inj (success.symm.trans completes)
  refine ⟨same, ?_, ?_⟩
  · unfold skippingHierarchy
    rw [lowered]
    rfl
  · unfold skippingRegistry
    rw [← same, registered]
    rfl

/-- The class at the end of the chain. -/
def skippingLeaf : DataClass :=
  (skippingHierarchy.get? 2).getD default

theorem get?_skippingLeaf : skippingHierarchy.get? 2 = some skippingLeaf := by
  decide +kernel

theorem name_skippingLeaf : skippingLeaf.name = "Leaf" := by
  decide +kernel

theorem isAbstract_skippingLeaf : skippingLeaf.isAbstract = false := by
  decide +kernel

def tagsField : Field :=
  { name := "tags", element := .primitive .string, cardinality := .list }

def codesField : Field :=
  { name := "codes", element := .primitive .string, cardinality := .array }

theorem skipping_build_reads_back :
    ∃ context product after value,
      (({} : Pipeline).run (skippingManifest.withPolicy .defensive)).result =
        .ok context ∧
      Yields (buildWith context.model "Leaf"
          [⟨tagsField, .whole (.list 0 false)⟩, ⟨codesField, .elements [.text "a", .text "b"]⟩])
        { lists := [[.text "x"]] } ⟨.object product, some (.named "Leaf")⟩ after ∧
      Yields (Eval.fieldValue context.model ⟨.object product, some (.named "Leaf")⟩ "codes") after
        value after ∧
      (Given.elements [.text "a", .text "b"]).Reads { lists := [[.text "x"]] } after value := by
  obtain ⟨context, hierarchy, registry, success, lowered, registered, all⟩ :=
    build_reads_back read_skippingSource skipping_nameDisjoint .defensive
  obtain ⟨rfl, rfl, rfl⟩ := skipping_run success lowered registered
  let root := (skippingHierarchy.get? 0).getD default
  have rootKnown : skippingHierarchy.get? 0 = some root := by
    decide +kernel
  have tags : tagsField ∈ root.instanceFields := by
    decide +kernel
  have codes : codesField ∈ skippingLeaf.instanceFields := by
    decide +kernel
  have ancestor : skippingHierarchy.IsAncestor 0 2 := by
    have first : skippingHierarchy.superclass 2 = some 1 := by
      decide +kernel
    have second : skippingHierarchy.superclass 1 = some 0 := by
      decide +kernel
    exact .tail (.single first) second
  have above : (skippingRegistry.forClass? skippingHierarchy 0).isSome := by
    decide +kernel
  have own : (skippingRegistry.forClass? skippingHierarchy 2).isSome := by
    decide +kernel
  have enough : ((2 :: skippingHierarchy.ancestors 2).filter (fun ancestor =>
      (skippingRegistry.forClass? skippingHierarchy ancestor).isSome)).length ≤ 255 := by
    decide +kernel
  have trips := all 2 _ get?_skippingLeaf isAbstract_skippingLeaf own enough
  rw [name_skippingLeaf] at trips
  obtain ⟨product, after, built, reads⟩ := trips { lists := [[.text "x"]] }
    [⟨tagsField, .whole (.list 0 false)⟩, ⟨codesField, .elements [.text "a", .text "b"]⟩] (by
      intro call member
      rcases List.mem_cons.1 member with rfl | later
      · exact ⟨⟨0, _, .inr ancestor, above, rootKnown, tags⟩, Nat.one_pos⟩
      · rw [List.mem_singleton.1 later]
        exact ⟨⟨2, _, .inl rfl, own, get?_skippingLeaf, codes⟩, rfl⟩)
  obtain ⟨value, read, last⟩ := reads codesField ⟨2, _, .inl rfl, get?_skippingLeaf, codes⟩
  exact ⟨skippingContext, product, after, value, success, built, read, last⟩

end BuilderSynthesis.Run
