import BuilderSynthesis.Proofs.Ownership
import BuilderSynthesis.Proofs.RoundTrip

/-!
Contract: products never change.

Every operation of a caller keeps the ownership of lists in order. It changes no slot of a
product and no list that is owned, and that goes on for any number of operations.

Owns:
- `Continues`, what an operation leaves;
- `Owned.step` and `Owned.steps`, one operation and any number of them;
- `products_never_change`.
-/

namespace BuilderSynthesis.Run

open Builder (buildName builderTypeName factoryName setterName)
open Code (TypeId)
open Eval (Exec Faults Object Store Typed Value Yields)
open Schema (ClassId Field Hierarchy Policy)

/-! ### Outcomes of calls -/

namespace Session

variable {session : Session} {after : Store}

theorem received_of_faults {computation : Exec α} (value : α → Value)
    (faults : Faults computation session.store) :
    session.received value (computation.run session.store) = session := by
  obtain ⟨failure, run⟩ := faults
  rw [run]
  rfl

theorem received_of_yields {computation : Exec α} {result : α} (value : α → Value)
    (yields : Yields computation session.store result after) :
    session.received value (computation.run session.store) =
      { session with store := after }.hold (value result) := by
  rw [show computation.run session.store = _ from yields]
  rfl

theorem receivedBuilder_of_yields {computation : Exec Typed} {builder : Object}
    {type : Option Code.TypeRef}
    (yields : Yields computation session.store ⟨.object builder, type⟩ after) :
    session.receivedBuilder (computation.run session.store) =
      { session with store := after, builders := builder :: session.builders }.hold
        (.object builder) := by
  rw [show computation.run session.store = _ from yields]
  rfl

theorem receivedProduct_of_faults {computation : Exec Typed}
    (faults : Faults computation session.store) :
    session.receivedProduct (computation.run session.store) = session := by
  obtain ⟨failure, run⟩ := faults
  rw [run]
  rfl

theorem receivedProduct_of_yields {computation : Exec Typed} {product : Object}
    {type : Option Code.TypeRef}
    (yields : Yields computation session.store ⟨.object product, type⟩ after) :
    session.receivedProduct (computation.run session.store) =
      { session with store := after, products := product :: session.products }.hold
        (.object product) := by
  rw [show computation.run session.store = _ from yields]
  rfl

end Session

/-- What an operation leaves of products and of owned lists. -/
structure Keeps (owned : List Nat) (before after : Session) : Prop where
  products : before.products ⊆ after.products
  slots : ∀ product ∈ before.products, ∀ slot,
    after.store.slot? product slot = before.store.slot? product slot
  lists : ∀ place ∈ owned, after.store.lists[place]? = before.store.lists[place]?

theorem keeps_refl (owned : List Nat) (session : Session) : Keeps owned session session :=
  ⟨List.Subset.refl _, fun _ _ _ => rfl, fun _ _ => rfl⟩

theorem Keeps.trans {owned more : List Nat} {before middle after : Session}
    (first : Keeps owned before middle) (still : owned ⊆ more)
    (second : Keeps more middle after) : Keeps owned before after := by
  constructor
  · exact List.Subset.trans first.products second.products
  · intro product member slot
    rw [second.slots product (first.products member), first.slots product member]
  · intro place member
    rw [second.lists place (still member), first.lists place member]

theorem Keeps.hold {owned : List Nat} {before after : Session} (keeps : Keeps owned before after)
    (value : Value) : Keeps owned before (after.hold value) :=
  ⟨keeps.products, keeps.slots, keeps.lists⟩

namespace Synthesis

variable {synthesis : Synthesis}

/-- After an operation ownership is in order again, and what was there is kept. -/
def Continues (synthesis : Synthesis) (owned : List Nat) (before after : Session) : Prop :=
  ∃ more, owned ⊆ more ∧ Owned synthesis after more ∧ Keeps owned before after

/-! ### One operation -/

section

variable {owned more : List Nat} {session : Session} (sound : Owned synthesis session owned)

include sound

theorem Owned.continues_self : Continues synthesis owned session session :=
  ⟨owned, List.Subset.refl _, sound, keeps_refl owned session⟩

theorem Owned.continues_hold {value : Value}
    (free : Free owned session.store.lists.length value) :
    Continues synthesis owned session (session.hold value) :=
  ⟨owned, List.Subset.refl _, sound.hold free, (keeps_refl owned session).hold value⟩

theorem Owned.keeps_grow {after : Store} (grows : Grows owned more session.store after) :
    Keeps owned session { session with store := after } := by
  refine ⟨List.Subset.refl _, ?_, grows.kept⟩
  intro product member slot
  obtain ⟨id, productSound⟩ := sound.products product member
  exact grows.slots product productSound.place slot

theorem Owned.continues_grow {after : Store} (grows : Grows owned more session.store after)
    {value : Value} (free : Free more after.lists.length value) :
    Continues synthesis owned session ({ session with store := after }.hold value) :=
  ⟨more, grows.still, (sound.grow grows).hold free, (sound.keeps_grow grows).hold value⟩

/-- Making a builder. -/
theorem Owned.continues_builder {id : ClassId} (bearing : synthesis.bears id = true)
    {computation : Exec Typed} {type : Option Code.TypeRef}
    (made : Yields computation session.store
      ⟨.object ⟨session.store.objects.length, synthesis.builder id⟩, type⟩
      (session.store.newObject (synthesis.builder id)
        (newSlots synthesis synthesis.builder (synthesis.chain id))).2) :
    Continues synthesis owned session
      (session.receivedBuilder (computation.run session.store)) := by
  have grows := sound.grows_newObject (synthesis.builder id)
    (newSlots synthesis synthesis.builder (synthesis.chain id))
  have grown := sound.grow grows
  have keeps := sound.keeps_grow grows
  rw [Session.receivedBuilder_of_yields made]
  refine ⟨owned, List.Subset.refl _, Owned.hold ?_ trivial, ⟨keeps.products, keeps.slots,
    keeps.lists⟩⟩
  refine ⟨grown.inRange, grown.values, grown.lists, grown.arrays, ?_, grown.products, ?_⟩
  · intro builder member
    rcases List.mem_cons.1 member with rfl | earlier
    · exact ⟨id, builderSound_new bearing⟩
    · exact grown.builders builder earlier
  · intro builder member product built
    rcases List.mem_cons.1 member with rfl | earlier
    · obtain ⟨other, productSound⟩ := sound.products product built
      exact (Nat.ne_of_lt productSound.place).symm
    · exact sound.apart builder earlier product built

section Call

variable {builder : Object} (made : builder ∈ session.builders) {view : TypeId}
  (above : view ∈ synthesis.model.supertypes builder.type)

include made above

omit sound made in
/-- A builder is seen as the builder of a class of its chain. -/
theorem view_of_supertypes {id : ClassId}
    (builderSound : BuilderSound synthesis owned session.store builder id) :
    ∃ other ∈ synthesis.chain id,
      synthesis.model.typeRef view = .named (synthesis.builderName other) := by
  rw [builderSound.type, supertypes_builder builderSound.bearing] at above
  obtain ⟨other, member, rfl⟩ := List.mem_map.1 above
  exact ⟨other, member, typeRef_builder (bears_of_mem_chain builderSound.bearing member)⟩

/-- Calling a setter. -/
theorem Owned.continues_set (name : String) {arguments : List Typed}
    (atHand : arguments.map Typed.value ⊆ session.values) :
    Continues synthesis owned session
      (session.received Typed.value
        ((Eval.call synthesis.model ⟨.object builder, some (synthesis.model.typeRef view)⟩
          (setterName name) arguments).run session.store)) := by
  obtain ⟨id, builderSound⟩ := sound.builders builder made
  obtain ⟨other, member, type⟩ := view_of_supertypes above builderSound
  have viewed := bears_of_mem_chain builderSound.bearing member
  rw [type]
  by_cases known : ∃ entry ∈ synthesis.properties other, setterName entry.2.name = setterName name
  · obtain ⟨⟨holder, field⟩, listed, same⟩ := known
    obtain ⟨there, declares⟩ := mem_properties_iff.1 listed
    rw [← same]
    cases taken : Synthesis.setting synthesis field arguments session.store with
    | none =>
        have faults := faults_setter builderSound.bearing member there declares
          builderSound.type taken
        rw [Session.received_of_faults _ faults]
        exact sound.continues_self
    | some result =>
        obtain ⟨value, after⟩ := result
        have yields := yields_setter builderSound.bearing member there declares builderSound.type
          taken
        have free : ∀ argument ∈ arguments,
            Free owned session.store.lists.length argument.value :=
          fun argument given => sound.values _ (atHand (List.mem_map_of_mem given))
        obtain ⟨more, grows, entrusted⟩ := sound.setting free taken
        have grown := sound.grow grows
        have keeps := sound.keeps_grow grows
        have written := grown.write made (bears_of_mem_chain viewed there) declares entrusted
        rw [Session.received_of_yields _ yields]
        refine ⟨more, grows.still, written.hold trivial, keeps.products, ?_, keeps.lists⟩
        intro product built slot
        have apart := sound.apart builder made product built
        have room : builder.place < after.objects.length :=
          Nat.lt_of_lt_of_le builderSound.place grows.objects
        have elsewhere := Store.slot?_write after room (synthesis.builder holder, field.name) value
          product slot
        rw [if_neg (fun both => apart both.1.symm)] at elsewhere
        exact elsewhere.trans (keeps.slots product built slot)
  · have faults := faults_setter_unknown viewed
      (fun entry listed same => known ⟨entry, listed, same⟩)
      builder arguments session.store
    rw [Session.received_of_faults _ faults]
    exact sound.continues_self

/-- Building a product. -/
theorem Owned.continues_build
    (enough : ∀ id, synthesis.bears id = true → (synthesis.chain id).length ≤ 255) :
    Continues synthesis owned session
      (session.receivedProduct
        ((Eval.call synthesis.model ⟨.object builder, some (synthesis.model.typeRef view)⟩
          buildName []).run session.store)) := by
  obtain ⟨id, builderSound⟩ := sound.builders builder made
  obtain ⟨other, member, type⟩ := view_of_supertypes above builderSound
  have bearing := builderSound.bearing
  rw [type]
  cases viewed : synthesis.maker? other with
  | none =>
      rw [Session.receivedProduct_of_faults (faults_build bearing member viewed session.store)]
      exact sound.continues_self
  | some first =>
      obtain ⟨maker, found⟩ := maker?_of_view bearing member viewed
      have makerMember := mem_chain_of_maker? found
      have makerBears := bears_of_mem_chain bearing makerMember
      obtain ⟨held, holds, entrusted⟩ := builderSound.holds
      have fewer : Holds synthesis session.store builder (synthesis.chain maker) held :=
        fun holder there => holds holder (chain_subset bearing makerMember there)
      have yields := yields_build bearing member builderSound.type found viewed
        (enough maker makerBears) builderSound.place fewer
      have grows := sound.grows_made makerBears held
      have grown := sound.grow grows
      have keeps := sound.keeps_grow grows
      rw [Session.receivedProduct_of_yields yields]
      refine ⟨owned, List.Subset.refl _, Owned.hold ?_ trivial,
        ⟨fun product built => List.mem_cons_of_mem _ built, keeps.slots, keeps.lists⟩⟩
      refine ⟨grown.inRange, grown.values, grown.lists, grown.arrays, grown.builders, ?_, ?_⟩
      · intro product built
        rcases List.mem_cons.1 built with rfl | earlier
        · exact ⟨maker, sound.productSound_made makerBears (fun holder there =>
            entrusted holder (chain_subset bearing makerMember there))⟩
        · exact grown.products product earlier
      · intro later there product built
        rcases List.mem_cons.1 built with rfl | earlier
        · obtain ⟨_, laterSound⟩ := sound.builders later there
          exact Nat.ne_of_lt laterSound.place
        · exact sound.apart later there product earlier

end Call

/-- Reading a field of a product. -/
theorem Owned.continues_read {product : Object} (built : product ∈ session.products)
    (name : String) :
    Continues synthesis owned session
      (session.received id
        ((Eval.fieldValue synthesis.model ⟨.object product, none⟩ name).run session.store)) := by
  obtain ⟨own, productSound⟩ := sound.products product built
  rcases Eval.fieldValue_cases synthesis.model product none name session.store with
    faults | ⟨slot, value, found, read⟩
  · rw [Session.received_of_faults _ faults]
    exact sound.continues_self
  · rw [Session.received_of_yields _ read]
    exact sound.continues_hold (productSound.free slot value found)

/-- Appending to a list. -/
theorem Owned.continues_push {place : Nat} {isReadOnly : Bool} {item : Value}
    (atHand : .list place isReadOnly ∈ session.values) (given : item ∈ session.values) :
    Continues synthesis owned session
      (session.received (fun count : Nat => .int count)
        ((Eval.appendItem place isReadOnly item).run session.store)) := by
  cases isReadOnly with
  | true =>
      have faults : Faults (Eval.appendItem place true item) session.store :=
        Eval.faults_raise _ session.store
      rw [Session.received_of_faults _ faults]
      exact sound.continues_self
  | false =>
      have yields : Yields (Eval.appendItem place false item) session.store
          ((session.store.append place item).listItems place).length
          (session.store.append place item) := rfl
      rw [Session.received_of_yields _ yields]
      have apart := (sound.values _ atHand).2 rfl
      exact sound.continues_grow (sound.grows_append apart (sound.values item given)) trivial

end

/-! ### Any number of operations -/

theorem free_of_isLiteral {value : Value} (literal : IsLiteral value) (owned : List Nat)
    (bound : Nat) : Free owned bound value := by
  cases value with
  | list place isReadOnly => exact absurd literal id
  | _ => trivial

section

variable {owned : List Nat} {session after : Session} (sound : Owned synthesis session owned)
  (enough : ∀ id, synthesis.bears id = true → (synthesis.chain id).length ≤ 255)

include sound enough

theorem Owned.step
    (step : Session.Step synthesis.hierarchy synthesis.bears synthesis.config.builderName
      synthesis.model session after) : Continues synthesis owned session after := by
  cases step with
  | literal literal => exact sound.continues_hold (free_of_isLiteral literal _ _)
  | list atHand =>
      have grows := sound.grows_newList (List.Subset.refl owned) (fun _ member => .inl member)
        (fun value member => sound.values value (atHand member))
      apply sound.continues_grow grows
      refine ⟨?_, ?_⟩
      · show session.store.lists.length < (session.store.lists ++ [_]).length
        rw [List.length_append]
        exact Nat.lt_succ_self _
      · intro _ member
        exact absurd (sound.inRange _ member) (Nat.lt_irrefl _)
  | array atHand =>
      exact sound.continues_grow
        (sound.grows_newArray (fun value member => sound.values value (atHand member))) trivial
  | listItem _ inside => exact sound.continues_hold (sound.free_listItems _ _ inside)
  | arrayItem _ inside => exact sound.continues_hold (sound.free_arrayItems _ _ inside)
  | push atHand given => exact sound.continues_push atHand given
  | factory known bearing isConcrete =>
      have own := classAt_eq known
      have made := yields_factory bearing (own ▸ isConcrete) session.store
      unfold productName at made
      rw [own] at made
      exact sound.continues_builder bearing made
  | instantiate known bearing =>
      have own := classAt_eq known
      obtain ⟨pending, size⟩ := exists_size (known_of_bears bearing)
      have found := findClass_builder bearing
      unfold builderName productName at found
      rw [own] at found
      apply sound.continues_builder bearing
      apply (Eval.yields_settled found session.store).bind
      rw [size]
      exact yields_create_builder bearing _ pending session.store
  | set made above name atHand => exact sound.continues_set made above name atHand
  | build made above => exact sound.continues_build made above enough
  | read built name => exact sound.continues_read built name

theorem Owned.steps
    (steps : Session.Steps synthesis.hierarchy synthesis.bears synthesis.config.builderName
      synthesis.model session after) : Continues synthesis owned session after := by
  induction steps with
  | refl => exact sound.continues_self
  | tail _ step inductionHypothesis =>
      obtain ⟨more, still, later, keeps⟩ := inductionHypothesis
      obtain ⟨most, larger, last, kept⟩ := later.step enough step
      exact ⟨most, List.Subset.trans still larger, last, keeps.trans still kept⟩

end

/-- A caller with nothing at hand. -/
theorem owned_empty : Owned synthesis {} [] := by
  constructor <;> intro _ member <;> cases member

end Synthesis

/-! ### Runs on manifests -/

/-- A product stays as it is between two moments, and under the defensive policy its lists do. -/
structure Permanent (hierarchy : Hierarchy) (model : Code.Model) (policy : Policy)
    (early late : Session) (product : Object) : Prop where
  slots : ∀ slot, late.store.slot? product slot = early.store.slot? product slot
  /-- What is read as a list is null or a list that cannot be changed, through nothing that is
  at hand later. -/
  lists : policy = .defensive → ∃ id, id < hierarchy.size ∧
    product.type = productId hierarchy model id ∧
    ∀ field, HasInstanceField hierarchy id field → field.cardinality = .list →
      ∃ value, Yields (Eval.fieldValue model ⟨.object product, none⟩ field.name) early.store value
          early.store ∧
        (value = .null ∨ ∃ place items, value = .list place true ∧
          early.store.lists[place]? = some items ∧ late.store.lists[place]? = some items ∧
          ∀ other isReadOnly item count after, .list other isReadOnly ∈ late.values →
            Yields (Eval.appendItem other isReadOnly item) late.store count after →
              other ≠ place)

/-- A product that was built never changes, whatever its caller goes on to do. -/
theorem products_never_change {file source : String} {manifest : Manifest}
    (accepted : Manifest.read file source = .ok manifest) (disjoint : manifest.NameDisjoint)
    (policy : Policy) :
    ∃ context hierarchy registry,
      (({} : Pipeline).run (manifest.withPolicy policy)).result = .ok context ∧
      (manifest.withPolicy policy).lower = .ok hierarchy ∧ context.registry = some registry ∧
      ((∀ id, bears hierarchy registry id = true →
          ((id :: hierarchy.ancestors id).filter (bears hierarchy registry)).length ≤ 255) →
        ∀ early late,
          Session.Steps hierarchy (bears hierarchy registry) manifest.settings.builderName
            context.model {} early →
          Session.Steps hierarchy (bears hierarchy registry) manifest.settings.builderName
            context.model early late →
          ∀ product ∈ early.products,
            Permanent hierarchy context.model policy early late product) := by
  have known := Manifest.accepted_of_validate (Manifest.validate_of_read accepted)
  obtain ⟨context, synthesis, provides⟩ := exists_synthesis (known.withPolicy policy) disjoint
  obtain ⟨registry, registered, same⟩ := provides.registry
  refine ⟨context, synthesis.hierarchy, registry, provides.result, provides.lowered, registered, ?_⟩
  intro short early late first second product built
  have config := provides.config
  have builderName : synthesis.config.builderName = manifest.settings.builderName := by
    rw [config]
    rfl
  have policy' : synthesis.config.policy = policy := by
    rw [config]
    rfl
  rw [← same, ← builderName, ← provides.model] at first second
  rw [← same] at short
  have enough : ∀ id, synthesis.bears id = true → (synthesis.chain id).length ≤ 255 := by
    intro id bearing
    rw [Synthesis.chain_eq_filter bearing]
    exact short id bearing
  obtain ⟨owned, -, sound, -⟩ := Synthesis.owned_empty.steps enough first
  obtain ⟨more, still, lastly, keeps⟩ := sound.steps enough second
  obtain ⟨id, productSound⟩ := sound.products product built
  rw [← provides.model]
  refine ⟨keeps.slots product built, ?_⟩
  intro defensive
  refine ⟨id, productSound.known, productSound.type, ?_⟩
  rintro field ⟨holder, dataClass, above, there, declared⟩ list
  have member := Synthesis.mem_lineage_iff.2 above
  have declares := (Synthesis.declares_iff there field).2 declared
  obtain ⟨value, slot, entrusted⟩ := productSound.slots holder member field declares
  refine ⟨value, Synthesis.yields_fieldValue productSound.known member declares productSound.type
    slot, ?_⟩
  unfold Entrusted at entrusted
  rw [if_pos ⟨policy'.trans defensive, list⟩] at entrusted
  rcases entrusted with null | ⟨place, own, view⟩
  · exact .inl null
  · have present := List.getElem?_eq_getElem (sound.inRange place own)
    refine .inr ⟨place, _, view, present, (keeps.lists place own).trans present, ?_⟩
    intro other isReadOnly item count after atHand pushed same
    subst same
    cases isReadOnly with
    | true => cases pushed
    | false => exact (lastly.values _ atHand).2 rfl (still own)

/-- The program of a manifest in which a class inherits a list. -/
def skippingModel : Code.Model :=
  (({} : Pipeline).run (skippingManifest.withPolicy .defensive)).context.model

/-- A list of its own changes after a caller has lent it to a builder and has built. -/
theorem skipping_products_never_change :
    ∃ context hierarchy registry early late product,
      (({} : Pipeline).run (skippingManifest.withPolicy .defensive)).result = .ok context ∧
      Session.Steps hierarchy (bears hierarchy registry) "Builder" context.model {} early ∧
      Session.Steps hierarchy (bears hierarchy registry) "Builder" context.model early late ∧
      product ∈ early.products ∧ late.store ≠ early.store ∧
      Permanent hierarchy context.model .defensive early late product := by
  obtain ⟨context, hierarchy, registry, success, lowered, registered, all⟩ :=
    products_never_change read_skippingSource skipping_nameDisjoint .defensive
  obtain ⟨rfl, rfl, rfl⟩ := skipping_run success lowered registered
  have short : ∀ id, bears skippingHierarchy skippingRegistry id = true →
      ((id :: skippingHierarchy.ancestors id).filter
        (bears skippingHierarchy skippingRegistry)).length ≤ 255 := by
    intro id _
    have kept := List.length_filter_le (bears skippingHierarchy skippingRegistry)
      (id :: skippingHierarchy.ancestors id)
    have few := skippingHierarchy.length_chain_le skippingHierarchy.size
      (skippingHierarchy.superclass id)
    have size : skippingHierarchy.size = 3 := by
      decide +kernel
    change (skippingHierarchy.ancestors id).length ≤ skippingHierarchy.size at few
    rw [List.length_cons] at kept
    omega
  have bearing : bears skippingHierarchy skippingRegistry 2 = true := by
    decide +kernel
  let literal := ({} : Session).hold (.text "x")
  let listed := { literal with store := (literal.store.newList [.text "x"]).2 }.hold
    (literal.store.newList [.text "x"]).1
  let started := listed.receivedBuilder
    ((Eval.callStatic skippingModel "Leaf" factoryName []).run listed.store)
  let seen : Typed := ⟨.object ⟨0, 5⟩, some (skippingModel.typeRef 5)⟩
  let given : Typed := ⟨.list 0 false, some (.list (.primitive .string))⟩
  let filled := started.received Typed.value
    ((Eval.call skippingModel seen (setterName "tags") [given]).run started.store)
  let early := filled.receivedProduct
    ((Eval.call skippingModel seen buildName []).run filled.store)
  let late := early.received (fun count : Nat => .int count)
    ((Eval.appendItem 0 false (.text "x")).run early.store)
  have above : 5 ∈ skippingModel.supertypes 5 := by
    decide +kernel
  let Step := Session.Step skippingHierarchy (bears skippingHierarchy skippingRegistry) "Builder"
    skippingModel
  have first : Step {} literal := .literal trivial
  have second : Step literal listed := .list (by decide +kernel)
  have third : Step listed started := by
    have factory := @Session.Step.factory skippingHierarchy
      (bears skippingHierarchy skippingRegistry) "Builder" skippingModel listed _ _
      get?_skippingLeaf bearing isAbstract_skippingLeaf
    rw [name_skippingLeaf] at factory
    exact factory
  have fourth : Step started filled := .set (by decide +kernel) above "tags" (by decide +kernel)
  have fifth : Step filled early := .build (by decide +kernel) above
  have sixth : Step early late := .push (by decide +kernel) (by decide +kernel)
  have steps : Session.Steps skippingHierarchy (bears skippingHierarchy skippingRegistry)
      "Builder" skippingModel {} early :=
    .tail (.tail (.tail (.tail (.single first) second) third) fourth) fifth
  have further : Session.Steps skippingHierarchy (bears skippingHierarchy skippingRegistry)
      "Builder" skippingModel early late := .single sixth
  have built : (⟨1, 3⟩ : Object) ∈ early.products := by
    decide +kernel
  exact ⟨skippingContext, skippingHierarchy, skippingRegistry, early, late, _, success, steps,
    further, built, by decide +kernel, all short early late steps further _ built⟩

end BuilderSynthesis.Run
