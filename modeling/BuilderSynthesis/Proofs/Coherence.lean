import BuilderSynthesis.Proofs.Identity

/-!
Contract: how the types of a model fit together, however much is declared.

No type has two fields of one name or two methods of one signature. What a type lists as nested is
nested in it, and every nested type is listed once. Types only grow, and a request that is refused
is refused before anything is written.

Owns: `Coherent`, `Continues`, and the service of a request one write at a time, `perform`.
-/

namespace BuilderSynthesis.Code

namespace Declaration

/-- A later state of the same type: more members, and perhaps another superclass. -/
structure Extends (later earlier : Declaration) : Prop where
  header : later.header = earlier.header
  named : later.qualifiedName = earlier.qualifiedName
  package : later.package = earlier.package
  outer : later.outer = earlier.outer
  fields : earlier.fields <+: later.fields
  methods : earlier.methods <+: later.methods
  nested : earlier.nested <+: later.nested

theorem extends_refl (declaration : Declaration) : declaration.Extends declaration :=
  ⟨rfl, rfl, rfl, rfl, List.prefix_rfl, List.prefix_rfl, List.prefix_rfl⟩

theorem Extends.trans {last later earlier : Declaration} (second : last.Extends later)
    (first : later.Extends earlier) : last.Extends earlier where
  header := second.header.trans first.header
  named := second.named.trans first.named
  package := second.package.trans first.package
  outer := second.outer.trans first.outer
  fields := first.fields.trans second.fields
  methods := first.methods.trans second.methods
  nested := first.nested.trans second.nested

theorem extends_addField (declaration : Declaration) (field : Field) :
    (declaration.addField field).Extends declaration :=
  { declaration.extends_refl with fields := List.prefix_append _ _ }

theorem extends_addMethod (declaration : Declaration) (method : Method) :
    (declaration.addMethod method).Extends declaration :=
  { declaration.extends_refl with methods := List.prefix_append _ _ }

theorem extends_addNested (declaration : Declaration) (name : String) (id : TypeId) :
    (declaration.addNested name id).Extends declaration :=
  { declaration.extends_refl with nested := List.prefix_append _ _ }

/-- No two fields have one name, and no two methods one name and one list of erased parameter
types; no simple name and no type is listed twice as nested. -/
structure DistinctMembers (declaration : Declaration) : Prop where
  fields : (declaration.fields.map Field.name).Nodup
  methods : declaration.methods.Pairwise fun one other =>
    one.name = other.name → one.erasedParameters ≠ other.erasedParameters
  simpleNames : (declaration.nested.map Prod.fst).Nodup
  listed : (declaration.nested.map Prod.snd).Nodup

/-- A type is the one that another lists under a simple name. -/
structure NestedIn (declaration parent : Declaration) (outer : TypeId) (name : String) : Prop where
  simple : declaration.name = name
  outer : declaration.outer = some outer
  named : declaration.qualifiedName = parent.qualifiedName ++ "." ++ name
  package : declaration.package = parent.package

/-- What is nested in a type stays so while both grow. -/
theorem NestedIn.extends {declaration parent later above : Declaration} {outer : TypeId}
    {name : String} (nested : declaration.NestedIn parent outer name)
    (grows : later.Extends declaration) (parentGrows : above.Extends parent) :
    later.NestedIn above outer name where
  simple := by
    unfold Declaration.name
    rw [grows.header]
    exact nested.simple
  outer := grows.outer.trans nested.outer
  named := by rw [grows.named, nested.named, parentGrows.named]
  package := by rw [grows.package, nested.package, parentGrows.package]

theorem distinctMembers_of_empty {declaration : Declaration} (fields : declaration.fields = [])
    (methods : declaration.methods = []) (nested : declaration.nested = []) :
    declaration.DistinctMembers := by
  constructor
  · rw [fields]
    exact List.nodup_nil
  · rw [methods]
    exact List.Pairwise.nil
  all_goals
    rw [nested]
    exact List.nodup_nil

/-- A list without repetitions and one more item that is not in it. -/
theorem nodup_map_concat {key : α → β} {items : List α} {item : α}
    (distinct : (items.map key).Nodup) (new : key item ∉ items.map key) :
    ((items ++ [item]).map key).Nodup := by
  rw [List.map_append, List.map_singleton, ← List.concat_eq_append]
  exact (List.nodup_concat _ _).2 ⟨new, distinct⟩

theorem DistinctMembers.addField {declaration : Declaration}
    (distinct : declaration.DistinctMembers) {field : Field}
    (new : field.name ∉ declaration.fields.map Field.name) :
    (declaration.addField field).DistinctMembers :=
  ⟨nodup_map_concat distinct.fields new, distinct.methods, distinct.simpleNames, distinct.listed⟩

theorem DistinctMembers.addNested {declaration : Declaration}
    (distinct : declaration.DistinctMembers) {name : String} {id : TypeId}
    (new : name ∉ declaration.nested.map Prod.fst)
    (unlisted : id ∉ declaration.nested.map Prod.snd) :
    (declaration.addNested name id).DistinctMembers :=
  ⟨distinct.fields, distinct.methods, nodup_map_concat distinct.simpleNames new,
    nodup_map_concat distinct.listed unlisted⟩

theorem DistinctMembers.addMethod {declaration : Declaration}
    (distinct : declaration.DistinctMembers) {method : Method}
    (new : ∀ other ∈ declaration.methods, other.sameSignature method = false) :
    (declaration.addMethod method).DistinctMembers := by
  refine ⟨distinct.fields, List.pairwise_append.2 ⟨distinct.methods, List.pairwise_singleton _ _,
    ?_⟩, distinct.simpleNames, distinct.listed⟩
  intro other member last isLast named same
  obtain rfl := List.mem_singleton.1 isLast
  have different := new other member
  unfold Method.sameSignature at different
  rw [named, same, BEq.rfl, BEq.rfl] at different
  cases different

end Declaration

namespace Model

open Declaration (DistinctMembers Extends NestedIn)

variable {model before middle after : Model}

/-- Every position holds a later state of the type that it held. -/
def Continues (before after : Model) : Prop :=
  ∀ id earlier, before.get? id = some earlier →
    ∃ later, after.get? id = some later ∧ later.Extends earlier

theorem continues_refl (model : Model) : model.Continues model :=
  fun _ earlier found => ⟨earlier, found, earlier.extends_refl⟩

theorem Continues.trans (first : before.Continues middle) (second : middle.Continues after) :
    before.Continues after := by
  intro id earlier found
  obtain ⟨later, there, grows⟩ := first id earlier found
  obtain ⟨last, still, more⟩ := second id later there
  exact ⟨last, still, more.trans grows⟩

theorem continues_insert (model : Model) (declaration : Declaration) :
    model.Continues (model.insert declaration) :=
  fun _ earlier found => ⟨earlier, get?_insert_of_some found, earlier.extends_refl⟩

theorem continues_update (model : Model) (id : TypeId) {change : Declaration → Declaration}
    (grows : ∀ declaration, (change declaration).Extends declaration) :
    model.Continues (model.update id change) := by
  intro position earlier found
  rw [get?_update, found]
  split
  · exact ⟨_, rfl, grows earlier⟩
  · exact ⟨_, rfl, earlier.extends_refl⟩

/-- The types of a model fit together. -/
structure Coherent (model : Model) : Prop where
  members : ∀ {id declaration}, model.get? id = some declaration → declaration.DistinctMembers
  /-- What a type lists is nested in it. -/
  nested : ∀ {id parent}, model.get? id = some parent → ∀ entry ∈ parent.nested,
    ∃ declaration, model.get? entry.2 = some declaration ∧ declaration.NestedIn parent id entry.1
  /-- A nested type is listed by its outer type, which came before it. -/
  outer : ∀ {id declaration above}, model.get? id = some declaration →
    declaration.outer = some above →
      above < id ∧ ∃ parent, model.get? above = some parent ∧ id ∈ parent.nested.map Prod.snd

theorem coherent_empty : Coherent {} :=
  ⟨fun found => (nomatch found), fun found => (nomatch found), fun found => (nomatch found)⟩

theorem continues_nestIn (model : Model) (outer : TypeId) (declaration : Declaration) :
    model.Continues (model.nestIn outer declaration) :=
  (continues_insert model declaration).trans
    (continues_update _ outer fun other => other.extends_addNested _ _)

section

variable (coherent : model.Coherent)

include coherent

/-- What a type lists was declared before. -/
theorem Coherent.nested_lt {id : TypeId} {parent : Declaration}
    (found : model.get? id = some parent) {position : TypeId}
    (member : position ∈ parent.nested.map Prod.snd) : position < model.size := by
  obtain ⟨entry, listed, rfl⟩ := List.mem_map.1 member
  obtain ⟨declaration, there, -⟩ := coherent.nested found entry listed
  exact get?_eq_some_lt there

/-- Adding a type that is in no other and has nothing in it. -/
theorem Coherent.insert {declaration : Declaration} (fields : declaration.fields = [])
    (methods : declaration.methods = []) (empty : declaration.nested = [])
    (outermost : declaration.outer = none) : (model.insert declaration).Coherent := by
  have continues := continues_insert model declaration
  constructor
  · intro id found there
    rcases get?_insert_cases there with old | ⟨-, rfl⟩
    · exact coherent.members old
    · exact Declaration.distinctMembers_of_empty fields methods empty
  · intro id parent there entry member
    rcases get?_insert_cases there with old | ⟨-, rfl⟩
    · obtain ⟨nested, known, fits⟩ := coherent.nested old entry member
      obtain ⟨later, still, grows⟩ := continues _ _ known
      exact ⟨later, still, fits.extends grows parent.extends_refl⟩
    · rw [empty] at member
      cases member
  · intro id nested above there inside
    rcases get?_insert_cases there with old | ⟨-, rfl⟩
    · obtain ⟨below, parent, known, member⟩ := coherent.outer old inside
      exact ⟨below, parent, get?_insert_of_some known, member⟩
    · rw [outermost] at inside
      cases inside

/-- Changing a type without nesting anything. -/
theorem Coherent.update (id : TypeId) {change : Declaration → Declaration}
    (grows : ∀ declaration, (change declaration).Extends declaration)
    (same : ∀ declaration, (change declaration).nested = declaration.nested)
    (members : ∀ declaration, model.get? id = some declaration →
      (change declaration).DistinctMembers) :
    (model.update id change).Coherent := by
  have continues := continues_update model id grows
  -- Every type was there before, with what it lists.
  have earlier : ∀ {position found}, (model.update id change).get? position = some found →
      ∃ declaration, model.get? position = some declaration ∧ found.Extends declaration ∧
        found.nested = declaration.nested ∧ found.DistinctMembers := by
    intro position found there
    rcases get?_update_cases there with ⟨rfl, declaration, known, rfl⟩ | ⟨-, known⟩
    · exact ⟨declaration, known, grows declaration, same declaration, members declaration known⟩
    · exact ⟨found, known, found.extends_refl, rfl, coherent.members known⟩
  constructor
  · intro position found there
    obtain ⟨-, -, -, -, distinct⟩ := earlier there
    exact distinct
  · intro position parent there entry member
    obtain ⟨declaration, known, parentGrows, lists, -⟩ := earlier there
    rw [lists] at member
    obtain ⟨nested, below, fits⟩ := coherent.nested known entry member
    obtain ⟨later, still, nestedGrows⟩ := continues _ _ below
    exact ⟨later, still, fits.extends nestedGrows parentGrows⟩
  · intro position found above there inside
    obtain ⟨declaration, known, foundGrows, -⟩ := earlier there
    rw [foundGrows.outer] at inside
    obtain ⟨below, parent, listing, member⟩ := coherent.outer known inside
    obtain ⟨later, still, parentGrows⟩ := continues _ _ listing
    exact ⟨below, later, still, (parentGrows.nested.map Prod.snd).subset member⟩

/-- Nesting a new type in another. -/
theorem Coherent.nestIn {outer : TypeId} {parent declaration : Declaration}
    (found : model.get? outer = some parent) (fields : declaration.fields = [])
    (methods : declaration.methods = []) (empty : declaration.nested = [])
    (fits : declaration.NestedIn parent outer declaration.name)
    (new : declaration.name ∉ parent.nested.map Prod.fst) :
    (model.nestIn outer declaration).Coherent := by
  have continues := continues_nestIn model outer declaration
  -- Earlier entries stand for the same types still.
  have kept : ∀ {position : TypeId} {above later : Declaration},
      model.get? position = some above → later.Extends above → ∀ entry ∈ above.nested,
        ∃ nested, (model.nestIn outer declaration).get? entry.2 = some nested ∧
          nested.NestedIn later position entry.1 := by
    intro position above later known grows entry member
    obtain ⟨nested, there, inside⟩ := coherent.nested known entry member
    obtain ⟨more, still, nestedGrows⟩ := continues _ _ there
    exact ⟨more, still, inside.extends nestedGrows grows⟩
  constructor
  · intro position other there
    rcases get?_nestIn_cases found there with ⟨-, rfl⟩ | old | ⟨-, rfl⟩
    · exact (coherent.members found).addNested new fun member =>
        Nat.lt_irrefl _ (coherent.nested_lt found member)
    · exact coherent.members old
    · exact Declaration.distinctMembers_of_empty fields methods empty
  · intro position above there entry member
    rcases get?_nestIn_cases found there with ⟨rfl, rfl⟩ | old | ⟨-, rfl⟩
    · rcases List.mem_append.1 member with earlier | added
      · exact kept found (parent.extends_addNested _ _) entry earlier
      · obtain rfl := List.mem_singleton.1 added
        exact ⟨declaration, get?_nestIn_size found declaration,
          fits.extends declaration.extends_refl (parent.extends_addNested _ _)⟩
    · exact kept old above.extends_refl entry member
    · rw [empty] at member
      cases member
  · intro position other above there inside
    -- The outer type of an earlier type lists it still.
    have earlier : ∀ nested, model.get? position = some nested → nested.outer = some above →
        above < position ∧ ∃ listing, (model.nestIn outer declaration).get? above = some listing ∧
          position ∈ listing.nested.map Prod.snd := by
      intro nested known within
      obtain ⟨smaller, listing, there, member⟩ := coherent.outer known within
      obtain ⟨later, still, grows⟩ := continues _ _ there
      exact ⟨smaller, later, still, (grows.nested.map Prod.snd).subset member⟩
    rcases get?_nestIn_cases found there with ⟨rfl, rfl⟩ | old | ⟨rfl, rfl⟩
    · exact earlier parent found inside
    · exact earlier other old inside
    · rw [fits.outer, Option.some.injEq] at inside
      subst inside
      refine ⟨get?_eq_some_lt found, _, get?_nestIn_outer found other,
        List.mem_map.2 ⟨(other.name, model.size), ?_, rfl⟩⟩
      exact List.mem_append_right _ (List.mem_singleton.2 rfl)

/-- A granted request leaves the types fitting together, each a later state of what it was. -/
theorem Coherent.answer {request : Request} (granted : model.answer request = .ok after) :
    after.Coherent ∧ model.Continues after := by
  cases request with
  | topLevel qualifiedName header =>
      obtain ⟨id, declared⟩ := answer_topLevel_eq_ok_iff.1 granted
      obtain ⟨-, -, rfl⟩ := declareClass_eq_ok_iff.1 declared
      exact ⟨coherent.insert rfl rfl rfl rfl, continues_insert model _⟩
  | nested outer header =>
      obtain ⟨id, declared⟩ := answer_nested_eq_ok_iff.1 granted
      obtain ⟨parent, found, new, -, rfl⟩ := declareNested_eq_ok_iff.1 declared
      exact ⟨coherent.nestIn found rfl rfl rfl ⟨rfl, rfl, rfl, rfl⟩ new,
        continues_nestIn model outer _⟩
  | field owner field =>
      obtain ⟨declaration, found, new, rfl⟩ := declareField_eq_ok_iff.1 granted
      refine ⟨coherent.update owner (fun other => other.extends_addField field) (fun _ => rfl) ?_,
        continues_update model owner fun other => other.extends_addField field⟩
      intro other there
      rw [found, Option.some.injEq] at there
      exact (coherent.members (there ▸ found)).addField (there ▸ new)
  | method owner method =>
      obtain ⟨declaration, found, new, rfl⟩ := declareMethod_eq_ok_iff.1 granted
      refine ⟨coherent.update owner (fun other => other.extends_addMethod method) (fun _ => rfl) ?_,
        continues_update model owner fun other => other.extends_addMethod method⟩
      intro other there
      rw [found, Option.some.injEq] at there
      exact (coherent.members (there ▸ found)).addMethod (there ▸ new)
  | superclass id above =>
      cases granted
      have grows : ∀ declaration : Declaration,
          ({ declaration with superclass := some above } : Declaration).Extends declaration :=
        fun declaration => { declaration.extends_refl with }
      refine ⟨coherent.update id grows (fun _ => rfl) ?_, continues_update model id grows⟩
      intro declaration found
      obtain ⟨fields, methods, simpleNames, listed⟩ := coherent.members found
      exact ⟨fields, methods, simpleNames, listed⟩

theorem Coherent.serve (request : Request) :
    (model.serve request).Coherent ∧ model.Continues (model.serve request) := by
  unfold Model.serve
  cases answered : model.answer request with
  | error conflict => exact ⟨coherent, continues_refl model⟩
  | ok after => exact coherent.answer answered

theorem Coherent.steps (steps : model.Steps after) : after.Coherent ∧ model.Continues after := by
  induction steps with
  | refl => exact ⟨coherent, continues_refl model⟩
  | tail _ step inductionHypothesis =>
      obtain ⟨request, -, rfl⟩ := step
      obtain ⟨kept, continues⟩ := inductionHypothesis.1.serve request
      exact ⟨kept, inductionHypothesis.2.trans continues⟩

end

/-! ### Requests that are served in place -/

/-- Work on a model that is changed where it is; a conflict ends the work and undoes nothing. -/
abbrev InPlace := ExceptT Conflict (StateM Model)

namespace InPlace

def type (id : TypeId) : InPlace Declaration := do
  match (← get).get? id with
  | none => throw (.unknownType id)
  | some declaration => return declaration

/-- Ends the work if there is a conflict. -/
def refuse (occurs : Bool) (conflict : Conflict) : InPlace Unit :=
  if occurs then throw conflict else return

def insert (declaration : Declaration) : InPlace TypeId := do
  let id := (← get).size
  modify fun model => { model with index := (declaration.qualifiedName, id) :: model.index }
  modify fun model => { model with types := model.types ++ [declaration] }
  return id

def change (id : TypeId) (modification : Declaration → Declaration) : InPlace Unit :=
  modify fun model => { model with types := model.types.modify id modification }

def perform : Request → InPlace Unit
  | .topLevel qualifiedName header => do
      refuse ((← get).lookup qualifiedName).isSome (.type qualifiedName)
      let _ ← insert { header, qualifiedName, package := Text.beforeLastDot? qualifiedName }
  | .nested outer header => do
      let parent ← type outer
      refuse (parent.nested? header.name).isSome (.nestedType parent.qualifiedName header.name)
      let id ← insert {
        header
        qualifiedName := parent.qualifiedName ++ "." ++ header.name
        package := parent.package
        outer := some outer }
      change outer (Declaration.addNested · header.name id)
  | .field owner field => do
      let declaration ← type owner
      refuse (declaration.field? field.name).isSome (.field declaration.qualifiedName field.name)
      change owner (Declaration.addField · field)
  | .method owner method => do
      let declaration ← type owner
      refuse (declaration.methods.any fun other => other.sameSignature method)
        (.method declaration.qualifiedName method.signature)
      change owner (Declaration.addMethod · method)
  | .superclass id above =>
      change id fun declaration => { declaration with superclass := some above }

def outcome (work : InPlace α) (model : Model) : Except Conflict α × Model :=
  work.run.run model

section

variable (model : Model)

theorem outcome_get_bind (next : Model → InPlace α) :
    outcome (get >>= next) model = outcome (next model) model :=
  rfl

theorem outcome_type_bind (id : TypeId) (next : Declaration → InPlace α) :
    outcome (type id >>= next) model =
      match model.get? id with
      | none => (.error (.unknownType id), model)
      | some declaration => outcome (next declaration) model := by
  unfold type
  rw [bind_assoc, outcome_get_bind]
  cases model.get? id <;> rfl

theorem outcome_refuse_bind (occurs : Bool) (conflict : Conflict) (next : Unit → InPlace α) :
    outcome (refuse occurs conflict >>= next) model =
      if occurs then (.error conflict, model) else outcome (next ()) model := by
  cases occurs <;> rfl

/-- Nothing is written before a conflict is found. -/
theorem outcome_perform (request : Request) :
    outcome (perform request) model =
      match model.answer request with
      | .ok after => (.ok (), after)
      | .error conflict => (.error conflict, model) := by
  cases request with
  | topLevel qualifiedName header =>
      rw [perform, answer, declareClass, outcome_get_bind, outcome_refuse_bind]
      cases model.lookup qualifiedName <;> rfl
  | nested outer header =>
      rw [perform, answer, declareNested, outcome_type_bind]
      cases model.get? outer with
      | none => rfl
      | some parent =>
          dsimp only
          rw [outcome_refuse_bind]
          cases parent.nested? header.name <;> rfl
  | field owner field =>
      rw [perform, answer, declareField, outcome_type_bind]
      cases model.get? owner with
      | none => rfl
      | some declaration =>
          dsimp only
          rw [outcome_refuse_bind]
          cases declaration.field? field.name <;> rfl
  | method owner method =>
      rw [perform, answer, declareMethod, outcome_type_bind]
      cases model.get? owner with
      | none => rfl
      | some declaration =>
          dsimp only
          rw [outcome_refuse_bind]
          cases declaration.methods.any (fun other => other.sameSignature method) <;> rfl
  | superclass id above => rfl

end

end InPlace

open InPlace (outcome perform)

/-- A request about types of the model is refused for what they declare already. -/
theorem answer_ne_unknownType {request : Request} (within : request.Within model) (id : TypeId) :
    model.answer request ≠ .error (.unknownType id) := by
  cases request with
  | topLevel qualifiedName header =>
      rw [answer, declareClass]
      cases model.lookup qualifiedName <;> rintro ⟨⟩
  | nested outer header =>
      obtain ⟨parent, found⟩ := exists_get? within
      rw [answer, declareNested, found]
      dsimp only
      cases parent.nested? header.name <;> rintro ⟨⟩
  | field owner field =>
      obtain ⟨declaration, found⟩ := exists_get? within
      rw [answer, declareField, found]
      dsimp only
      cases declaration.field? field.name <;> rintro ⟨⟩
  | method owner method =>
      obtain ⟨declaration, found⟩ := exists_get? within
      rw [answer, declareMethod, found]
      dsimp only
      cases declaration.methods.any (fun other => other.sameSignature method) <;> rintro ⟨⟩
  | superclass id above => rintro ⟨⟩

/-- A nested type is listed exactly once by its outer type. -/
theorem Coherent.count_listed (coherent : model.Coherent) {id above : TypeId}
    {declaration : Declaration} (found : model.get? id = some declaration)
    (inside : declaration.outer = some above) :
    above < id ∧ ∃ parent, model.get? above = some parent ∧
      (parent.nested.map Prod.snd).count id = 1 := by
  obtain ⟨below, parent, known, member⟩ := coherent.outer found inside
  exact ⟨below, parent, known, List.count_eq_one_of_mem (coherent.members known).listed member⟩

/-- Whatever is requested, the types fit together and go on being what they were, and serving a
request in place either grants it or leaves the model as it was. -/
theorem coherent_of_reached (reached : before.Reached) (steps : before.Steps after) :
    after.Coherent ∧
    (∀ id declaration above, after.get? id = some declaration → declaration.outer = some above →
      above < id ∧ ∃ parent, after.get? above = some parent ∧
        (parent.nested.map Prod.snd).count id = 1) ∧
    before.Continues after ∧
    ∀ request : Request, request.Within after →
      (∃ next, outcome (perform request) after = (.ok (), next) ∧ after.Step next ∧
        next.Coherent ∧ after.Continues next) ∨
      ∃ conflict, outcome (perform request) after = (.error conflict, after) ∧
        ∀ id, conflict ≠ .unknownType id := by
  obtain ⟨started, -⟩ := coherent_empty.steps reached
  obtain ⟨coherent, continues⟩ := started.steps steps
  refine ⟨coherent, fun id declaration above found inside => coherent.count_listed found inside,
    continues, fun request within => ?_⟩
  rw [InPlace.outcome_perform]
  cases answered : after.answer request with
  | ok next =>
      obtain ⟨kept, grows⟩ := coherent.answer answered
      refine .inl ⟨next, rfl, ⟨request, within, ?_⟩, kept, grows⟩
      unfold serve
      rw [answered]
  | error conflict =>
      refine .inr ⟨conflict, rfl, ?_⟩
      rintro id rfl
      exact answer_ne_unknownType within id answered

/-- Declares a class, a type in it and a type in that, then a field, and asks twice for what is
there already. -/
def nesting : List Request :=
  [.topLevel "zoo.Pen" { name := "Pen" }, .nested 0 { name := "Gate" },
    .nested 1 { name := "Bolt" }, .field 1 { name := "open", type := .primitive .bool },
    .nested 0 { name := "Gate" }, .field 1 { name := "open", type := .primitive .string }]

theorem coherent_nesting :
    Reached ((nesting.take 3).foldl serve {}) ∧
      Steps ((nesting.take 3).foldl serve {}) (nesting.foldl serve {}) ∧
      (nesting.foldl serve {}).Coherent ∧
      ((nesting.take 3).foldl serve {}).Continues (nesting.foldl serve {}) ∧
      ∃ conflict, outcome (perform (.nested 0 { name := "Gate" })) (nesting.foldl serve {}) =
        (.error conflict, nesting.foldl serve {}) := by
  have reached : Reached ((nesting.take 3).foldl serve {}) := steps_foldl_serve (by decide)
  have steps : Steps ((nesting.take 3).foldl serve {}) (nesting.foldl serve {}) :=
    @steps_foldl_serve _ (nesting.drop 3) (by decide)
  obtain ⟨coherent, -, continues, serves⟩ := coherent_of_reached reached steps
  refine ⟨reached, steps, coherent, continues, ?_⟩
  have taken : (outcome (perform (.nested 0 { name := "Gate" })) (nesting.foldl serve {})).1 =
      .error (.nestedType "zoo.Pen" "Gate") := rfl
  rcases serves (.nested 0 { name := "Gate" }) (by decide) with
    ⟨next, granted, -⟩ | ⟨conflict, refused, -⟩
  · rw [granted] at taken
    cases taken
  · exact ⟨conflict, refused⟩

end Model

end BuilderSynthesis.Code
