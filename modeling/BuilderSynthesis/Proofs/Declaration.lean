import BuilderSynthesis.Proofs.Naming

/-!
Contract: when a request to declare something is granted, and what it leaves.

There is one equivalence for each kind of request. A granted request for a member changes one
type, at the end of a list. What is left of a model after a type is added, changed or nested in
another is said once, by the types that are found in it.

Owns: `Model.nestIn`, and for each change the cases of a type that is found after it.
-/

namespace BuilderSynthesis.Code

namespace Declaration

theorem field?_eq_none_iff (declaration : Declaration) (name : String) :
    declaration.field? name = none ↔ name ∉ declaration.fields.map Field.name := by
  simp [field?]

theorem nested?_eq_none_iff (declaration : Declaration) (name : String) :
    declaration.nested? name = none ↔ name ∉ declaration.nested.map Prod.fst :=
  Keyed.value?_eq_none_iff declaration.nested name

def addField (declaration : Declaration) (field : Field) : Declaration :=
  { declaration with fields := declaration.fields ++ [field] }

def addMethod (declaration : Declaration) (method : Method) : Declaration :=
  { declaration with methods := declaration.methods ++ [method] }

def addNested (declaration : Declaration) (name : String) (id : TypeId) : Declaration :=
  { declaration with nested := declaration.nested ++ [(name, id)] }

end Declaration

namespace Model

variable {model after : Model}

/-! ### Types after a change -/

theorem get?_insert_of_some {declaration found : Declaration} {id : TypeId}
    (there : model.get? id = some found) : (model.insert declaration).get? id = some found := by
  rw [get?_insert_of_lt _ _ (get?_eq_some_lt there), there]

/-- A type of a model with one more type is an earlier one or the new one. -/
theorem get?_insert_cases {declaration found : Declaration} {id : TypeId}
    (there : (model.insert declaration).get? id = some found) :
    model.get? id = some found ∨ id = model.size ∧ found = declaration := by
  rcases Nat.lt_or_ge id model.size with old | new
  · rw [get?_insert_of_lt _ _ old] at there
    exact .inl there
  · have small := get?_eq_some_lt there
    rw [size_insert] at small
    obtain rfl : id = model.size := Nat.le_antisymm (Nat.le_of_lt_succ small) new
    rw [get?_insert_size, Option.some.injEq] at there
    exact .inr ⟨rfl, there.symm⟩

/-- A type of a model in which one was changed is that one, or another one as it was. -/
theorem get?_update_cases {id position : TypeId} {change : Declaration → Declaration}
    {found : Declaration} (there : (model.update id change).get? position = some found) :
    (position = id ∧ ∃ declaration, model.get? id = some declaration ∧
      found = change declaration) ∨ position ≠ id ∧ model.get? position = some found := by
  rw [get?_update] at there
  split at there
  · rename_i here
    obtain ⟨declaration, known, changed⟩ := Option.map_eq_some_iff.1 there
    exact .inl ⟨here, declaration, here ▸ known, changed.symm⟩
  · rename_i apart
    exact .inr ⟨apart, there⟩

/-- A model with one more type, listed by an earlier one. -/
def nestIn (model : Model) (outer : TypeId) (declaration : Declaration) : Model :=
  (model.insert declaration).update outer
    (Declaration.addNested · declaration.name model.size)

theorem names_nestIn (model : Model) (outer : TypeId) (declaration : Declaration) :
    (model.nestIn outer declaration).names = model.names ++ [declaration.qualifiedName] := by
  have keeps (other : Declaration) :
      (other.addNested declaration.name model.size).qualifiedName = other.qualifiedName := rfl
  unfold nestIn
  rw [names_update _ _ keeps, names_insert]

theorem indexed_nestIn (indexed : model.Indexed) (outer : TypeId) (declaration : Declaration) :
    (model.nestIn outer declaration).Indexed :=
  indexed_update (indexed_insert indexed declaration) outer fun _ => rfl

theorem get?_nestIn_of_lt (outer : TypeId) (declaration : Declaration) {position : TypeId}
    (small : position < model.size) (apart : position ≠ outer) :
    (model.nestIn outer declaration).get? position = model.get? position := by
  unfold nestIn
  rw [get?_update, if_neg apart, get?_insert_of_lt _ _ small]

section

variable {outer : TypeId} {parent : Declaration} (found : model.get? outer = some parent)

include found

theorem get?_nestIn_outer (declaration : Declaration) :
    (model.nestIn outer declaration).get? outer =
      some (parent.addNested declaration.name model.size) := by
  unfold nestIn
  rw [get?_update, if_pos rfl, get?_insert_of_some found, Option.map_some]

theorem get?_nestIn_size (declaration : Declaration) :
    (model.nestIn outer declaration).get? model.size = some declaration := by
  unfold nestIn
  rw [get?_update, if_neg (Nat.ne_of_gt (get?_eq_some_lt found)), get?_insert_size]

/-- A type is the outer one with its new entry, an earlier one, or the new one. -/
theorem get?_nestIn_cases {declaration other : Declaration} {position : TypeId}
    (there : (model.nestIn outer declaration).get? position = some other) :
    (position = outer ∧ other = parent.addNested declaration.name model.size) ∨
      model.get? position = some other ∨ position = model.size ∧ other = declaration := by
  by_cases here : position = outer
  · rw [here, get?_nestIn_outer found, Option.some.injEq] at there
    exact .inl ⟨here, there.symm⟩
  · unfold nestIn at there
    rw [get?_update, if_neg here] at there
    exact .inr (get?_insert_cases there)

end

/-! ### Requests that are granted -/

/-- A class is declared at the next position, under a name that is not taken. -/
theorem declareClass_eq_ok_iff {qualifiedName : String} {header : Header} {id : TypeId} :
    model.declareClass qualifiedName header = .ok (id, after) ↔
      model.lookup qualifiedName = none ∧ id = model.size ∧
        after = model.insert {
          header := header
          qualifiedName := qualifiedName
          package := Text.beforeLastDot? qualifiedName } := by
  unfold declareClass
  cases model.lookup qualifiedName <;> simp [eq_comm]

/-- A nested type is declared at the next position, under a simple name that its outer type does
not use yet. -/
theorem declareNested_eq_ok_iff {outer : TypeId} {header : Header} {id : TypeId} :
    model.declareNested outer header = .ok (id, after) ↔
      ∃ parent, model.get? outer = some parent ∧ header.name ∉ parent.nested.map Prod.fst ∧
        id = model.size ∧
        after = model.nestIn outer {
          header := header
          qualifiedName := parent.qualifiedName ++ "." ++ header.name
          package := parent.package
          outer := some outer } := by
  unfold declareNested
  cases model.get? outer with
  | none => simp
  | some parent =>
      simp only [← Declaration.nested?_eq_none_iff]
      cases used : parent.nested? header.name <;>
        simp [used, eq_comm, nestIn, Declaration.name, Declaration.addNested]

/-- A nested type is refused if its outer type lists its simple name, and granted otherwise. -/
theorem declareNested_eq {outer : TypeId} {parent : Declaration}
    (found : model.get? outer = some parent) (header : Header) :
    model.declareNested outer header =
      if header.name ∈ parent.nested.map Prod.fst then
        .error (.nestedType parent.qualifiedName header.name)
      else
        .ok (model.size, model.nestIn outer {
          header := header
          qualifiedName := parent.qualifiedName ++ "." ++ header.name
          package := parent.package
          outer := some outer }) := by
  split
  · rename_i taken
    have used := mt (parent.nested?_eq_none_iff header.name).1 (not_not_intro taken)
    obtain ⟨other, listed⟩ := Option.ne_none_iff_exists'.1 used
    simp only [declareNested, found, listed]
  · rename_i free
    exact declareNested_eq_ok_iff.2 ⟨parent, found, free, rfl, rfl⟩

theorem declareField_eq_ok_iff {owner : TypeId} {field : Field} :
    model.declareField owner field = .ok after ↔
      ∃ declaration, model.get? owner = some declaration ∧
        field.name ∉ declaration.fields.map Field.name ∧
        after = model.update owner (Declaration.addField · field) := by
  unfold declareField
  cases model.get? owner with
  | none => simp
  | some declaration =>
      cases present : declaration.field? field.name with
      | none =>
          have new := (declaration.field?_eq_none_iff field.name).1 present
          simp only [present, Except.ok.injEq, Option.some.injEq, exists_eq_left']
          exact ⟨fun same => ⟨new, same.symm⟩, fun ⟨_, same⟩ => same.symm⟩
      | some other =>
          have used := mt (declaration.field?_eq_none_iff field.name).2 (by simp [present])
          simp only [present, reduceCtorEq, Option.some.injEq, exists_eq_left', used, false_and]

theorem declareMethod_eq_ok_iff {owner : TypeId} {method : Method} :
    model.declareMethod owner method = .ok after ↔
      ∃ declaration, model.get? owner = some declaration ∧
        (∀ other ∈ declaration.methods, other.sameSignature method = false) ∧
        after = model.update owner (Declaration.addMethod · method) := by
  unfold declareMethod
  cases model.get? owner with
  | none => simp
  | some declaration =>
      by_cases repeated : declaration.methods.any (fun other => other.sameSignature method) = true
      · have conflict := List.any_eq_true.1 repeated
        simp only [repeated, if_true, reduceCtorEq, Option.some.injEq, exists_eq_left', false_iff]
        rintro ⟨distinct, -⟩
        obtain ⟨other, member, same⟩ := conflict
        rw [distinct other member] at same
        cases same
      · have distinct : ∀ other ∈ declaration.methods, other.sameSignature method = false := by
          intro other member
          exact Bool.eq_false_iff.2 fun same => repeated (List.any_eq_true.2 ⟨other, member, same⟩)
        simp only [repeated, Bool.false_eq_true, if_false, Except.ok.injEq, Option.some.injEq,
          exists_eq_left']
        exact ⟨fun same => ⟨distinct, same.symm⟩, fun ⟨_, same⟩ => same.symm⟩

end Model

end BuilderSynthesis.Code
