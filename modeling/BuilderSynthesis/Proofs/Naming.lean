import BuilderSynthesis.Code.Model
import BuilderSynthesis.Proofs.Walk
import Mathlib.Data.List.Nodup
import Mathlib.Data.Prod.Basic

/-!
Contract: how declared types are found by their qualified names.

The index of a model lists the names of its types, the latest first. Where names are
distinct, `lookup_eq_some_iff` makes looking up a name and having it the same.

Owns: what the operations on a model do to names, and the list of types with their positions.
-/

namespace BuilderSynthesis.Code.Model

def names (model : Model) : List String :=
  model.types.map Declaration.qualifiedName

/-- The index lists every name with its position, the latest first. -/
def Indexed (model : Model) : Prop :=
  model.index = model.names.zipIdx.reverse

theorem indexed_empty : Indexed {} := rfl

theorem get?_eq_some_lt {model : Model} {id : Nat} {declaration : Declaration}
    (found : model.get? id = some declaration) : id < model.size :=
  (List.getElem?_eq_some_iff.1 found).1

theorem exists_get? {model : Model} {id : Nat} (known : id < model.size) :
    ∃ declaration, model.get? id = some declaration :=
  ⟨_, List.getElem?_eq_getElem known⟩

theorem mem_entries_iff (model : Model) (id : TypeId) (declaration : Declaration) :
    (id, declaration) ∈ model.entries ↔ model.get? id = some declaration :=
  calc
    (id, declaration) ∈ model.entries
      ↔ Prod.swap (declaration, id) ∈ model.types.zipIdx.map Prod.swap := .rfl
    _ ↔ (declaration, id) ∈ model.types.zipIdx := List.mem_map_of_injective Prod.swap_injective
    _ ↔ model.get? id = some declaration := List.mem_zipIdx_iff_getElem?

theorem nodup_fst_entries (model : Model) : (model.entries.map Prod.fst).Nodup := by
  unfold entries
  rw [List.map_map]
  show (model.types.zipIdx.map Prod.snd).Nodup
  rw [List.zipIdx_map_snd]
  exact List.nodup_range'

theorem mem_topLevel_iff (model : Model) {entry : TypeId × Declaration} :
    entry ∈ model.topLevel ↔ model.get? entry.1 = some entry.2 ∧ entry.2.outer = none := by
  unfold topLevel Declaration.isTopLevel
  rw [List.mem_filter, ← model.mem_entries_iff, Option.isNone_iff_eq_none]

theorem nodup_fst_topLevel (model : Model) : (model.topLevel.map Prod.fst).Nodup :=
  model.nodup_fst_entries.sublist (List.filter_sublist.map Prod.fst)

theorem names_insert (model : Model) (declaration : Declaration) :
    (model.insert declaration).names = model.names ++ [declaration.qualifiedName] := by
  simp [names, insert]

theorem indexed_insert {model : Model} (indexed : model.Indexed) (declaration : Declaration) :
    (model.insert declaration).Indexed := by
  unfold Indexed
  rw [names_insert, List.zipIdx_append, List.reverse_append, ← indexed]
  simp [insert, names, size]

/-- A change that keeps the name of the changed type keeps all names. -/
theorem names_update (model : Model) (id : TypeId) {change : Declaration → Declaration}
    (keeps : ∀ declaration, (change declaration).qualifiedName = declaration.qualifiedName) :
    (model.update id change).names = model.names := by
  apply List.ext_getElem?
  intro position
  simp only [names, update, List.getElem?_map, List.getElem?_modify]
  split <;> cases model.types[position]? <;> simp [keeps]

theorem indexed_update {model : Model} (indexed : model.Indexed) (id : TypeId)
    {change : Declaration → Declaration}
    (keeps : ∀ declaration, (change declaration).qualifiedName = declaration.qualifiedName) :
    (model.update id change).Indexed := by
  unfold Indexed
  rw [names_update model id keeps, ← indexed]
  rfl

theorem length_names (model : Model) : model.names.length = model.size :=
  List.length_map _

theorem qualifiedName_eq (model : Model) (id : TypeId) :
    model.qualifiedName id = model.names[id]?.getD "" := by
  unfold qualifiedName names get?
  rw [List.getElem?_map]
  cases model.types[id]? <;> rfl

theorem update_self (model : Model) (position : TypeId) :
    model.update position (fun declaration => declaration) = model :=
  congrArg (fun types => (⟨types, model.index⟩ : Model)) (List.modify_id position model.types)

/-- A change of the latest type is one of what was added. -/
theorem update_insert_size (model : Model) (declaration : Declaration)
    {change : Declaration → Declaration}
    (keeps : (change declaration).qualifiedName = declaration.qualifiedName) :
    (model.insert declaration).update model.size change = model.insert (change declaration) := by
  have last : ∀ types : List Declaration,
      (types ++ [declaration]).modify types.length change = types ++ [change declaration] := by
    intro types
    induction types with
    | nil => rfl
    | cons first rest inductionHypothesis => simp [inductionHypothesis]
  simp only [insert, update, size, keeps, last]

section Indexed

variable {model : Model} (indexed : model.Indexed)

include indexed

/-- A name is found exactly if some type has it. -/
theorem lookup_isSome_iff (name : String) : (model.lookup name).isSome ↔ name ∈ model.names := by
  unfold lookup
  rw [Keyed.value?_isSome_iff, indexed, List.map_reverse, List.mem_reverse, List.zipIdx_map_fst]

theorem lookup_eq_none_iff (name : String) : model.lookup name = none ↔ name ∉ model.names := by
  rw [← lookup_isSome_iff indexed, Option.not_isSome_iff_eq_none]

/-- A type that is found has the name. -/
theorem get?_of_lookup {name : String} {id : TypeId} (found : model.lookup name = some id) :
    ∃ declaration, model.get? id = some declaration ∧ declaration.qualifiedName = name := by
  have member := Keyed.mem_of_value? found
  rw [indexed, List.mem_reverse, List.mem_zipIdx_iff_getElem?, names, List.getElem?_map,
    Option.map_eq_some_iff] at member
  exact member

/-- Where names are distinct, a type is found by its name. -/
theorem lookup_of_get? (distinct : model.names.Nodup) {id : TypeId} {declaration : Declaration}
    (found : model.get? id = some declaration) :
    model.lookup declaration.qualifiedName = some id := by
  refine Keyed.value?_of_mem ?_ ?_
  · rw [indexed, List.map_reverse, List.nodup_reverse, List.zipIdx_map_fst]
    exact distinct
  · rw [indexed, List.mem_reverse, List.mem_zipIdx_iff_getElem?, names, List.getElem?_map]
    exact Option.map_eq_some_iff.2 ⟨declaration, found, rfl⟩

end Indexed

/-- Finding a type depends on the names only. -/
theorem lookup_congr {model other : Model} (indexed : model.Indexed) (too : other.Indexed)
    (same : model.names = other.names) (name : String) : model.lookup name = other.lookup name := by
  unfold lookup
  rw [indexed, too, same]

theorem chain_eq_visited (model : Model) (steps : Nat) (start : Option TypeId) :
    model.chain steps start = Walk.visited model.superclass? steps start := by
  induction steps generalizing start with
  | zero => rfl
  | succ steps inductionHypothesis =>
      cases start with
      | none => rfl
      | some id => rw [chain, Walk.visited, inductionHypothesis]

theorem eq_or_reaches_of_isSubtype {model : Model} {sub sup : TypeId}
    (below : model.isSubtype sub sup = true) :
    sup = sub ∨ Relation.TransGen (Walk.Leads model.superclass?) sub sup := by
  unfold isSubtype supertypes at below
  rw [List.contains_iff_mem, chain_eq_visited] at below
  exact Walk.eq_or_reaches_of_mem_visited below

end BuilderSynthesis.Code.Model
