import BuilderSynthesis.Proofs.Mentions
import BuilderSynthesis.Proofs.Roles

/-!
Contract: from which classes the members of the types of a run come.

A field is that of a class or that of a builder for a property of a class. A method is one of a
builder, for a class and some others above it, or the one by which a product makes a builder.

Owns: `Completes.field_cases` and `Completes.method_cases`.

Does not own: on which type a member is.
-/

namespace BuilderSynthesis.Run

open BuilderSynthesis.Builder (Request Workshop allRequests builderFields builderMethods
  productMethods)
open BuilderSynthesis.Code (Declaration TypeRef)
open BuilderSynthesis.Schema (DataClass Hierarchy)

section

variable {hierarchy : Hierarchy} {config : Config} {workshop : Workshop}
  (completes : Completes hierarchy config workshop) {id : Code.TypeId} {declaration : Declaration}
  (found : workshop.model.get? id = some declaration)

include completes found

/-- A field is declared for a class or for the builder of one. -/
theorem Completes.field_cases {field : Code.Field} (member : field ∈ declaration.fields) :
    (∃ dataClass ∈ hierarchy.classes, ∃ source ∈ dataClass.fields, field = declaredField source) ∨
      ∃ dataClass ∈ hierarchy.classes, field ∈ builderFields config.policy dataClass := by
  obtain ⟨model, reports, registered, added, declaring, -, registers, ready, generating⟩ :=
    completes.registered
  have sources := (allFromClasses_of_declareHierarchy declaring).registers registers
  rw [(Builder.generate_eq_iff.1 generating).2, Builder.get?_foldl_effect] at found
  obtain ⟨earlier, there, rfl⟩ := Option.map_eq_some_iff.1 found
  rcases List.mem_append.1 member with before | asked
  · exact .inl ((sources id earlier there).fields field before)
  · rw [Builder.filterMap_allRequests] at asked
    obtain ⟨entry, listed, here⟩ := List.mem_flatMap.1 asked
    obtain ⟨dataClass, present, -, same⟩ := ready.requestsOf_eq config.policy listed
    rw [same, Builder.fieldsOn_requests] at here
    split at here
    · exact .inr ⟨dataClass, List.mem_of_getElem? present, here⟩
    · cases here

/-- A method is one of the builder of a class, or the one by which a class makes its builder. -/
theorem Completes.method_cases {method : Code.Method} (member : method ∈ declaration.methods) :
    ∃ dataClass ∈ hierarchy.classes, ∃ product builder,
      (∃ ancestors ⊆ hierarchy.classes,
        method ∈ builderMethods config.policy (.named product) (.named builder) dataClass
          ancestors) ∨
      method ∈ productMethods dataClass (.named builder) := by
  obtain ⟨model, reports, registered, added, -, -, -, ready, generating⟩ := completes.registered
  rw [(Builder.generate_eq_iff.1 generating).2, Builder.get?_foldl_effect] at found
  obtain ⟨earlier, there, rfl⟩ := Option.map_eq_some_iff.1 found
  rcases List.mem_append.1 member with before | asked
  · rw [(ready.blank id earlier there).1] at before
    cases before
  · rw [Builder.filterMap_allRequests] at asked
    obtain ⟨entry, listed, here⟩ := List.mem_flatMap.1 asked
    obtain ⟨dataClass, present, -, same⟩ := ready.requestsOf_eq config.policy listed
    rw [same, Builder.methodsOn_requests, List.mem_append] at here
    refine ⟨dataClass, List.mem_of_getElem? present,
      registered.model.qualifiedName entry.2.product,
      registered.model.qualifiedName entry.2.builder, ?_⟩
    rcases here with ofBuilder | ofProduct
    · split at ofBuilder
      · refine .inl ⟨_, ?_, ofBuilder⟩
        intro ancestor above
        obtain ⟨position, -, known⟩ := List.mem_filterMap.1 above
        exact List.mem_of_getElem? known
      · cases ofBuilder
    · split at ofProduct
      · exact .inr ofProduct
      · cases ofProduct

end

end BuilderSynthesis.Run
