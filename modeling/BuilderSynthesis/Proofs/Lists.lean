import Mathlib.Data.List.Forall2
import Mathlib.Data.List.Nodup
import Mathlib.Data.List.TakeWhile

/-!
Contract: lists whose items differ in a key, and lists that agree item by item.

Does not own: entries of keys and values, which `Keyed` is about.
-/

namespace BuilderSynthesis.Lists

/-- Keys of items that differ from each other and from those seen before, one item at a time. -/
theorem distinct_cons_iff {key : α → String} {item : α} {rest : List α} {seen : List String} :
    (((item :: rest).map key).Nodup ∧ ∀ other ∈ item :: rest, key other ∉ seen) ↔
      key item ∉ seen ∧ (rest.map key).Nodup ∧ ∀ other ∈ rest, key other ∉ key item :: seen := by
  rw [List.map_cons, List.nodup_cons, List.forall_mem_cons]
  simp only [List.mem_cons, not_or]
  constructor
  · rintro ⟨⟨once, distinct⟩, new, apart⟩
    refine ⟨new, distinct, fun other member => ⟨fun same => ?_, apart other member⟩⟩
    exact once (List.mem_map.2 ⟨other, member, same⟩)
  · rintro ⟨new, distinct, apart⟩
    refine ⟨⟨fun again => ?_, distinct⟩, new, fun other member => (apart other member).2⟩
    obtain ⟨other, member, same⟩ := List.mem_map.1 again
    exact (apart other member).1 same

theorem find?_key_isSome_iff {key : α → String} {seen : List α} {wanted : String} :
    (seen.find? (fun previous => key previous == wanted)).isSome ↔ wanted ∈ seen.map key := by
  simp [List.find?_isSome]

/-- Where keys are distinct, an item is found by its key. -/
theorem find?_key_of_nodup {key : α → String} {items : List α} (distinct : (items.map key).Nodup)
    {item : α} (member : item ∈ items) :
    items.find? (fun other => key other == key item) = some item := by
  obtain ⟨other, found⟩ := Option.isSome_iff_exists.1
    (find?_key_isSome_iff.2 (List.mem_map.2 ⟨item, member, rfl⟩))
  have same := List.find?_some found
  rw [beq_iff_eq] at same
  rw [found, List.inj_on_of_nodup_map distinct (List.mem_of_find?_eq_some found) member same]

theorem find?_eq_of_unique {items : List α} {test : α → Bool} {item : α} (member : item ∈ items)
    (holds : test item = true) (only : ∀ other ∈ items, test other = true → other = item) :
    items.find? test = some item := by
  cases found : items.find? test with
  | none => exact absurd holds (List.find?_eq_none.1 found item member)
  | some other =>
      rw [only other (List.mem_of_find?_eq_some found) (List.find?_some found)]

/-- The first item that gives something decides what is given. -/
theorem findSome?_eq_of_find? {items : List α} {give : α → Option β} {item : α} {result : β}
    (first : items.find? (fun other => (give other).isSome) = some item)
    (own : give item = some result) : items.findSome? give = some result := by
  induction items with
  | nil => cases first
  | cons head rest inductionHypothesis =>
      rw [List.find?_cons] at first
      rw [List.findSome?_cons]
      cases here : give head with
      | none =>
          rw [here] at first
          exact inductionHypothesis first
      | some found =>
          rw [here] at first
          obtain rfl := Option.some.inj first
          rw [own, Option.some.injEq] at here
          rw [here]

/-- What is found is found among the items that pass a weaker test. -/
theorem find?_eq_find?_filter {items : List α} {test weaker : α → Bool}
    (weakens : ∀ item, test item = true → weaker item = true) :
    items.find? test = (items.filter weaker).find? test := by
  rw [List.find?_filter]
  congr 1
  funext item
  cases holds : test item with
  | false => simp
  | true => simp [weakens item holds]

/-- Where keys are distinct, one item has a key. -/
theorem filter_key_of_nodup {key : α → String} {items : List α} (distinct : (items.map key).Nodup)
    {item : α} (member : item ∈ items) :
    items.filter (fun other => key other == key item) = [item] := by
  induction items with
  | nil => cases member
  | cons first rest inductionHypothesis =>
      rw [List.map_cons, List.nodup_cons] at distinct
      rcases List.mem_cons.1 member with rfl | later
      · have none' : rest.filter (fun other => key other == key item) = [] := by
          rw [List.filter_eq_nil_iff]
          intro other found same
          exact distinct.1 (List.mem_map.2 ⟨other, found, beq_iff_eq.1 same⟩)
        rw [List.filter_cons, if_pos BEq.rfl, none']
      · have different : ¬ (key first == key item) = true := by
          intro same
          exact distinct.1 (List.mem_map.2 ⟨item, later, (beq_iff_eq.1 same).symm⟩)
        rw [List.filter_cons, if_neg different, inductionHypothesis distinct.2 later]

/-- A sublist of a list without repetitions keeps what passes a test, if it has just that. -/
theorem eq_filter_of_sublist {kept items : List α} (sub : kept.Sublist items)
    (once : items.Nodup) {test : α → Bool}
    (just : ∀ item ∈ items, item ∈ kept ↔ test item = true) : kept = items.filter test := by
  induction sub with
  | slnil => rfl
  | cons first sub inductionHypothesis =>
      rw [List.nodup_cons] at once
      rw [List.forall_mem_cons] at just
      have fails : ¬ test first = true := fun passes => once.1 (sub.subset (just.1.2 passes))
      rw [List.filter_cons_of_neg fails]
      exact inductionHypothesis once.2 just.2
  | cons_cons first sub inductionHypothesis =>
      rw [List.nodup_cons] at once
      rw [List.forall_mem_cons] at just
      rw [List.filter_cons_of_pos (just.1.1 List.mem_cons_self),
        ← inductionHypothesis once.2 fun item member => ?_]
      have different : item ≠ first := fun same => once.1 (same ▸ member)
      rw [← just.2 item member, List.mem_cons, or_iff_right different]

/-- A list of which only one item gives anything. -/
theorem flatMap_eq_of_unique {items : List α} {item : α} {give : α → List β}
    (member : item ∈ items) (distinct : items.Nodup)
    (others : ∀ other ∈ items, other ≠ item → give other = []) :
    items.flatMap give = give item := by
  induction items with
  | nil => cases member
  | cons first rest inductionHypothesis =>
      rw [List.nodup_cons] at distinct
      rw [List.flatMap_cons]
      rcases List.mem_cons.1 member with rfl | later
      · have none' : rest.flatMap give = [] := by
          rw [List.flatMap_eq_nil_iff]
          intro other found
          apply others other (List.mem_cons_of_mem item found)
          rintro rfl
          exact distinct.1 found
        rw [none', List.append_nil]
      · have different : first ≠ item := by
          rintro rfl
          exact distinct.1 later
        rw [others first List.mem_cons_self different, List.nil_append]
        apply inductionHypothesis later distinct.2
        exact fun other found => others other (List.mem_cons_of_mem first found)

theorem map_eq_of_forall₂ {related : α → β → Prop} {items : List α} {others : List β}
    (all : List.Forall₂ related items others) {key : α → γ} {other : β → γ}
    (same : ∀ item image, related item image → other image = key item) :
    others.map other = items.map key := by
  induction all with
  | nil => rfl
  | cons first _ inductionHypothesis =>
      rw [List.map_cons, List.map_cons, same _ _ first, inductionHypothesis]

/-- The same for the items that are kept, if their images are. -/
theorem map_filter_eq_of_forall₂ {related : α → β → Prop} {items : List α} {others : List β}
    (all : List.Forall₂ related items others) {keep : α → Bool} {keepOther : β → Bool}
    {key : α → γ} {other : β → γ}
    (same : ∀ item image, related item image →
      keepOther image = keep item ∧ other image = key item) :
    (others.filter keepOther).map other = (items.filter keep).map key := by
  induction all with
  | nil => rfl
  | cons first _ inductionHypothesis =>
      rw [List.filter_cons, List.filter_cons, (same _ _ first).1]
      split
      · rw [List.map_cons, List.map_cons, (same _ _ first).2, inductionHypothesis]
      · exact inductionHypothesis

theorem exists_of_forall₂ {related : α → β → Prop} {items : List α} {others : List β}
    (all : List.Forall₂ related items others) {position : Nat} {item : α}
    (found : items[position]? = some item) :
    ∃ image, others[position]? = some image ∧ related item image := by
  induction all generalizing position with
  | nil => cases found
  | cons first _ inductionHypothesis =>
      cases position with
      | zero =>
          cases found
          exact ⟨_, rfl, first⟩
      | succ position => exact inductionHypothesis found

theorem exists_of_mem_forall₂ {related : α → β → Prop} {items : List α} {others : List β}
    (all : List.Forall₂ related items others) {image : β} (member : image ∈ others) :
    ∃ item ∈ items, related item image := by
  induction all with
  | nil => cases member
  | cons first _ inductionHypothesis =>
      rcases List.mem_cons.1 member with rfl | later
      · exact ⟨_, List.mem_cons_self, first⟩
      · obtain ⟨item, known, same⟩ := inductionHypothesis later
        exact ⟨item, List.mem_cons_of_mem _ known, same⟩

/-- Lists that agree for each item agree when they are put together. -/
theorem forall₂_flatMap {related : β → γ → Prop} {items : List α} {left : α → List β}
    {right : α → List γ} (each : ∀ item ∈ items, List.Forall₂ related (left item) (right item)) :
    List.Forall₂ related (items.flatMap left) (items.flatMap right) := by
  induction items with
  | nil => exact .nil
  | cons first rest inductionHypothesis =>
      rw [List.forall_mem_cons] at each
      rw [List.flatMap_cons, List.flatMap_cons]
      exact List.rel_append each.1 (inductionHypothesis each.2)

/-- The items that pass a test are taken up to the first that does not. -/
theorem takeWhile_append_of_stop {test : α → Bool} {body rest : List α}
    (inside : ∀ item ∈ body, test item = true) (stop : ∀ item ∈ rest.head?, test item = false) :
    (body ++ rest).takeWhile test = body := by
  rw [List.takeWhile_append_of_pos inside]
  cases rest with
  | nil => exact List.append_nil body
  | cons first others =>
      rw [List.takeWhile_cons_of_neg (Bool.eq_false_iff.1 (stop first rfl)), List.append_nil]

theorem dropWhile_append_of_stop {test : α → Bool} {body rest : List α}
    (inside : ∀ item ∈ body, test item = true) (stop : ∀ item ∈ rest.head?, test item = false) :
    (body ++ rest).dropWhile test = rest := by
  rw [List.dropWhile_append_of_pos inside]
  cases rest with
  | nil => rfl
  | cons first others =>
      rw [List.dropWhile_cons_of_neg (Bool.eq_false_iff.1 (stop first rfl))]

/-- What holds of the items together with what holds of their images, holds of all or of none. -/
theorem forall_mem_iff_of_forall₂ {related : α → β → Prop} {items : List α} {others : List β}
    (all : List.Forall₂ related items others) {holds : α → Prop} {too : β → Prop}
    (same : ∀ item ∈ items, ∀ image, related item image → (too image ↔ holds item)) :
    (∀ image ∈ others, too image) ↔ ∀ item ∈ items, holds item := by
  induction all with
  | nil => simp
  | cons first _ inductionHypothesis =>
      rw [List.forall_mem_cons] at same
      rw [List.forall_mem_cons, List.forall_mem_cons, same.1 _ first, inductionHypothesis same.2]

/-- Two lists that agree do so before and after the last item of a kind. -/
theorem append_cons_inj_of_not_mem {before other after last : List α} {item : α}
    (afterwards : item ∉ after) (lastly : item ∉ last)
    (same : before ++ item :: after = other ++ item :: last) : before = other ∧ after = last := by
  induction before generalizing other with
  | nil =>
      cases other with
      | nil => exact ⟨rfl, (List.cons.inj same).2⟩
      | cons first rest =>
          have tail := (List.cons.inj same).2
          exact absurd (tail ▸ List.mem_append_right rest List.mem_cons_self) afterwards
  | cons first rest inductionHypothesis =>
      cases other with
      | nil =>
          have tail := (List.cons.inj same).2
          exact absurd (tail ▸ List.mem_append_right rest List.mem_cons_self) lastly
      | cons second others =>
          obtain ⟨rfl, tail⟩ := List.cons.inj same
          obtain ⟨rfl, rfl⟩ := inductionHypothesis tail
          exact ⟨rfl, rfl⟩

/-- The same before and after the first item of a kind. -/
theorem cons_append_inj_of_not_mem {before other after last : List α} {item : α}
    (first : item ∉ before) (second : item ∉ other)
    (same : before ++ item :: after = other ++ item :: last) : before = other ∧ after = last := by
  have mirrored := congrArg List.reverse same
  rw [List.reverse_append, List.reverse_append, List.reverse_cons, List.reverse_cons,
    List.append_assoc, List.append_assoc, List.singleton_append, List.singleton_append] at mirrored
  obtain ⟨right, left⟩ := append_cons_inj_of_not_mem
    (fun member => first (List.mem_reverse.1 member))
    (fun member => second (List.mem_reverse.1 member)) mirrored
  exact ⟨List.reverse_injective left, List.reverse_injective right⟩

theorem getElem?_of_isPrefix {earlier later : List α} (grows : earlier <+: later) {position : Nat}
    {item : α} (found : earlier[position]? = some item) : later[position]? = some item := by
  obtain ⟨rest, rfl⟩ := grows
  rwa [List.getElem?_append_left (List.getElem?_eq_some_iff.1 found).1]

/-- If each item is the image of something, then the list is the image of a list. -/
theorem exists_map_eq {image : β → α} {holds : β → Prop} {items : List α}
    (each : ∀ item ∈ items, ∃ source, image source = item ∧ holds source) :
    ∃ sources : List β, sources.map image = items ∧ ∀ source ∈ sources, holds source := by
  induction items with
  | nil => exact ⟨[], rfl, fun _ member => (nomatch member)⟩
  | cons item rest inductionHypothesis =>
      rw [List.forall_mem_cons] at each
      obtain ⟨source, rfl, own⟩ := each.1
      obtain ⟨sources, rfl, others⟩ := inductionHypothesis each.2
      exact ⟨source :: sources, rfl, List.forall_mem_cons.2 ⟨own, others⟩⟩

theorem exists_mem_flatMap_iff {items : List α} {give : α → List β} {holds : β → Prop} :
    (∃ other ∈ items.flatMap give, holds other) ↔
      ∃ item ∈ items, ∃ other ∈ give item, holds other := by
  constructor
  · rintro ⟨other, member, here⟩
    obtain ⟨item, listed, inside⟩ := List.mem_flatMap.1 member
    exact ⟨item, listed, other, inside, here⟩
  · rintro ⟨item, listed, other, inside, here⟩
    exact ⟨other, List.mem_flatMap.2 ⟨item, listed, inside⟩, here⟩

section

variable {view : List α → List β} (nil : view [] = [])
  (append : ∀ first second, view (first ++ second) = view first ++ view second)

include nil append

/-- What is made of lists one after the other is made of each of them. -/
theorem flatMap_of_append {items : List γ} (give : γ → List α) :
    view (items.flatMap give) = items.flatMap fun item => view (give item) := by
  induction items with
  | nil => exact nil
  | cons item rest inductionHypothesis =>
      rw [List.flatMap_cons, append, inductionHypothesis, List.flatMap_cons]

/-- The same with a list between neighbours. -/
theorem intercalate_of_append (separator : List α) (groups : List (List α)) :
    view (List.intercalate separator groups) =
      List.intercalate (view separator) (groups.map view) := by
  induction groups with
  | nil => exact nil
  | cons first rest inductionHypothesis =>
      cases rest with
      | nil => simp [List.intercalate]
      | cons second others =>
          rw [List.intercalate_cons_cons, append, append, inductionHypothesis, List.map_cons,
            List.map_cons, List.map_cons, List.intercalate_cons_cons]

end

theorem intercalate_nil (groups : List (List α)) : List.intercalate [] groups = groups.flatten := by
  induction groups with
  | nil => rfl
  | cons first rest inductionHypothesis =>
      cases rest with
      | nil => simp [List.intercalate]
      | cons second others =>
          rw [List.intercalate_cons_cons, inductionHypothesis, List.append_nil]
          exact List.flatten_cons.symm

/-- What only items with one key give, once each, is given as often as there are such items. -/
theorem count_flatMap_eq_count_map [BEq β] [LawfulBEq β] [DecidableEq γ] {items : List α}
    {key : α → γ} {give : α → List β} {wanted : β} {owner : γ}
    (once : ∀ item ∈ items, key item = owner → (give item).count wanted = 1)
    (only : ∀ item ∈ items, key item ≠ owner → wanted ∉ give item) :
    (items.flatMap give).count wanted = (items.map key).count owner := by
  induction items with
  | nil => rfl
  | cons first rest inductionHypothesis =>
      rw [List.forall_mem_cons] at once only
      rw [List.flatMap_cons, List.count_append, List.map_cons, List.count_cons,
        inductionHypothesis once.2 only.2, Nat.add_comm]
      by_cases same : key first = owner
      · rw [once.1 same, if_pos (beq_iff_eq.2 same)]
      · have differs : ¬ (key first == owner) = true := fun equal => same (beq_iff_eq.1 equal)
        rw [List.count_eq_zero_of_not_mem (only.1 same), if_neg differs]

end BuilderSynthesis.Lists
