import CardText.Fact.Table

/-!
# What a table holds after any pushes

A `FactTable` is reached from the empty one by pushes of arbitrary facts. One push shows in one list
(`get_category_push`); here is what any number of them leaves behind.

Results:

* `get_category_pushAll`: each list holds what it held, and behind it the facts of its category
  and tier in the order in which they came.
* `size_pushAll`: the table has as many facts more as were pushed.
* `mem_extractedOn_pushAll`: the extracted facts on a tier are the extracted ones of those pushed
  there.
-/

namespace CardText.FactTable

/-- **What any pushes leave in a list.** -/
theorem get_category_pushAll (fs : List (Tier × Fact)) (t : FactTable) (tier : Tier)
    (c : FactCategory) :
    ((t.pushAll fs).category c).get tier =
      (t.category c).get tier ++
        (fs.filter fun e => e.2.category = c ∧ e.1 = tier).map (·.2) := by
  induction fs generalizing t with
  | nil => exact (List.append_nil _).symm
  | cons e fs ih =>
    show (((t.push e.1 e.2).pushAll fs).category c).get tier = _
    rw [ih, get_category_push]
    by_cases h : e.2.category = c ∧ e.1 = tier
    · rw [if_pos h, List.filter_cons_of_pos (by simpa using h), List.map_cons, List.append_assoc]
      rfl
    · rw [if_neg h, List.filter_cons_of_neg (by simpa using h)]

@[simp] theorem get_category_empty (c : FactCategory) (tier : Tier) :
    (empty.category c).get tier = [] := by
  cases c <;> exact PerTier.get_const [] tier

/-- The list of a category and tier after pushes on the empty table. -/
theorem get_category_pushAll_empty (fs : List (Tier × Fact)) (tier : Tier) (c : FactCategory) :
    ((empty.pushAll fs).category c).get tier =
      (fs.filter fun e => e.2.category = c ∧ e.1 = tier).map (·.2) := by
  rw [get_category_pushAll, get_category_empty, List.nil_append]

/-- A tier's facts are read list by list. -/
theorem onTier_eq_append (t : FactTable) (tier : Tier) :
    t.onTier tier =
      t.active.get tier ++ t.passive.get tier ++ t.cooldown.get tier ++ t.price.get tier := by
  simp only [onTier, FactCategory.all, List.flatMap_cons, List.flatMap_nil, List.append_nil,
    List.append_assoc]
  rfl

/-- A push adds one fact. -/
theorem size_push (t : FactTable) (tier : Tier) (f : Fact) :
    (t.push tier f).size = t.size + 1 := by
  unfold size push
  cases f.category <;> cases tier <;>
    simp only [Tier.all, List.flatMap_cons, List.flatMap_nil, onTier_eq_append, PerTier.modify,
      PerTier.get, List.length_append, List.length_cons, List.length_nil] <;>
    omega

/-- **Every fact that was pushed is counted, and once.** -/
theorem size_pushAll (fs : List (Tier × Fact)) (t : FactTable) :
    (t.pushAll fs).size = t.size + fs.length := by
  induction fs generalizing t with
  | nil => rfl
  | cons e fs ih =>
    show ((t.push e.1 e.2).pushAll fs).size = _
    rw [ih, size_push, List.length_cons]
    omega

theorem mem_onTier {t : FactTable} {tier : Tier} {f : Fact} :
    f ∈ t.onTier tier ↔ ∃ c, f ∈ (t.category c).get tier := by
  unfold onTier
  rw [List.mem_flatMap]
  exact ⟨fun ⟨c, _, h⟩ => ⟨c, h⟩, fun ⟨c, h⟩ => ⟨c, FactCategory.mem_all c, h⟩⟩

theorem mem_extractedOn {t : FactTable} {tier : Tier} {f : Fact} :
    f ∈ t.extractedOn tier ↔ (∃ c, f ∈ (t.category c).get tier) ∧ f.extracted = true := by
  unfold extractedOn
  rw [List.mem_filter, mem_onTier]

/-- A list holds the facts of its category that were pushed on its tier. -/
theorem mem_category_pushAll {fs : List (Tier × Fact)} {tier : Tier} {c : FactCategory}
    {f : Fact} :
    f ∈ ((empty.pushAll fs).category c).get tier ↔ (tier, f) ∈ fs ∧ f.category = c := by
  simp only [get_category_pushAll_empty, List.mem_map, List.mem_filter, decide_eq_true_eq]
  constructor
  · rintro ⟨e, ⟨he, hc, rfl⟩, rfl⟩
    exact ⟨he, hc⟩
  · rintro ⟨he, hc⟩
    exact ⟨(tier, f), ⟨he, hc, rfl⟩, rfl⟩

/-- **The extracted facts on a tier are the extracted ones of those pushed there.** -/
theorem mem_extractedOn_pushAll {fs : List (Tier × Fact)} {tier : Tier} {f : Fact} :
    f ∈ (empty.pushAll fs).extractedOn tier ↔ (tier, f) ∈ fs ∧ f.extracted = true := by
  rw [mem_extractedOn]
  refine and_congr_left fun _ => ?_
  simp only [mem_category_pushAll]
  exact ⟨fun ⟨_, h, _⟩ => h, fun h => ⟨f.category, h, rfl⟩⟩

end CardText.FactTable
