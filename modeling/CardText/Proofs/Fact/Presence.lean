import CardText.Proofs.Fact.ByCategory
import CardText.Proofs.Fact.Table

/-!
# The presence queries answer for the extracted facts

Each query of `FactIndex` about a table is a statement about the extracted facts on its tiers, and
after pushes about the facts that were pushed.

Results:

* `presentOn_iff`, `contains_iff`, `tierPresent_iff`: what the Boolean queries say.
* `presentOn_pushAll_iff`, `contains_pushAll_iff`: the same after any pushes (`StatedOn`, `Stated`).
* `extractedOn_pushAll`: the extracted facts on a tier are those pushed there, sorted by category.
* `first?_eq_some_iff`: the first fact of a kind is that of the lowest tier that has one.
* `soleActiveType_eq_some_iff`: what the only kind of a card with a single effect is.
* **`soleActiveType_pushAll_eq_some_iff`**: the same by the pushed facts (`SingleEffect`).
-/

namespace CardText

/-- Some fact pushed on a tier is extracted and of a kind. -/
def StatedOn (fs : List (Tier × Fact)) (tier : Tier) (type : FactType) : Prop :=
  ∃ e ∈ fs, e.1 = tier ∧ e.2.extracted = true ∧ e.2.type = type

/-- Some pushed fact is extracted and of a kind. -/
def Stated (fs : List (Tier × Fact)) (type : FactType) : Prop :=
  ∃ e ∈ fs, e.2.extracted = true ∧ e.2.type = type

instance (fs : List (Tier × Fact)) (type : FactType) : Decidable (Stated fs type) :=
  inferInstanceAs (Decidable (∃ e ∈ fs, e.2.extracted = true ∧ e.2.type = type))

/-- The extracted ones of the facts pushed on a tier, in the order in which they came. -/
def extractedAmong (fs : List (Tier × Fact)) (tier : Tier) : List Fact :=
  (fs.filter fun e => e.1 = tier ∧ e.2.extracted = true).map (·.2)

theorem mem_extractedAmong {fs : List (Tier × Fact)} {tier : Tier} {f : Fact} :
    f ∈ extractedAmong fs tier ↔ (tier, f) ∈ fs ∧ f.extracted = true := by
  simp only [extractedAmong, List.mem_map, List.mem_filter, decide_eq_true_eq]
  constructor
  · rintro ⟨e, ⟨he, rfl, hx⟩, rfl⟩
    exact ⟨he, hx⟩
  · rintro ⟨he, hx⟩
    exact ⟨(tier, f), ⟨he, rfl, hx⟩, rfl⟩

/-- The pushed facts are a single effect of a kind: some fact is extracted, all that are extracted
are active and of that kind, and no tier has two of them. -/
structure SingleEffect (fs : List (Tier × Fact)) (type : FactType) : Prop where
  stated : ∃ e ∈ fs, e.2.extracted = true
  active : ∀ e ∈ fs, e.2.extracted = true → e.2.category = .active ∧ e.2.type = type
  once : ∀ tier, (extractedAmong fs tier).length ≤ 1

namespace FactTable

variable {t : FactTable}

/-! ## One tier -/

theorem presentOn_iff {type : FactType} {tier : Tier} :
    t.presentOn type tier = true ↔ ∃ f ∈ t.extractedOn tier, f.type = type := by
  unfold presentOn firstOn
  rw [List.find?_isSome]
  simp only [decide_eq_true_eq]

/-- The first and the last extracted fact of a kind exist on the same tiers. -/
theorem lastOn_isSome (type : FactType) (tier : Tier) :
    (t.lastOn type tier).isSome = t.presentOn type tier := by
  rw [Bool.eq_iff_iff, presentOn_iff]
  unfold lastOn
  rw [List.getLast?_isSome, ← List.isEmpty_eq_false_iff, List.isEmpty_eq_false_iff_exists_mem]
  simp only [List.mem_filter, decide_eq_true_eq]

theorem tierPresent_iff {tier : Tier} :
    t.tierPresent tier = true ↔ ∃ type, t.presentOn type tier = true := by
  unfold tierPresent
  rw [Bool.not_eq_true', List.isEmpty_eq_false_iff_exists_mem]
  simp only [presentOn_iff]
  exact ⟨fun ⟨f, hf⟩ => ⟨f.type, f, hf, rfl⟩, fun ⟨_, f, hf, _⟩ => ⟨f, hf⟩⟩

theorem presentOn_pushAll_iff {fs : List (Tier × Fact)} {type : FactType} {tier : Tier} :
    (empty.pushAll fs).presentOn type tier = true ↔ StatedOn fs tier type := by
  rw [presentOn_iff]
  simp only [mem_extractedOn_pushAll]
  constructor
  · rintro ⟨f, ⟨hf, hx⟩, ht⟩
    exact ⟨(tier, f), hf, rfl, hx, ht⟩
  · rintro ⟨e, he, rfl, hx, ht⟩
    exact ⟨e.2, ⟨he, hx⟩, ht⟩

/-! ## All tiers -/

theorem contains_iff {type : FactType} :
    t.contains type = true ↔ ∃ tier, t.presentOn type tier = true := by
  unfold contains
  rw [List.any_eq_true]
  exact ⟨fun ⟨tier, _, h⟩ => ⟨tier, h⟩, fun ⟨tier, h⟩ => ⟨tier, Tier.mem_all tier, h⟩⟩

theorem contains_pushAll_iff {fs : List (Tier × Fact)} {type : FactType} :
    (empty.pushAll fs).contains type = true ↔ Stated fs type := by
  rw [contains_iff]
  simp only [presentOn_pushAll_iff]
  exact ⟨fun ⟨_, e, he, _, h⟩ => ⟨e, he, h⟩, fun ⟨e, he, h⟩ => ⟨e.1, e, he, rfl, h⟩⟩

theorem presentOn_eq_false_iff {type : FactType} {tier : Tier} :
    t.presentOn type tier = false ↔ t.firstOn type tier = none := by
  unfold presentOn
  rw [Option.isSome_eq_false_iff, Option.isNone_iff_eq_none]

theorem presentOn_eq_false_iff_lastOn {type : FactType} {tier : Tier} :
    t.presentOn type tier = false ↔ t.lastOn type tier = none := by
  rw [← lastOn_isSome, Option.isSome_eq_false_iff, Option.isNone_iff_eq_none]

/-- **The first fact of a kind** is the first one on the lowest tier that has one. -/
theorem first?_eq_some_iff {type : FactType} {f : Fact} :
    t.first? type = some f ↔
      ∃ tier, t.firstOn type tier = some f ∧
        ∀ lower : Tier, Ranked.rank lower < Ranked.rank tier → t.presentOn type lower = false := by
  unfold first?
  rw [List.findSome?_eq_some_iff]
  constructor
  · rintro ⟨below, tier, above, hall, hf, hnone⟩
    refine ⟨tier, hf, fun lower hlt => presentOn_eq_false_iff.mpr ?_⟩
    have hs := Tier.sorted_all
    rw [hall, List.pairwise_append, List.pairwise_cons] at hs
    have hm := Tier.mem_all lower
    rw [hall, List.mem_append, List.mem_cons] at hm
    rcases hm with hm | rfl | hm
    · exact hnone lower hm
    · exact absurd hlt (Nat.lt_irrefl _)
    · exact absurd (hs.2.1.1 lower hm) (Nat.lt_asymm hlt)
  · rintro ⟨tier, hf, hlower⟩
    obtain ⟨below, above, hall⟩ := List.append_of_mem (Tier.mem_all tier)
    have hs := Tier.sorted_all
    rw [hall, List.pairwise_append] at hs
    exact ⟨below, tier, above, hall, hf, fun lower hm =>
      presentOn_eq_false_iff.mp (hlower lower (hs.2.2 lower hm tier List.mem_cons_self))⟩

theorem first?_isSome (type : FactType) : (t.first? type).isSome = t.contains type :=
  List.isSome_findSome?

/-! ## A single effect -/

/-- The extracted facts on a tier, category by category. -/
theorem extractedOn_eq_flatMap (t : FactTable) (tier : Tier) :
    t.extractedOn tier =
      FactCategory.all.flatMap fun c => ((t.category c).get tier).filter (·.extracted) :=
  List.filter_flatMap

theorem length_extractedOn (t : FactTable) (tier : Tier) :
    (t.extractedOn tier).length =
      ((t.active.get tier).filter (·.extracted)).length +
        (((t.passive.get tier).filter (·.extracted)).length +
          (((t.cooldown.get tier).filter (·.extracted)).length +
            ((t.price.get tier).filter (·.extracted)).length)) := by
  rw [extractedOn_eq_flatMap]
  simp only [FactCategory.all, List.flatMap_cons, List.flatMap_nil, List.append_nil,
    List.length_append]
  rfl

theorem filter_category_pushAll (fs : List (Tier × Fact)) (tier : Tier) (c : FactCategory) :
    (((empty.pushAll fs).category c).get tier).filter (·.extracted) =
      (extractedAmong fs tier).filter (·.category = c) := by
  rw [get_category_pushAll_empty, extractedAmong, List.filter_map, List.filter_map,
    List.filter_filter, List.filter_filter]
  refine congrArg _ (List.filter_congr fun e _ => ?_)
  rw [Bool.eq_iff_iff]
  simp only [Function.comp, Bool.and_eq_true, decide_eq_true_eq]
  exact ⟨fun ⟨hx, hc, ht⟩ => ⟨hc, ht, hx⟩, fun ⟨hc, ht, hx⟩ => ⟨hx, hc, ht⟩⟩

/-- **The extracted facts on a tier after any pushes**: those pushed there, sorted by category. -/
theorem extractedOn_pushAll (fs : List (Tier × Fact)) (tier : Tier) :
    (empty.pushAll fs).extractedOn tier =
      (extractedAmong fs tier).insertionSort Fact.NotBehind := by
  rw [extractedOn_eq_flatMap, ← Fact.flatMap_filter_eq_insertionSort]
  simp only [filter_category_pushAll]

theorem length_extractedOn_pushAll (fs : List (Tier × Fact)) (tier : Tier) :
    ((empty.pushAll fs).extractedOn tier).length = (extractedAmong fs tier).length := by
  rw [extractedOn_pushAll, List.length_insertionSort]

theorem categoryCount_eq_zero_iff {c : FactCategory} :
    t.categoryCount c = 0 ↔ ∀ tier, ((t.category c).get tier).filter (·.extracted) = [] := by
  unfold categoryCount
  rw [List.length_eq_zero_iff, List.flatMap_eq_nil_iff]
  exact ⟨fun h tier => h tier (Tier.mem_all tier), fun h tier _ => h tier⟩

theorem onlyType?_eq_some_iff : ∀ {types : List FactType} {type : FactType},
    onlyType? types = some type ↔ types ≠ [] ∧ ∀ x ∈ types, x = type
  | [], type => by simp [onlyType?]
  | x :: xs, type => by
    simp only [onlyType?, List.all_eq_true, decide_eq_true_eq, Option.ite_none_right_eq_some,
      Option.some.injEq, ne_eq, reduceCtorEq, not_false_eq_true, true_and, List.forall_mem_cons]
    constructor
    · rintro ⟨h, rfl⟩
      exact ⟨rfl, h⟩
    · rintro ⟨rfl, h⟩
      exact ⟨h, rfl⟩

/-- What the three tests behind the only kind of a card say. -/
theorem soleActiveType_eq_some_iff_activeTypes {type : FactType} :
    t.soleActiveType = some type ↔
      (∀ c, c ≠ .active → t.categoryCount c = 0) ∧ (∀ tier, (t.activeTypes tier).length ≤ 1) ∧
        onlyType? (Tier.all.flatMap t.activeTypes) = some type := by
  have hcounts : (∀ c, c ≠ .active → t.categoryCount c = 0) ↔
      ¬(0 < t.categoryCount .passive ∨ 0 < t.categoryCount .cooldown ∨
        0 < t.categoryCount .price) := by
    constructor
    · intro h
      rw [h .passive (by decide), h .cooldown (by decide), h .price (by decide)]
      omega
    · intro h c hc
      cases c with
      | active => exact absurd rfl hc
      | passive => omega
      | cooldown => omega
      | price => omega
  have hlengths : (∀ tier, (t.activeTypes tier).length ≤ 1) ↔
      ¬(Tier.all.any fun tier => 1 < (t.activeTypes tier).length) = true := by
    rw [List.any_eq_true]
    simp only [decide_eq_true_eq, not_exists, not_and, Nat.not_lt]
    exact ⟨fun h tier _ => h tier, fun h tier => h tier (Tier.mem_all tier)⟩
  rw [hcounts, hlengths]
  unfold soleActiveType
  split
  · rename_i h
    exact ⟨fun h' => absurd h' (by simp), fun h' => absurd h h'.1⟩
  · rename_i h1
    split
    · rename_i h
      exact ⟨fun h' => absurd h' (by simp), fun h' => absurd h h'.2.1⟩
    · rename_i h2
      exact ⟨fun h => ⟨h1, h2, h⟩, fun h => h.2.2⟩

/-- Where only active facts are extracted, they are all there is. -/
theorem extractedOn_of_only_active {tier : Tier}
    (h : ∀ c, c ≠ .active → ((t.category c).get tier).filter (·.extracted) = []) :
    t.extractedOn tier = (t.active.get tier).filter (·.extracted) := by
  rw [extractedOn_eq_flatMap]
  simp only [FactCategory.all, List.flatMap_cons, List.flatMap_nil]
  rw [h .passive (by decide), h .cooldown (by decide), h .price (by decide)]
  simp only [List.append_nil]
  rfl

theorem activeTypes_of_only_active {tier : Tier}
    (h : ∀ c, c ≠ .active → ((t.category c).get tier).filter (·.extracted) = []) :
    t.activeTypes tier = (t.extractedOn tier).map (·.type) := by
  rw [extractedOn_of_only_active h]
  rfl

/-- A tier with one extracted fact, an active one, has none outside the active list: that one
would be a second. -/
theorem only_active_of_length_le_one {tier : Tier} (hlen : (t.extractedOn tier).length ≤ 1)
    (hact : ∀ f ∈ t.extractedOn tier, f ∈ t.active.get tier) {c : FactCategory}
    (hc : c ≠ .active) : ((t.category c).get tier).filter (·.extracted) = [] := by
  refine List.eq_nil_iff_forall_not_mem.mpr fun f hf => ?_
  obtain ⟨hfc, hx⟩ := List.mem_filter.mp hf
  have hfa := hact f (mem_extractedOn.mpr ⟨⟨c, hfc⟩, hx⟩)
  have h1 : 0 < (((t.category c).get tier).filter (·.extracted)).length :=
    List.length_pos_of_mem hf
  have h2 : 0 < ((t.active.get tier).filter (·.extracted)).length :=
    List.length_pos_of_mem (List.mem_filter.mpr ⟨hfa, hx⟩)
  rw [length_extractedOn] at hlen
  cases c with
  | active => exact hc rfl
  | passive | cooldown | price =>
    simp only [category] at h1
    omega

/-- **The only kind of a card with a single effect**: some tier has an extracted fact, no tier has
two, and all of them are active and of that kind. -/
theorem soleActiveType_eq_some_iff {type : FactType} :
    t.soleActiveType = some type ↔
      (∃ tier, ∃ f, f ∈ t.extractedOn tier) ∧
        ∀ tier, (t.extractedOn tier).length ≤ 1 ∧
          ∀ f ∈ t.extractedOn tier, f ∈ t.active.get tier ∧ f.type = type := by
  rw [soleActiveType_eq_some_iff_activeTypes, onlyType?_eq_some_iff]
  constructor
  · rintro ⟨hzero, hlen, hne, hall⟩
    have hnil : ∀ tier c, c ≠ .active → ((t.category c).get tier).filter (·.extracted) = [] :=
      fun tier c hc => categoryCount_eq_zero_iff.mp (hzero c hc) tier
    refine ⟨?_, fun tier => ⟨?_, fun f hf => ⟨?_, ?_⟩⟩⟩
    · obtain ⟨x, hx⟩ := List.exists_mem_of_ne_nil _ hne
      obtain ⟨tier, -, hx⟩ := List.mem_flatMap.mp hx
      rw [activeTypes_of_only_active (hnil tier)] at hx
      obtain ⟨f, hf, -⟩ := List.mem_map.mp hx
      exact ⟨tier, f, hf⟩
    · have := hlen tier
      rwa [activeTypes_of_only_active (hnil tier), List.length_map] at this
    · rw [extractedOn_of_only_active (hnil tier)] at hf
      exact (List.mem_filter.mp hf).1
    · refine hall _ (List.mem_flatMap.mpr ⟨tier, Tier.mem_all tier, ?_⟩)
      rw [activeTypes_of_only_active (hnil tier)]
      exact List.mem_map.mpr ⟨f, hf, rfl⟩
  · rintro ⟨⟨tier₀, f₀, hf₀⟩, hall⟩
    have hnil : ∀ tier c, c ≠ .active → ((t.category c).get tier).filter (·.extracted) = [] :=
      fun tier c hc => only_active_of_length_le_one (hall tier).1
        (fun f hf => ((hall tier).2 f hf).1) hc
    refine ⟨fun c hc => categoryCount_eq_zero_iff.mpr fun tier => hnil tier c hc,
      fun tier => ?_, ?_, fun x hx => ?_⟩
    · rw [activeTypes_of_only_active (hnil tier), List.length_map]
      exact (hall tier).1
    · refine List.ne_nil_of_mem (a := f₀.type)
        (List.mem_flatMap.mpr ⟨tier₀, Tier.mem_all tier₀, ?_⟩)
      rw [activeTypes_of_only_active (hnil tier₀)]
      exact List.mem_map.mpr ⟨f₀, hf₀, rfl⟩
    · obtain ⟨tier, -, hx⟩ := List.mem_flatMap.mp hx
      rw [activeTypes_of_only_active (hnil tier)] at hx
      obtain ⟨f, hf, rfl⟩ := List.mem_map.mp hx
      exact ((hall tier).2 f hf).2

/-- **The only kind of a card with a single effect, by the facts that were pushed.** -/
theorem soleActiveType_pushAll_eq_some_iff {fs : List (Tier × Fact)} {type : FactType} :
    (empty.pushAll fs).soleActiveType = some type ↔ SingleEffect fs type := by
  have hmem : ∀ tier f, f ∈ (empty.pushAll fs).active.get tier ↔
      (tier, f) ∈ fs ∧ f.category = .active := fun _ _ => mem_category_pushAll (c := .active)
  rw [soleActiveType_eq_some_iff]
  simp only [mem_extractedOn_pushAll, hmem, length_extractedOn_pushAll]
  constructor
  · rintro ⟨⟨tier, f, hf, hx⟩, hall⟩
    refine ⟨⟨(tier, f), hf, hx⟩, fun e he hx => ?_, fun tier => (hall tier).1⟩
    obtain ⟨⟨-, hc⟩, ht⟩ := (hall e.1).2 e.2 ⟨he, hx⟩
    exact ⟨hc, ht⟩
  · rintro ⟨⟨e, he, hx⟩, hactive, honce⟩
    refine ⟨⟨e.1, e.2, he, hx⟩, fun tier => ⟨honce tier, fun f ⟨hf, hx⟩ => ?_⟩⟩
    obtain ⟨hc, ht⟩ := hactive (tier, f) hf hx
    exact ⟨⟨hf, hc⟩, ht⟩

end FactTable

end CardText
