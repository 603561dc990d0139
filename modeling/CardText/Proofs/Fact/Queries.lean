import CardText.Proofs.Fact.Presence

/-!
# The presence queries agree with each other

The queries of `FactIndex` go through a table by different ways: tier by tier through all
categories, category by category through all tiers, from the front and from the end. Whatever was
pushed, also facts whose category does not fit their kind, they speak of the same facts: those that
were pushed and are extracted, sorted by category, and within a category as they came.

Results:

* `filter_extractedOn_pushAll`: the extracted facts of a kind on a tier after any pushes.
* `categoryCount_push`, `categoryCount_pushAll`: what the count of a category counts.
* **`queries_agree`**: what the queries say of each other and of the pushed facts.
-/

namespace CardText

/-- The extracted facts of a kind pushed on a tier, sorted by category: active, passive, cooldown,
price. Those of one category stay in the order in which they came. -/
def statedFacts (fs : List (Tier × Fact)) (tier : Tier) (type : FactType) : List Fact :=
  ((extractedAmong fs tier).filter (·.type = type)).insertionSort Fact.NotBehind

namespace FactTable

/-- The extracted facts of a kind on a tier after any pushes. -/
theorem filter_extractedOn_pushAll (fs : List (Tier × Fact)) (tier : Tier) (type : FactType) :
    ((empty.pushAll fs).extractedOn tier).filter (·.type = type) = statedFacts fs tier type := by
  rw [extractedOn_pushAll, statedFacts, ← Fact.flatMap_filter_eq_insertionSort,
    ← Fact.flatMap_filter_eq_insertionSort, List.filter_flatMap]
  exact List.flatMap_congr fun c _ => List.filter_comm _ _ _

theorem firstOn_pushAll (fs : List (Tier × Fact)) (type : FactType) (tier : Tier) :
    (empty.pushAll fs).firstOn type tier = (statedFacts fs tier type).head? := by
  rw [firstOn, ← List.head?_filter, filter_extractedOn_pushAll]

theorem lastOn_pushAll (fs : List (Tier × Fact)) (type : FactType) (tier : Tier) :
    (empty.pushAll fs).lastOn type tier = (statedFacts fs tier type).getLast? := by
  rw [lastOn, filter_extractedOn_pushAll]

/-! ## Counts -/

/-- A push counts for the category of its fact if the fact is extracted, and for no other. -/
theorem categoryCount_push (t : FactTable) (tier : Tier) (f : Fact) (c : FactCategory) :
    (t.push tier f).categoryCount c =
      t.categoryCount c + if f.extracted = true ∧ f.category = c then 1 else 0 := by
  simp only [categoryCount, Tier.all, List.flatMap_cons, List.flatMap_nil, List.length_append,
    List.length_nil, get_category_push]
  by_cases hc : f.category = c
  · cases tier <;> cases hx : f.extracted <;>
      simp [hc, hx] <;> omega
  · simp [hc]

/-- **The count of a category after any pushes** is how many of the pushed facts are extracted and
of that category. -/
theorem categoryCount_pushAll (fs : List (Tier × Fact)) (t : FactTable) (c : FactCategory) :
    (t.pushAll fs).categoryCount c =
      t.categoryCount c + fs.countP fun e => e.2.extracted = true ∧ e.2.category = c := by
  induction fs generalizing t with
  | nil => rfl
  | cons e fs ih =>
    show ((t.push e.1 e.2).pushAll fs).categoryCount c = _
    rw [ih, categoryCount_push, List.countP_cons]
    simp only [decide_eq_true_eq]
    omega

@[simp] theorem categoryCount_empty (c : FactCategory) : empty.categoryCount c = 0 := by
  cases c <;> rfl

/-- **The counts of the four categories** leave out no extracted fact and count none twice. -/
theorem sum_categoryCount_pushAll (fs : List (Tier × Fact)) :
    (empty.pushAll fs).categoryCount .active + (empty.pushAll fs).categoryCount .passive +
        (empty.pushAll fs).categoryCount .cooldown + (empty.pushAll fs).categoryCount .price =
      fs.countP fun e => e.2.extracted := by
  simp only [categoryCount_pushAll, categoryCount_empty]
  induction fs with
  | nil => rfl
  | cons e fs ih =>
    simp only [List.countP_cons, decide_eq_true_eq]
    cases e.2.extracted <;> cases e.2.category <;>
      simp only [reduceCtorEq, and_false, false_and, and_self, if_true, if_false] <;> omega

/-! ## All queries -/

/-- The presence queries about a table of pushed facts agree with each other. -/
structure QueriesAgree (t : FactTable) (fs : List (Tier × Fact)) : Prop where
  /-- the first fact of a kind on a tier, by category and then as the facts came -/
  firstOn_eq : ∀ type tier, t.firstOn type tier = (statedFacts fs tier type).head?
  /-- the last fact of a kind on a tier, in the same order -/
  lastOn_eq : ∀ type tier, t.lastOn type tier = (statedFacts fs tier type).getLast?
  /-- both are there or neither is -/
  first_and_last : ∀ type tier, (t.firstOn type tier).isSome = (t.lastOn type tier).isSome
  /-- a kind that the card has is one with a first fact -/
  contains_eq : ∀ type, t.contains type = (t.first? type).isSome
  /-- a kind that the card has is one with a last fact on some tier -/
  contains_iff : ∀ type, t.contains type = true ↔ ∃ tier, (t.lastOn type tier).isSome = true
  /-- the first fact of a kind is the first one on the lowest tier that has a last one -/
  first_iff : ∀ type f, t.first? type = some f ↔
    ∃ tier, t.firstOn type tier = some f ∧
      ∀ lower : Tier, Ranked.rank lower < Ranked.rank tier → t.lastOn type lower = none
  /-- a tier with a fact at all is one with a fact of some kind, be it an unmatched one -/
  tierPresent_iff : ∀ tier, t.tierPresent tier = true ↔ ∃ type, t.presentOn type tier = true
  /-- a category counts its extracted facts on all tiers -/
  count_eq : ∀ c, t.categoryCount c =
    fs.countP fun e => e.2.extracted = true ∧ e.2.category = c
  /-- together the four categories count every extracted fact, and once -/
  counts_eq : t.categoryCount .active + t.categoryCount .passive + t.categoryCount .cooldown +
    t.categoryCount .price = fs.countP fun e => e.2.extracted

/-- **The presence queries agree with each other** on every table, whatever was pushed. -/
theorem queries_agree (fs : List (Tier × Fact)) : (empty.pushAll fs).QueriesAgree fs where
  firstOn_eq := firstOn_pushAll fs
  lastOn_eq := lastOn_pushAll fs
  first_and_last type tier := (lastOn_isSome type tier).symm
  contains_eq type := (first?_isSome type).symm
  contains_iff type := by
    rw [FactTable.contains_iff]
    simp only [lastOn_isSome]
  first_iff type f := by
    rw [first?_eq_some_iff]
    simp only [presentOn_eq_false_iff_lastOn]
  tierPresent_iff _ := FactTable.tierPresent_iff
  count_eq c := by rw [categoryCount_pushAll, categoryCount_empty, Nat.zero_add]
  counts_eq := sum_categoryCount_pushAll fs

/-- A fact that came later stands first if its category does. -/
example :
    let priced : Fact := { category := .price, type := .damage, text := "" }
    let active : Fact := { category := .active, type := .damage, text := "" }
    let t := empty.pushAll [(.gold, priced), (.gold, active)]
    t.firstOn .damage .gold = some active ∧ t.lastOn .damage .gold = some priced := by decide

end FactTable

end CardText
