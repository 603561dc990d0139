import CardText.Proofs.Catalog.Kinds
import CardText.Proofs.OrderedMap

/-!
# The lines of a card and their facts, tier by tier

A card's table (`classify_input`) keeps the facts of a tier by category. All that is ever asked of
it is asked of one kind at a time, and the facts of one kind stand in line order.

Results:

* `get_category_table`: each list of the table in terms of the lines.
* `filter_onTier_table`, `filter_extractedOn_table`: of one kind, the table holds the facts of the
  lines in line order.
* `presentOn_table_iff`, `contains_table_iff`, `tierPresent_table_iff`: what the table states, by
  the kinds that the lines have.
* `ofKind_append`, `mem_ofKind_iff`: the facts of one kind, line by line.
* `textsOn_perTier`, `textsOn_merge`: no tier sees whether texts share a line.
-/

namespace CardText

/-- Every fact of the table stands in the list that its kind names. -/
def FactTable.Classified (t : FactTable) : Prop :=
  ∀ c tier, ∀ f ∈ (t.category c).get tier, f.type.category = c

namespace Card

/-- The texts of a card's lines on a tier, in line order. -/
def textsOn (card : Card) (tier : Tier) : List String :=
  card.filterMap fun line => line.get? tier

/-- The extracted facts of a card's lines on a tier, in line order. -/
def extractedOn (card : Card) (tier : Tier) : List Fact :=
  ((card.textsOn tier).map classify).filter (·.extracted)

/-- Those of one kind. -/
def ofKind (card : Card) (tier : Tier) (type : FactType) : List Fact :=
  (card.extractedOn tier).filter (·.type = type)

/-- A tier has an extracted fact of a kind. -/
def Has (card : Card) (tier : Tier) (type : FactType) : Prop := card.ofKind tier type ≠ []

instance (card : Card) (tier : Tier) (type : FactType) : Decidable (card.Has tier type) :=
  inferInstanceAs (Decidable (card.ofKind tier type ≠ []))

/-- How many active facts are extracted on a tier. -/
def activeCount (card : Card) (tier : Tier) : Nat :=
  ((card.extractedOn tier).filter (·.category = .active)).length

/-! ## From lines to the table -/

theorem facts_on_tier (card : Card) (tier : Tier) :
    (card.facts.filter fun e => e.1 = tier).map (·.2) = (card.textsOn tier).map classify := by
  induction card with
  | nil => rfl
  | cons line card ih =>
    have hline : ((line.entries.map fun e => (e.1, classify e.2)).filter fun e => e.1 = tier).map
        (·.2) = (line.get? tier).toList.map classify := by
      rw [List.filter_map, List.map_map, ← OrderedMap.filter_entries, List.map_map]
      rfl
    show (((line.entries.map fun e => (e.1, classify e.2)) ++ facts card).filter
      fun e => e.1 = tier).map (·.2) = _
    rw [List.filter_append, List.map_append, hline, ih]
    unfold textsOn
    rw [List.filterMap_cons]
    cases line.get? tier <;> rfl

/-- The facts of a card are those of its texts. -/
theorem exists_text_of_mem_facts {card : Card} {e : Tier × Fact} (h : e ∈ card.facts) :
    ∃ text, e.2 = classify text := by
  obtain ⟨line, -, he⟩ := List.mem_flatMap.mp h
  obtain ⟨x, -, rfl⟩ := List.mem_map.mp he
  exact ⟨x.2, rfl⟩

/-- The extracted facts of a card's lines are those that go into its table. -/
theorem extractedAmong_facts (card : Card) (tier : Tier) :
    extractedAmong card.facts tier = card.extractedOn tier := by
  rw [extractedOn, ← facts_on_tier, extractedAmong, List.filter_map, List.filter_filter]
  refine congrArg _ (List.filter_congr fun e _ => ?_)
  rw [Bool.eq_iff_iff]
  simp only [Function.comp, Bool.and_eq_true, decide_eq_true_eq]
  exact and_comm

theorem mem_extractedOn_iff {card : Card} {tier : Tier} {f : Fact} :
    f ∈ card.extractedOn tier ↔ (tier, f) ∈ card.facts ∧ f.extracted = true := by
  rw [← extractedAmong_facts, mem_extractedAmong]

theorem has_of_mem_facts {card : Card} {e : Tier × Fact} (he : e ∈ card.facts)
    (hx : e.2.extracted = true) : card.Has e.1 e.2.type :=
  List.ne_nil_of_mem (List.mem_filter.mpr ⟨mem_extractedOn_iff.mpr ⟨he, hx⟩, by simp⟩)

/-- **Each list of a card's table** holds the facts of its category on its tier, in line order. -/
theorem get_category_table (card : Card) (tier : Tier) (c : FactCategory) :
    (card.table.category c).get tier =
      ((card.textsOn tier).map classify).filter (·.category = c) := by
  unfold table
  rw [FactTable.get_category_pushAll_empty, ← facts_on_tier, List.filter_map, List.filter_filter]
  simp only [Function.comp, Bool.decide_and]

theorem classified_table (card : Card) : card.table.Classified := by
  intro c tier f hf
  rw [get_category_table, List.mem_filter, List.mem_map] at hf
  obtain ⟨⟨text, -, rfl⟩, hc⟩ := hf
  rw [← category_classify]
  exact of_decide_eq_true hc

/-- **Of one kind, the table holds the facts of the lines in line order**, read or not. -/
theorem filter_onTier_table (card : Card) (tier : Tier) (type : FactType) :
    (card.table.onTier tier).filter (·.type = type) =
      ((card.textsOn tier).map classify).filter (·.type = type) := by
  have hpart : ∀ c, ((card.table.category c).get tier).filter (·.type = type) =
      if type.category = c then ((card.textsOn tier).map classify).filter (·.type = type)
      else [] := by
    intro c
    rw [get_category_table]
    split
    · rename_i hc
      rw [List.filter_filter]
      refine List.filter_congr fun f hf => ?_
      obtain ⟨text, -, rfl⟩ := List.mem_map.mp hf
      by_cases ht : (classify text).type = type
      · have hcat : (classify text).category = c := by rw [category_classify, ht, hc]
        simp [ht, hcat]
      · simp [ht]
    · rename_i hc
      refine List.eq_nil_iff_forall_not_mem.mpr fun f hf => hc ?_
      simp only [List.mem_filter, List.mem_map, decide_eq_true_eq] at hf
      obtain ⟨⟨⟨text, -, rfl⟩, hcat⟩, ht⟩ := hf
      rw [← ht, ← category_classify, hcat]
  rw [FactTable.onTier, List.filter_flatMap]
  simp only [hpart, FactCategory.all, List.flatMap_cons, List.flatMap_nil, List.append_nil]
  cases type.category <;> simp

/-- The same of the facts that are extracted. -/
theorem filter_extractedOn_table (card : Card) (tier : Tier) (type : FactType) :
    (card.table.extractedOn tier).filter (·.type = type) = card.ofKind tier type := by
  rw [FactTable.extractedOn, List.filter_comm, filter_onTier_table, List.filter_comm]
  rfl

/-- The active facts of the table. -/
theorem length_active_table (card : Card) (tier : Tier) :
    ((card.table.active.get tier).filter (·.extracted)).length = card.activeCount tier := by
  have h : card.table.active.get tier = _ := get_category_table card tier .active
  unfold activeCount extractedOn
  rw [h, List.filter_filter, List.filter_filter]
  simp only [Bool.and_comm]

theorem firstOn_table (card : Card) (type : FactType) (tier : Tier) :
    card.table.firstOn type tier = (card.ofKind tier type).head? := by
  unfold FactTable.firstOn
  rw [← filter_extractedOn_table, List.head?_filter]

theorem lastOn_table (card : Card) (type : FactType) (tier : Tier) :
    card.table.lastOn type tier = (card.ofKind tier type).getLast? := by
  unfold FactTable.lastOn
  rw [filter_extractedOn_table]

theorem presentOn_table_iff (card : Card) (type : FactType) (tier : Tier) :
    card.table.presentOn type tier = true ↔ card.Has tier type := by
  unfold FactTable.presentOn Has
  rw [firstOn_table, List.isSome_head?]

theorem contains_table_iff (card : Card) (type : FactType) :
    card.table.contains type = true ↔ ∃ tier, card.Has tier type := by
  rw [FactTable.contains_iff]
  simp only [presentOn_table_iff]

theorem tierPresent_table_iff (card : Card) (tier : Tier) :
    card.table.tierPresent tier = true ↔ card.extractedOn tier ≠ [] := by
  rw [FactTable.tierPresent_iff]
  simp only [presentOn_table_iff]
  constructor
  · rintro ⟨type, h⟩ hnil
    exact h (by rw [ofKind, hnil, List.filter_nil])
  · intro h
    obtain ⟨f, hf⟩ := List.exists_mem_of_ne_nil _ h
    exact ⟨f.type, List.ne_nil_of_mem (List.mem_filter.mpr ⟨hf, by simp⟩)⟩

/-! ## Line by line -/

theorem ofKind_append (x y : Card) (tier : Tier) (type : FactType) :
    (x ++ y).ofKind tier type = x.ofKind tier type ++ y.ofKind tier type := by
  unfold ofKind extractedOn textsOn
  simp only [List.filterMap_append, List.map_append, List.filter_append]

theorem textsOn_append (x y : Card) (tier : Tier) :
    (x ++ y).textsOn tier = x.textsOn tier ++ y.textsOn tier :=
  List.filterMap_append

theorem textsOn_singleton (line : Line) (tier : Tier) :
    textsOn [line] tier = (line.get? tier).toList := by
  unfold textsOn
  rw [List.filterMap_cons]
  cases line.get? tier <;> rfl

/-- **An extracted fact of a kind is that of a text of some line.** -/
theorem mem_ofKind_iff {card : Card} {tier : Tier} {type : FactType} {f : Fact} :
    f ∈ card.ofKind tier type ↔
      ∃ line ∈ card, ∃ text, line.get? tier = some text ∧ classify text = f ∧
        f.extracted = true ∧ f.type = type := by
  unfold ofKind extractedOn textsOn
  simp only [List.mem_filter, List.mem_map, List.mem_filterMap, decide_eq_true_eq]
  constructor
  · rintro ⟨⟨⟨text, ⟨line, hline, htext⟩, hf⟩, hx⟩, ht⟩
    exact ⟨line, hline, text, htext, hf, hx, ht⟩
  · rintro ⟨line, hline, text, htext, hf, hx, ht⟩
    exact ⟨⟨⟨text, ⟨line, hline, htext⟩, hf⟩, hx⟩, ht⟩

theorem mem_ofKind_singleton {line : Line} {tier : Tier} {type : FactType} {f : Fact} :
    f ∈ ofKind [line] tier type ↔
      ∃ text, line.get? tier = some text ∧ classify text = f ∧ f.extracted = true ∧
        f.type = type := by
  rw [mem_ofKind_iff]
  simp only [List.mem_singleton, exists_eq_left]

end Card

/-! ## Texts spread over lines -/

namespace Line

/-- A line for every tier in place of one line. -/
def perTier (line : Line) : Card := line.entries.map fun e => .ofList [e]

/-- One line in place of two. -/
def merge (l l' : Line) : Line := l.insertAll l'.entries

theorem textsOn_perTier (line : Line) (tier : Tier) :
    line.perTier.textsOn tier = Card.textsOn [line] tier := by
  rw [Card.textsOn_singleton, ← OrderedMap.filter_entries]
  unfold perTier Card.textsOn
  rw [List.filterMap_map]
  induction line.entries with
  | nil => rfl
  | cons e rest ih =>
    have hget : (OrderedMap.ofList [e]).get? tier = if e.1 = tier then some e.2 else none := by
      show ((OrderedMap.empty.insert e.1 e.2).get? tier) = _
      rw [OrderedMap.get?_insert, OrderedMap.get?_empty]
      by_cases h : e.1 = tier
      · rw [if_pos h, if_pos (congrArg _ h)]
      · rw [if_neg h, if_neg fun hr => h (Ranked.rank_injective hr)]
    rw [List.filterMap_cons, List.filter_cons, ih, Function.comp, hget]
    by_cases h : e.1 = tier <;> simp [h]

theorem textsOn_merge {l l' : Line} (h : ∀ tier, l.get? tier = none ∨ l'.get? tier = none)
    (tier : Tier) : Card.textsOn [l.merge l'] tier = Card.textsOn [l, l'] tier := by
  have hget : (l.merge l').get? tier = (l'.get? tier).or (l.get? tier) :=
    OrderedMap.get?_insertAll l'.sorted l tier
  rw [show [l, l'] = [l] ++ [l'] from rfl, Card.textsOn_append, Card.textsOn_singleton,
    Card.textsOn_singleton, Card.textsOn_singleton, hget]
  rcases h tier with h | h
  · rw [h]
    cases l'.get? tier <;> rfl
  · rw [h]
    cases l.get? tier <;> rfl

end Line

end CardText
