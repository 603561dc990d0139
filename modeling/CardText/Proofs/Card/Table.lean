import CardText.Proofs.Card.Lines

/-!
# The table of a card keeps every fact in its place

Whatever is pushed, a table is the sixteen lists of its categories and tiers, and each list is the
part of the pushed facts that belongs there, in the order in which they came. A card's table
(`classify_input`) is filled line by line, and from a line in the order of the tiers.

Results:

* `holds_pushAll`: what a table holds after any pushes.
* `facts_eq_map_tieredTexts`: the facts of a card are those of its texts, tier by tier in each line.
* **`holds_all_in_order`**: no fact is lost, doubled or moved, in any table and in that of a card.
-/

namespace CardText

namespace FactTable

/-- The table holds these facts, which came one after the other, and nothing else. -/
structure Holds (t : FactTable) (fs : List (Tier × Fact)) : Prop where
  /-- the list of a category and a tier has the facts of both, in the order in which they came -/
  category_eq : ∀ c tier, (t.category c).get tier =
    (fs.filter fun e => e.2.category = c ∧ e.1 = tier).map (·.2)
  /-- the facts of a tier are those of its four lists, one list behind the other -/
  onTier_eq : ∀ tier, t.onTier tier =
    t.active.get tier ++ t.passive.get tier ++ t.cooldown.get tier ++ t.price.get tier
  size_eq : t.size = fs.length

/-- **What a table holds after any pushes.** -/
theorem holds_pushAll (fs : List (Tier × Fact)) : (empty.pushAll fs).Holds fs where
  category_eq c tier := get_category_pushAll_empty fs tier c
  onTier_eq tier := onTier_eq_append _ tier
  size_eq := by
    have hempty : empty.size = 0 := rfl
    rw [size_pushAll, hempty, Nat.zero_add]

end FactTable

namespace Card

/-- The texts of a card, each with its tier: line by line, and those of a line from bronze to
diamond. -/
def tieredTexts (card : Card) : List (Tier × String) :=
  card.flatMap fun line =>
    Tier.all.filterMap fun tier => (line.get? tier).map fun text => (tier, text)

/-- The table of the card is made of its texts, in their order. -/
structure Tabulated (card : Card) : Prop where
  table_eq : card.table =
    FactTable.empty.pushAll (card.tieredTexts.map fun e => (e.1, classify e.2))
  /-- every text of a line on a tier has its fact -/
  size_eq : card.table.size = card.tieredTexts.length
  /-- of one kind, a tier has the facts of the lines in line order -/
  ofKind_eq : ∀ type tier, (card.table.onTier tier).filter (·.type = type) =
    ((card.textsOn tier).map classify).filter (·.type = type)

theorem facts_eq_map_tieredTexts (card : Card) :
    card.facts = card.tieredTexts.map fun e => (e.1, classify e.2) := by
  rw [tieredTexts, List.map_flatMap]
  refine congrArg card.flatMap (funext fun line => ?_)
  rw [OrderedMap.entries_eq_filterMap Tier.sorted_all Tier.mem_all line]

theorem tabulated (card : Card) : card.Tabulated where
  table_eq := by rw [table, facts_eq_map_tieredTexts]
  size_eq := by
    have hsize := (FactTable.holds_pushAll card.facts).size_eq
    rw [facts_eq_map_tieredTexts, List.length_map] at hsize
    rw [table, facts_eq_map_tieredTexts, hsize]
  ofKind_eq type tier := filter_onTier_table card tier type

/-- **No fact is lost, doubled or moved**, whatever is pushed and whatever lines a card has. -/
theorem holds_all_in_order :
    (∀ fs : List (Tier × Fact), (FactTable.empty.pushAll fs).Holds fs) ∧
      ∀ card : Card, card.Tabulated :=
  ⟨FactTable.holds_pushAll, tabulated⟩

end Card

end CardText
