import CardText.Proofs.Document.Attributes
import CardText.Proofs.Document.Tooltips

/-!
# A tier by itself

A tier of a card (`CardTier`) is made of the texts that the lines have for it. What the lines say on
other tiers does not show there, but for one thing: a line on multicast counts for all tiers.

Results:

* `ofKind_onlyOn`: what is left of a card's facts on one of its tiers.
* `attribute?_congr`: all attributes but one are fixed by the lines of the tier.
* `multicast_eq_ite`: how often a tier acts, by the lines of the tier and those of the others.
* `map_tooltipPlaces`: the entries behind the tooltips of a tier.
* **`exists_same_alone`**: a tier of a card's document is that of the card on this tier alone.
-/

namespace CardText

/-- The line on one tier only. -/
def Line.onlyOn (line : Line) (tier : Tier) : Line :=
  match line.get? tier with
  | some text => .ofList [(tier, text)]
  | none => .empty

theorem Line.get?_onlyOn (line : Line) (tier other : Tier) :
    (line.onlyOn tier).get? other = if other = tier then line.get? tier else none := by
  unfold onlyOn
  cases htext : line.get? tier with
  | none => simp
  | some text =>
    show (OrderedMap.empty.insert tier text).get? other = _
    rw [OrderedMap.get?_insert, OrderedMap.get?_empty]
    by_cases h : other = tier
    · rw [if_pos h, if_pos (congrArg Ranked.rank h.symm)]
    · rw [if_neg h, if_neg fun hr => h (Ranked.rank_injective hr).symm]

namespace Card

/-- The card with its lines on one tier only. -/
def onlyOn (card : Card) (tier : Tier) : Card := card.map (·.onlyOn tier)

variable {card : Card} {tier : Tier}

/-! ## The lines of one tier -/

theorem textsOn_onlyOn (card : Card) (tier other : Tier) :
    (card.onlyOn tier).textsOn other = if other = tier then card.textsOn tier else [] := by
  unfold textsOn onlyOn
  rw [List.filterMap_map]
  by_cases h : other = tier
  · rw [if_pos h]
    exact List.filterMap_congr fun line _ => by rw [Function.comp, Line.get?_onlyOn, if_pos h]
  · rw [if_neg h]
    exact List.filterMap_eq_nil_iff.mpr fun line _ => by
      rw [Function.comp, Line.get?_onlyOn, if_neg h]

theorem extractedOn_onlyOn (card : Card) (tier : Tier) :
    (card.onlyOn tier).extractedOn tier = card.extractedOn tier := by
  rw [extractedOn, textsOn_onlyOn, if_pos rfl]
  rfl

theorem ofKind_onlyOn (card : Card) (tier : Tier) (type : FactType) :
    (card.onlyOn tier).ofKind tier type = card.ofKind tier type := by
  rw [ofKind, extractedOn_onlyOn]
  rfl

theorem has_onlyOn_iff {other : Tier} {type : FactType} :
    (card.onlyOn tier).Has other type ↔ other = tier ∧ card.Has tier type := by
  by_cases h : other = tier
  · rw [h, Has, ofKind_onlyOn, and_iff_right rfl]
    rfl
  · have hnil : (card.onlyOn tier).ofKind other type = [] := by
      rw [ofKind, extractedOn, textsOn_onlyOn, if_neg h]
      rfl
    exact ⟨fun hhas => absurd hnil hhas, fun hhas => absurd hhas.1 h⟩

/-! ## Attributes -/

/-- **All attributes but one** are fixed by the lines of the tier. -/
theorem attribute?_congr {x y : Card} (h : ∀ type, x.ofKind tier type = y.ofKind tier type)
    {a : Attribute} (ha : a ≠ .multicast) : x.attribute? tier a = y.attribute? tier a := by
  have hhas : ∀ type, x.Has tier type ↔ y.Has tier type := fun type => by rw [Has, Has, h]
  have hnumber : ∀ type p, x.number? tier type p = y.number? tier type p := fun type p => by
    rw [number?, number?, lineOf?, lineOf?, h]
  cases a with
  | multicast => exact absurd rfl ha
  | _ => simp only [attribute?, hhas, hnumber]

/-- **How often a tier acts**: a line on multicast on another tier counts too. -/
theorem multicast_eq_ite (card : Card) (tier : Tier) :
    card.attribute? tier .multicast =
      if ∃ other ∈ Tier.all, other ≠ tier ∧ card.Has other .leftmostToolMulticast then none
      else (card.onlyOn tier).attribute? tier .multicast := by
  have hsplit : (∃ other ∈ Tier.all, card.Has other .leftmostToolMulticast) ↔
      (∃ other ∈ Tier.all, other ≠ tier ∧ card.Has other .leftmostToolMulticast) ∨
        card.Has tier .leftmostToolMulticast := by
    constructor
    · rintro ⟨other, hall, hhas⟩
      by_cases h : other = tier
      · exact Or.inr (h ▸ hhas)
      · exact Or.inl ⟨other, hall, h, hhas⟩
    · rintro (⟨other, hall, -, hhas⟩ | hhas)
      · exact ⟨other, hall, hhas⟩
      · exact ⟨tier, Tier.mem_all tier, hhas⟩
  have halone : (∃ other ∈ Tier.all, (card.onlyOn tier).Has other .leftmostToolMulticast) ↔
      card.Has tier .leftmostToolMulticast := by
    simp only [has_onlyOn_iff]
    exact ⟨fun ⟨_, _, _, h⟩ => h, fun h => ⟨tier, Tier.mem_all tier, rfl, h⟩⟩
  have hvalue : (card.onlyOn tier).Has tier .combatDoubleItemValue ↔
      card.Has tier .combatDoubleItemValue := by
    rw [has_onlyOn_iff, and_iff_right rfl]
  simp only [attribute?, hsplit, halone, hvalue]
  rw [← ite_or]
  exact if_congr or_assoc rfl rfl

end Card

/-! ## Tooltips -/

instance (fs : List (Tier × Fact)) (tier : Tier) (type : FactType) :
    Decidable (StatedOn fs tier type) :=
  inferInstanceAs (Decidable (∃ e ∈ fs, e.1 = tier ∧ e.2.extracted = true ∧ e.2.type = type))

namespace FactTable

variable {fs : List (Tier × Fact)}

/-- What a tier states, the card states. -/
theorem stated_of_statedOn {tier : Tier} {type : FactType} (h : StatedOn fs tier type) :
    Stated fs type := by
  obtain ⟨e, he, -, hx⟩ := h
  exact ⟨e, he, hx⟩

/-- **The entries behind the tooltips of a tier** are those that it states, in catalog order. -/
theorem map_tooltipPlaces {e : Tier × CardTier}
    (he : e ∈ (empty.pushAll fs).document.tiers.entries) :
    e.2.tooltipPlaces.map ((tooltipEntries fs)[·]?) =
      (catalog.filter fun entry =>
        entry.tooltipType?.isSome ∧ StatedOn fs e.1 entry.type).map some := by
  obtain ⟨-, he⟩ := mem_tiers_document.mp he
  have hentry : ∀ s ∈ (empty.pushAll fs).tooltipSlots.filter
      (fun s => s.presentOn (empty.pushAll fs) e.1),
      (tooltipEntries fs)[s.id.toNat]? = some s.entry :=
    fun s hs => mem_tooltipSlots_iff.mp (List.mem_of_mem_filter hs)
  have hpresent : ∀ entry : Entry, (empty.pushAll fs).presentOn entry.type e.1 =
      decide (StatedOn fs e.1 entry.type) := by
    intro entry
    rw [Bool.eq_iff_iff, presentOn_pushAll_iff, decide_eq_true_eq]
  calc e.2.tooltipPlaces.map ((tooltipEntries fs)[·]?)
      = ((empty.pushAll fs).tooltipSlots.filter
          fun s => s.presentOn (empty.pushAll fs) e.1).map fun s => some s.entry := by
        rw [he, tooltipPlaces_cardTier, List.map_map]
        exact List.map_congr_left hentry
    _ = ((tooltipEntries fs).filter fun entry => StatedOn fs e.1 entry.type).map some := by
        rw [← entries_tooltipSlots, List.filter_map, List.map_map]
        simp only [TooltipSlot.presentOn, hpresent]
        rfl
    _ = _ := by
        unfold tooltipEntries
        rw [List.filter_filter]
        refine congrArg _ (List.filter_congr fun entry _ => ?_)
        rw [Bool.eq_iff_iff]
        simp only [Bool.and_eq_true, decide_eq_true_eq]
        exact ⟨fun h => ⟨h.2.1, h.1⟩, fun h => ⟨h.2, h.1, stated_of_statedOn h.2⟩⟩

end FactTable

/-! ## The tier alone -/

namespace Card

variable {card : Card} {tier : Tier}

theorem statedOn_facts_iff {type : FactType} :
    StatedOn card.facts tier type ↔ card.Has tier type := by
  rw [← FactTable.presentOn_pushAll_iff]
  exact presentOn_table_iff card type tier

/-- What a tier of a card has in common with that tier of the card without the others. -/
structure SameAlone (card : Card) (tier : Tier) (ct alone : CardTier) : Prop where
  attributes : ∀ a, a ≠ .multicast → ct.attributes.get? a = alone.attributes.get? a
  /-- a line on multicast on another tier takes it away -/
  multicast : ct.attributes.get? .multicast =
    if ∃ other ∈ Tier.all, other ≠ tier ∧ card.Has other .leftmostToolMulticast then none
    else alone.attributes.get? .multicast
  /-- the tooltips are those of the same entries, under numbers of their own -/
  tooltips : ct.tooltipPlaces.map ((tooltipEntries card.facts)[·]?) =
    alone.tooltipPlaces.map ((tooltipEntries (card.onlyOn tier).facts)[·]?)

theorem mem_emittedTiers_table_iff :
    tier ∈ card.table.emittedTiers ↔ tier = .diamond ∨ ∃ type, card.Has tier type := by
  rw [FactTable.mem_emittedTiers_iff]
  simp only [presentOn_table_iff]

/-- The entries behind the tooltips of a tier, by the lines of the tier. -/
theorem map_tooltipPlaces_compile {e : Tier × CardTier} (he : e ∈ card.compile.tiers.entries) :
    e.2.tooltipPlaces.map ((tooltipEntries card.facts)[·]?) =
      (catalog.filter fun entry =>
        entry.tooltipType?.isSome ∧ card.Has e.1 entry.type).map some := by
  rw [compile_eq_document] at he
  rw [FactTable.map_tooltipPlaces he]
  simp only [statedOn_facts_iff]

/-- **A tier is that of the card on this tier alone**, but for how often it acts. -/
theorem exists_same_alone {ct : CardTier} (h : card.compile.tiers.get? tier = some ct) :
    ∃ alone, (card.onlyOn tier).compile.tiers.get? tier = some alone ∧
      card.SameAlone tier ct alone := by
  have hmem : (tier, ct) ∈ card.compile.tiers.entries := OrderedMap.get?_eq_some_iff.mp h
  -- the tier alone has the same kinds of lines, so it is there too
  have hemitted : tier ∈ card.table.emittedTiers := by
    rw [compile_eq_document] at hmem
    exact (FactTable.mem_tiers_document.mp hmem).1
  have halone : (tier, (card.onlyOn tier).table.cardTier tier) ∈
      (card.onlyOn tier).compile.tiers.entries := by
    rw [compile_eq_document, FactTable.mem_tiers_document, mem_emittedTiers_table_iff]
    rw [mem_emittedTiers_table_iff] at hemitted
    exact ⟨hemitted.imp_right fun ⟨type, hhas⟩ => ⟨type, has_onlyOn_iff.mpr ⟨rfl, hhas⟩⟩, rfl⟩
  refine ⟨_, OrderedMap.get?_eq_some_iff.mpr halone, ⟨fun a ha => ?_, ?_, ?_⟩⟩
  · rw [get?_attributes_of_mem_tiers hmem, get?_attributes_of_mem_tiers halone]
    exact attribute?_congr (fun type => (ofKind_onlyOn card tier type).symm) ha
  · rw [get?_attributes_of_mem_tiers hmem, get?_attributes_of_mem_tiers halone]
    exact multicast_eq_ite card tier
  · rw [map_tooltipPlaces_compile hmem, map_tooltipPlaces_compile halone]
    simp only [has_onlyOn_iff, true_and]

/-- A card with a line on multicast on its gold tier. -/
def goldMulticast : Card :=
  [.ofList [(.bronze, "Deal 1 damage."), (.gold, "Your leftmost Tool has +2 Multicast.")]]

/-- On bronze it deals the same damage without the gold tier, but only then does it act once. -/
theorem exists_same_alone_goldMulticast :
    ∃ ct alone, goldMulticast.compile.tiers.get? .bronze = some ct ∧
      (goldMulticast.onlyOn .bronze).compile.tiers.get? .bronze = some alone ∧
        goldMulticast.SameAlone .bronze ct alone ∧
          ct.attributes.get? .multicast = none ∧ alone.attributes.get? .multicast = some 1 := by
  have hbronze : goldMulticast.Has .bronze .damage := by decide +kernel
  have hmem : (Tier.bronze, goldMulticast.table.cardTier .bronze) ∈
      goldMulticast.compile.tiers.entries := by
    rw [compile_eq_document, FactTable.mem_tiers_document, mem_emittedTiers_table_iff]
    exact ⟨Or.inr ⟨_, hbronze⟩, rfl⟩
  have hget := OrderedMap.get?_eq_some_iff.mpr hmem
  obtain ⟨alone, halone, hsame⟩ := exists_same_alone hget
  refine ⟨_, alone, hget, halone, hsame, ?_, ?_⟩
  · rw [get?_attributes_of_mem_tiers hmem]
    decide +kernel
  · rw [get?_attributes_of_mem_tiers (OrderedMap.get?_eq_some_iff.mp halone)]
    show (goldMulticast.onlyOn .bronze).attribute? .bronze .multicast = some 1
    decide +kernel

end Card

end CardText
