import CardText.Document.Compile
import CardText.Proofs.Fact.Presence
import CardText.Proofs.OrderedMap

/-!
# The tiers of a document

A document has the diamond tier and every tier with an extracted fact (`build_tiers`). Each of them
is assembled from the whole card's effects and from what stands on the tier itself.

Results:

* `mem_emittedTiers_pushAll_iff`: which tiers there are after any pushes.
* `availableTiers_document`: the tiers that a document names.
* `entries_tiers_document`: what stands in each of them.
-/

namespace CardText.FactTable

variable {t : FactTable}

theorem mem_emittedTiers_iff {tier : Tier} :
    tier ∈ t.emittedTiers ↔ tier = .diamond ∨ ∃ type, t.presentOn type tier = true := by
  unfold emittedTiers
  rw [List.mem_filter, Bool.or_eq_true, decide_eq_true_eq, tierPresent_iff]
  exact and_iff_right (Tier.mem_all tier)

/-- **The tiers of a document** after any pushes. -/
theorem mem_emittedTiers_pushAll_iff {fs : List (Tier × Fact)} {tier : Tier} :
    tier ∈ (empty.pushAll fs).emittedTiers ↔ tier = .diamond ∨ ∃ type, StatedOn fs tier type := by
  rw [mem_emittedTiers_iff]
  simp only [presentOn_pushAll_iff]

/-- The tiers stand in the order of their ranks, so none is lost in the map. -/
theorem sorted_emittedTiers (t : FactTable) :
    t.emittedTiers.Pairwise fun a b => Ranked.rank a < Ranked.rank b :=
  Tier.sorted_all.filter _

/-- A tier of the document of a table. -/
def cardTier (t : FactTable) (tier : Tier) : CardTier where
  attributes := t.attributes tier
  abilityIds := t.abilities.keys
  auraIds := t.auras.keys
  tooltipIds := (t.tooltipSlots.filter fun s => s.presentOn t tier).map (·.id)

/-- **What stands in the tiers of a document.** -/
theorem entries_tiers_document (t : FactTable) :
    t.document.tiers.entries = t.emittedTiers.map fun tier => (tier, t.cardTier tier) :=
  OrderedMap.entries_ofList (List.pairwise_map.mpr (sorted_emittedTiers t))

/-- The tiers that a document names are those that the table has. -/
theorem availableTiers_document (t : FactTable) : t.document.availableTiers = t.emittedTiers := by
  unfold Document.availableTiers OrderedMap.keys
  rw [entries_tiers_document, List.map_map]
  exact List.map_id t.emittedTiers

theorem mem_tiers_document {e : Tier × CardTier} :
    e ∈ t.document.tiers.entries ↔ e.1 ∈ t.emittedTiers ∧ e.2 = t.cardTier e.1 := by
  rw [entries_tiers_document, List.mem_map]
  constructor
  · rintro ⟨tier, ht, rfl⟩
    exact ⟨ht, rfl⟩
  · rintro ⟨ht, he⟩
    exact ⟨e.1, ht, by rw [← he]⟩

end CardText.FactTable
