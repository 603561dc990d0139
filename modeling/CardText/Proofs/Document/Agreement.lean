import CardText.Document.Compile
import CardText.Proofs.Catalog.Kinds
import Mathlib.Data.List.Basic

/-!
# Tables that agree compile alike

A document is built from a table by the queries of `FactIndex` alone: which kinds are there, the
first facts of most kinds, the last facts of cooldowns and prices, and the only kind of a card with
a single effect. Two tables that answer these alike (`Agree`) are the same to every pass.

Results:

* `attributes_congr`, `buildingEntries_congr`, `tooltipSlots_congr`, `tooltip?_congr`: pass by pass.
* **`document_congr`**: the documents of tables that agree are equal.
-/

namespace CardText.FactTable

/-- The tables answer the queries of the compiler alike. -/
structure Agree (t u : FactTable) : Prop where
  present : ∀ type tier, t.presentOn type tier = u.presentOn type tier
  /-- the first facts, where the first line counts -/
  first : ∀ type tier, type ≠ .cooldown → type ≠ .price → type ≠ .unmatched →
    t.firstOn type tier = u.firstOn type tier
  /-- the last facts, where the last line counts -/
  last : ∀ type tier, type = .cooldown ∨ type = .price → t.lastOn type tier = u.lastOn type tier
  sole : t.soleActiveType = u.soleActiveType

variable {t u : FactTable}

/-! ## Queries over all tiers -/

theorem contains_congr (h : Agree t u) (type : FactType) : t.contains type = u.contains type := by
  rw [Bool.eq_iff_iff, contains_iff, contains_iff]
  simp only [h.present]

theorem tierPresent_congr (h : Agree t u) (tier : Tier) :
    t.tierPresent tier = u.tierPresent tier := by
  rw [Bool.eq_iff_iff, tierPresent_iff, tierPresent_iff]
  simp only [h.present]

theorem first?_congr (h : Agree t u) {type : FactType} (hc : type ≠ .cooldown)
    (hp : type ≠ .price) (hu : type ≠ .unmatched) : t.first? type = u.first? type := by
  unfold first?
  rw [show t.firstOn type = u.firstOn type from funext fun tier => h.first type tier hc hp hu]

/-! ## Effects -/

theorem builds_congr (h : Agree t u) (e : Entry) : e.builds t = e.builds u := by
  unfold Entry.builds
  rw [show t.contains = u.contains from funext (contains_congr h)]

theorem buildingEntries_congr (h : Agree t u) : t.buildingEntries = u.buildingEntries := by
  unfold buildingEntries
  simp only [builds_congr h]

theorem abilities_congr (h : Agree t u) : t.abilities = u.abilities := by
  unfold abilities
  rw [buildingEntries_congr h]

theorem auras_congr (h : Agree t u) : t.auras = u.auras := by
  have hparam : t.firstParam? .enemyCooldownIncrease .amount =
      u.firstParam? .enemyCooldownIncrease .amount := by
    unfold firstParam?
    rw [first?_congr h (by decide) (by decide) (by decide)]
  unfold auras
  rw [buildingEntries_congr h]
  refine congrArg _ (List.flatMap_congr fun e he => ?_)
  exact auras_eq_of_firstParam?_eq hparam e (List.mem_filter.mp he).1

/-! ## Tiers -/

theorem tierFact?_congr (h : Agree t u) {e : Entry} (he : e ∈ catalog) (tier : Tier) :
    e.tierFact? t tier = e.tierFact? u tier := by
  have hlast := lastLineWins_iff_of_mem_catalog e he
  unfold Entry.tierFact?
  split
  · rename_i hw
    exact h.last e.type tier (hlast.mp hw)
  · rename_i hw
    have hne := mt hlast.mpr hw
    rw [not_or] at hne
    exact h.first e.type tier hne.1 hne.2 (type_ne_unmatched_of_mem_catalog e he)

theorem statedAttributes_congr (h : Agree t u) (tier : Tier) :
    t.statedAttributes tier = u.statedAttributes tier := by
  unfold statedAttributes
  exact List.foldl_ext _ _ _ fun bag e he => by rw [tierFact?_congr h he tier]

theorem attributes_congr (h : Agree t u) (tier : Tier) :
    t.attributes tier = u.attributes tier := by
  unfold attributes
  rw [statedAttributes_congr h, h.present, h.present, contains_congr h]

theorem emittedTiers_congr (h : Agree t u) : t.emittedTiers = u.emittedTiers := by
  unfold emittedTiers
  simp only [tierPresent_congr h]

/-! ## Tooltips -/

theorem tooltipSlots_congr (h : Agree t u) : t.tooltipSlots = u.tooltipSlots := by
  unfold tooltipSlots
  simp only [contains_congr h]

/-- A slot stands for an entry of the catalog. -/
theorem entry_mem_catalog {s : TooltipSlot} (hs : s ∈ t.tooltipSlots) : s.entry ∈ catalog := by
  obtain ⟨e, he, rfl⟩ := List.mem_map.mp hs
  exact List.mem_of_mem_filter (List.fst_mem_of_mem_zipIdx he)

theorem tooltipText?_congr (h : Agree t u) {e : Entry} (he : e ∈ catalog)
    (htype : e.tooltipType?.isSome = true) : e.tooltipText? t = e.tooltipText? u := by
  obtain ⟨hc, hp⟩ := type_ne_of_tooltipType?_isSome e he htype
  unfold Entry.tooltipText?
  rw [first?_congr h hc hp (type_ne_unmatched_of_mem_catalog e he)]

theorem tooltip?_congr (h : Agree t u) {s : TooltipSlot} (hs : s.entry ∈ catalog) :
    s.tooltip? t = s.tooltip? u := by
  unfold TooltipSlot.tooltip?
  cases htype : s.entry.tooltipType? with
  | none => rfl
  | some type => rw [tooltipText?_congr h hs (by rw [htype]; rfl)]

theorem localization_congr (h : Agree t u) {slots : List TooltipSlot}
    (hs : ∀ s ∈ slots, s.entry ∈ catalog) : t.localization slots = u.localization slots := by
  have htips : slots.filterMap (·.tooltip? t) = slots.filterMap (·.tooltip? u) :=
    List.filterMap_congr fun s hm => tooltip?_congr h (hs s hm)
  unfold localization
  rw [htips, h.sole]

theorem cardTiers_congr (h : Agree t u) (abilities : OrderedMap EffectId Ability)
    (auras : OrderedMap EffectId Aura) (slots : List TooltipSlot) :
    t.cardTiers abilities auras slots = u.cardTiers abilities auras slots := by
  unfold cardTiers
  rw [emittedTiers_congr h]
  simp only [attributes_congr h, TooltipSlot.presentOn, h.present]

/-- **The documents of tables that agree are equal.** -/
theorem document_congr (h : Agree t u) : t.document = u.document := by
  unfold document
  rw [abilities_congr h, auras_congr h, ← tooltipSlots_congr h,
    localization_congr h fun s hs => entry_mem_catalog hs, cardTiers_congr h]

end CardText.FactTable
