import CardText.Proofs.Document.Attributes
import CardText.Proofs.Document.Tooltips

/-!
# Which cards are the default card

The document of a card without lines is written down as such (`default_card`), and it is also what
the general way makes of such a card. Other cards share it only if they say nothing: an extracted
line of a recognised kind shows as a tooltip, as a cooldown or as a price, and one on another tier
than diamond makes that tier exist.

Results:

* `document_eq_defaultCard`: a table that states no recognised kind, and nothing but on diamond,
  has the default document.
* `tier_eq_diamond_of_defaultCard`, `type_eq_unmatched_of_defaultCard`: what each extracted fact of
  a default card has to be.
* **`compile_eq_defaultCard_iff`**: which cards are the default card.
-/

namespace CardText

/-! ## Cards that say nothing -/

namespace FactTable

variable {t : FactTable}

/-- No recognised kind is stated. -/
def Unrecognised (t : FactTable) : Prop := ∀ e ∈ catalog, t.contains e.type = false

theorem Unrecognised.presentOn_eq_false (h : t.Unrecognised) {e : Entry} (he : e ∈ catalog)
    (tier : Tier) : t.presentOn e.type tier = false := by
  rw [← Bool.not_eq_true]
  intro hp
  have hc := contains_iff.mpr ⟨tier, hp⟩
  rw [h e he] at hc
  exact Bool.false_ne_true hc

theorem Unrecognised.buildingEntries_eq_nil (h : t.Unrecognised) : t.buildingEntries = [] := by
  refine List.filter_eq_nil_iff.mpr fun e he hb => ?_
  rw [Entry.builds, h e he, Bool.false_and] at hb
  exact Bool.false_ne_true hb

theorem Unrecognised.tooltipSlots_eq_nil (h : t.Unrecognised) : t.tooltipSlots = [] := by
  have hnil : (catalog.filter fun e => e.tooltipType?.isSome && t.contains e.type) = [] := by
    refine List.filter_eq_nil_iff.mpr fun e he hb => ?_
    rw [h e he, Bool.and_false] at hb
    exact Bool.false_ne_true hb
  unfold tooltipSlots
  rw [hnil]
  rfl

/-- No line sets an attribute. -/
theorem Unrecognised.statedAttributes_eq_empty (h : t.Unrecognised) (tier : Tier) :
    t.statedAttributes tier = .empty := by
  refine OrderedMap.ext_get? fun a => ?_
  rw [get?_statedAttributes, OrderedMap.get?_empty, List.findSome?_eq_none_iff]
  intro e he
  have habsent := h.presentOn_eq_false (List.mem_reverse.mp he) tier
  have hfirst : t.firstOn e.type tier = none := presentOn_eq_false_iff.mp habsent
  have hlast : t.lastOn e.type tier = none := presentOn_eq_false_iff_lastOn.mp habsent
  rw [numberOn?, Entry.tierFact?, hfirst, hlast, ite_self, Option.bind_none]

/-- What is left are the attributes that the diamond tier has by itself. -/
theorem Unrecognised.attributes_diamond (h : t.Unrecognised) :
    t.attributes .diamond = .ofList
      [(.multicast, Document.defaultMulticast),
        (.buyPrice, Document.defaultDiamondBuyPrice)] := by
  have hprice : t.presentOn .price .diamond = false :=
    h.presentOn_eq_false (e := .price) (by simp [catalog]) .diamond
  have hcast : t.contains .leftmostToolMulticast = false :=
    h .leftmostToolMulticast (by simp [catalog])
  have hvalue : t.presentOn .combatDoubleItemValue .diamond = false :=
    h.presentOn_eq_false (e := .combatDoubleItemValue) (by simp [catalog]) .diamond
  simp only [attributes, h.statedAttributes_eq_empty, hprice, hcast, hvalue]
  rfl

/-- **A table without recognised kinds, and with nothing but on diamond, has the default
document.** -/
theorem document_eq_defaultCard (h : t.Unrecognised) (ht : t.emittedTiers = [.diamond]) :
    t.document = .defaultCard := by
  have habilities : t.abilities = .empty := by
    unfold abilities
    rw [h.buildingEntries_eq_nil]
    rfl
  have hauras : t.auras = .empty := by
    unfold auras
    rw [h.buildingEntries_eq_nil]
    rfl
  have hlocalization : t.localization [] = {} := by
    show Localization.mk (t.soleActiveType.bind fun _ => none) [] = _
    rw [Option.bind_fun_none]
  unfold document cardTiers
  rw [habilities, hauras, h.tooltipSlots_eq_nil, hlocalization, ht]
  simp only [List.map_cons, h.attributes_diamond]
  rfl

end FactTable

/-! ## What lines show -/

/-- An entry shows as a cooldown, as a price or by a tooltip. -/
theorem type_or_tooltipType?_of_mem_catalog :
    ∀ e ∈ catalog, e.type = .cooldown ∨ e.type = .price ∨ e.tooltipType?.isSome = true := by
  decide

namespace Card

variable {card : Card}

/-- The default card has one tier. -/
theorem tier_eq_diamond_of_defaultCard (h : card.compile = .defaultCard) {e : Tier × Fact}
    (he : e ∈ card.facts) (hx : e.2.extracted = true) : e.1 = .diamond := by
  have hmem : e.1 ∈ card.compile.availableTiers := by
    rw [availableTiers_compile, List.mem_filter]
    exact ⟨Tier.mem_all e.1,
      decide_eq_true (Or.inr (List.ne_nil_of_mem (mem_extractedOn_iff.mpr ⟨he, hx⟩)))⟩
  rw [h] at hmem
  exact List.mem_singleton.mp hmem

/-- The attributes of the default card are those that its tier has by itself. -/
theorem attribute?_of_defaultCard (h : card.compile = .defaultCard) {a : Attribute}
    (hm : a ≠ .multicast) (hb : a ≠ .buyPrice) : card.attribute? .diamond a = none := by
  obtain ⟨ct, hct⟩ : ∃ ct, (Tier.diamond, ct) ∈ card.compile.tiers.entries := by
    rw [h]
    exact ⟨_, List.mem_singleton_self _⟩
  rw [← get?_attributes_of_mem_tiers hct]
  rw [h] at hct
  obtain ⟨-, rfl⟩ := Prod.mk.inj (List.mem_singleton.mp hct)
  cases a with
  | multicast => exact absurd rfl hm
  | buyPrice => exact absurd rfl hb
  | _ => rfl

/-- **A recognised line leaves a trace**: a default card has none that is extracted. -/
theorem type_eq_unmatched_of_defaultCard (h : card.compile = .defaultCard) {e : Tier × Fact}
    (he : e ∈ card.facts) (hx : e.2.extracted = true) : e.2.type = .unmatched := by
  obtain ⟨tier, f⟩ := e
  obtain rfl : tier = .diamond := tier_eq_diamond_of_defaultCard h he hx
  have hhas := has_of_mem_facts he hx
  by_contra hne
  obtain ⟨entry, hentry, htype⟩ := exists_mem_catalog hne
  have htype : entry.type = f.type := htype
  rw [← htype] at hhas
  rcases type_or_tooltipType?_of_mem_catalog entry hentry with hc | hp | htip
  · -- a cooldown stands among the attributes
    rw [hc] at hhas
    obtain ⟨n, hn⟩ := exists_number?_of_has (e := .cooldown) (by simp [catalog]) hhas
      (List.mem_singleton_self _)
    have hnone : card.number? .diamond .cooldown .amount = none :=
      attribute?_of_defaultCard h (a := .cooldownMax) (by decide) (by decide)
    exact absurd (hn.symm.trans hnone) (by simp)
  · -- so does what the card is sold for
    rw [hp] at hhas
    obtain ⟨n, hn⟩ := exists_number?_of_has (e := .price) (by simp [catalog]) hhas
      (p := .sellPrice) (by decide)
    have hnone : card.number? .diamond .price .sellPrice = none :=
      attribute?_of_defaultCard h (a := .sellPrice) (by decide) (by decide)
    exact absurd (hn.symm.trans hnone) (by simp)
  · -- any other kind has a tooltip
    have hstated : Stated card.facts entry.type := ⟨_, he, hx, htype.symm⟩
    obtain ⟨i, hi⟩ := List.mem_iff_getElem?.mp
      (List.mem_filter.mpr ⟨hentry, decide_eq_true ⟨htip, hstated⟩⟩ :
        entry ∈ tooltipEntries card.facts)
    obtain ⟨tip, hget, -⟩ := (FactTable.document_tooltipsInStep card.facts).shown i entry hi
    have hdocument : (FactTable.empty.pushAll card.facts).document = .defaultCard := by
      rw [← h, compile_eq_document]
      rfl
    rw [hdocument] at hget
    exact absurd hget (by simp [Document.defaultCard])

/-- A card that says nothing is the default card. -/
theorem compile_eq_defaultCard (h : ∀ e ∈ card.facts, e.2.extracted = true →
    e.1 = .diamond ∧ e.2.type = .unmatched) : card.compile = .defaultCard := by
  rw [compile_eq_document]
  refine FactTable.document_eq_defaultCard (fun e he => ?_) ?_
  · rw [← Bool.not_eq_true]
    intro hc
    obtain ⟨x, hx, hxx, ht⟩ := FactTable.contains_pushAll_iff.mp hc
    rw [(h x hx hxx).2] at ht
    exact type_ne_unmatched_of_mem_catalog e he ht.symm
  · have honly : ∀ tier : Tier, tier ≠ .diamond → card.table.tierPresent tier = false := by
      intro tier htier
      rw [← Bool.not_eq_true, FactTable.tierPresent_iff]
      rintro ⟨type, hp⟩
      obtain ⟨x, hx, hon, hxx, -⟩ := FactTable.presentOn_pushAll_iff.mp hp
      exact htier (hon ▸ (h x hx hxx).1)
    unfold FactTable.emittedTiers Tier.all
    simp [honly]

/-- **Which cards are the default card**: those whose extracted facts are lines on diamond that are
not recognised. The general way leads to it, too, from a card without lines. -/
theorem compile_eq_defaultCard_iff :
    (∀ card : Card, card.compile = .defaultCard ↔
      ∀ e ∈ card.facts, e.2.extracted = true → e.1 = .diamond ∧ e.2.type = .unmatched) ∧
    (∀ card : Card, card.compile = card.table.document) ∧
    (table []).document = .defaultCard := by
  refine ⟨fun card => ⟨fun h e he hx => ?_, compile_eq_defaultCard⟩, compile_eq_document, ?_⟩
  · exact ⟨tier_eq_diamond_of_defaultCard h he hx, type_eq_unmatched_of_defaultCard h he hx⟩
  · rw [← compile_eq_document]
    exact compile_eq_defaultCard fun e he => absurd he List.not_mem_nil

end Card

end CardText
