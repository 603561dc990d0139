import CardText.Proofs.Document.Numbering
import CardText.Proofs.Document.Tooltips
import Mathlib.Data.List.NodupEquivFin

/-!
# More lines, more effects

A line that is added to a card takes nothing away from what `compile` makes of it. The kinds that a
card states, and with them the entries that give it effects and tooltips, only grow with its lines;
so the effects of the smaller card stand among those of the larger one in the same order, under
numbers of their own.

Results:

* `Stated.mono`, `Entry.BuiltBy.mono`: what more facts state.
* `exists_renumbering`: a part of a numbered list keeps its order under the numbers of the whole.
* **`document_partOf`**, `compile_partOf_of_sublist`: the document of fewer lines is part of that
  of more.
-/

namespace CardText

/-! ## What more facts state -/

section Mono

variable {fs fs' : List (Tier × Fact)}

theorem Stated.mono (h : fs ⊆ fs') {type : FactType} (hs : Stated fs type) : Stated fs' type := by
  obtain ⟨e, he, hx, ht⟩ := hs
  exact ⟨e, h he, hx, ht⟩

theorem StatedOn.mono (h : fs ⊆ fs') {tier : Tier} {type : FactType}
    (hs : StatedOn fs tier type) : StatedOn fs' tier type := by
  obtain ⟨e, he, hx⟩ := hs
  exact ⟨e, h he, hx⟩

/-- An entry may become complete by other lines, but never incomplete. -/
theorem Entry.BuiltBy.mono (h : fs ⊆ fs') {e : Entry} (hb : e.BuiltBy fs) : e.BuiltBy fs' :=
  ⟨hb.1.mono h, fun type ht => (hb.2 type ht).mono h⟩

theorem building_sublist (h : fs ⊆ fs') :
    (catalog.filter fun e => e.BuiltBy fs).Sublist (catalog.filter fun e => e.BuiltBy fs') := by
  refine List.monotone_filter_right catalog fun e he => ?_
  exact decide_eq_true (Entry.BuiltBy.mono h (of_decide_eq_true he))

theorem tooltipEntries_sublist (h : fs ⊆ fs') :
    (tooltipEntries fs).Sublist (tooltipEntries fs') := by
  refine List.monotone_filter_right catalog fun e he => ?_
  obtain ⟨htype, hs⟩ := of_decide_eq_true he
  exact decide_eq_true ⟨htype, hs.mono h⟩

end Mono

/-! ## Numbers in the same order -/

/-- The numbers are mapped in their order. -/
def IncreasingOn (ids : List EffectId) (f : EffectId → EffectId) : Prop :=
  ∀ i ∈ ids, ∀ j ∈ ids, i.value < j.value → (f i).value < (f j).value

namespace FactTable

variable {α β : Type}

/-- The numbers of a list are those of its places. -/
theorem lt_length_of_mem_keys {number : α → EffectId → β} {effects : List α}
    (h : effects.length ≤ UInt32.size) {i : EffectId} (hi : i ∈ (numbered number effects).keys) :
    i.value.toNat < effects.length := by
  obtain ⟨⟨k, r⟩, he, rfl⟩ := List.mem_map.mp hi
  obtain ⟨x, hx, -⟩ := (get?_numbered h).mp (OrderedMap.get?_eq_some_iff.mpr he)
  exact (List.getElem?_eq_some_iff.mp hx).1

/-- **A part of a numbered list keeps its order** under the numbers of the whole. -/
theorem exists_renumbering {part whole : List α} (h : part.Sublist whole)
    (hlen : whole.length ≤ UInt32.size) (number number' : α → EffectId → β) :
    ∃ f : EffectId → EffectId, IncreasingOn (numbered number part).keys f ∧
      ∀ i r, (numbered number part).get? i = some r →
        ∃ x ∈ part, r = number x i ∧
          (numbered number' whole).get? (f i) = some (number' x (f i)) := by
  obtain ⟨place, hplace⟩ := List.sublist_iff_exists_orderEmbedding_getElem?_eq.mp h
  have hpart : part.length ≤ UInt32.size := Nat.le_trans h.length_le hlen
  -- places are below the length of the whole, so as ids they do not wrap around
  have hnat : ∀ i : Nat, i < part.length → (EffectId.ofNat (place i)).value.toNat = place i := by
    intro i hi
    have hget := hplace i
    rw [List.getElem?_eq_getElem hi] at hget
    obtain ⟨hlt, -⟩ := List.getElem?_eq_some_iff.mp hget.symm
    exact EffectId.toNat_ofNat (by omega)
  refine ⟨fun i => .ofNat (place i.value.toNat), fun i hi j hj hij => ?_, fun i r hr => ?_⟩
  · rw [UInt32.lt_iff_toNat_lt] at hij ⊢
    rw [hnat _ (lt_length_of_mem_keys hpart hi), hnat _ (lt_length_of_mem_keys hpart hj)]
    exact place.strictMono hij
  · obtain ⟨x, hx, rfl⟩ := (get?_numbered hpart).mp hr
    refine ⟨x, List.mem_of_getElem? hx, rfl, (get?_numbered hlen).mpr ⟨x, ?_, rfl⟩⟩
    rw [hnat _ (List.getElem?_eq_some_iff.mp hx).1, ← hplace, hx]

end FactTable

/-! ## Auras -/

/-- An increase of cooldowns is a fixed number, and that is all that depends on the card. -/
theorem LastingEffect.enemyCooldownIncrease_eq (t u : FactTable) :
    ∃ n, enemyCooldownIncrease u = { enemyCooldownIncrease t with value := .fixed n } :=
  ⟨_, rfl⟩

/-! ## Documents -/

/-- Everything in a document of the pushed facts `fs` is in another one too, under numbers in the
same order. -/
structure Document.PartOf (d : Document) (fs : List (Tier × Fact)) (whole : Document) : Prop where
  tiers : ∀ tier ∈ d.availableTiers, tier ∈ whole.availableTiers
  abilities : ∃ f : EffectId → EffectId, IncreasingOn d.abilities.keys f ∧
    ∀ i x, d.abilities.get? i = some x → whole.abilities.get? (f i) = some { x with id := f i }
  /-- an increase of cooldowns may be by another number -/
  auras : ∃ f : EffectId → EffectId, IncreasingOn d.auras.keys f ∧
    ∀ i x, d.auras.get? i = some x →
      ∃ y, whole.auras.get? (f i) = some y ∧ y.id = f i ∧
        (y.toLastingEffect = x.toLastingEffect ∨
          x.toLastingEffect = .enemyCooldownIncrease (FactTable.empty.pushAll fs) ∧
            ∃ n, y.toLastingEffect = { x.toLastingEffect with value := .fixed n })
  /-- a tooltip that shows a line may show another one -/
  tooltips : ∃ g : Nat → Nat, StrictMono g ∧
    (∀ i tip, d.localization.tooltips[i]? = some tip →
      ∃ entry tip', (tooltipEntries fs)[i]? = some entry ∧ entry.Shows fs tip ∧
        whole.localization.tooltips[g i]? = some tip' ∧ tip'.type = tip.type ∧
        ∀ text, entry.tooltip = .fixed text → tip'.text = tip.text) ∧
    ∀ e ∈ d.tiers.entries, ∃ e' ∈ whole.tiers.entries, e'.1 = e.1 ∧
      ∀ i ∈ e.2.tooltipPlaces, g i ∈ e'.2.tooltipPlaces

namespace FactTable

variable {fs fs' : List (Tier × Fact)}

theorem emittedTiers_mono (h : fs ⊆ fs') {tier : Tier}
    (ht : tier ∈ (empty.pushAll fs).emittedTiers) : tier ∈ (empty.pushAll fs').emittedTiers := by
  rw [mem_emittedTiers_pushAll_iff] at ht ⊢
  exact ht.imp_right fun ⟨type, hs⟩ => ⟨type, hs.mono h⟩

theorem abilities_partOf (h : fs ⊆ fs') :
    ∃ f : EffectId → EffectId, IncreasingOn (empty.pushAll fs).abilities.keys f ∧
      ∀ i x, (empty.pushAll fs).abilities.get? i = some x →
        (empty.pushAll fs').abilities.get? (f i) = some { x with id := f i } := by
  unfold abilities
  rw [buildingEntries_pushAll, buildingEntries_pushAll]
  obtain ⟨f, hinc, hf⟩ := exists_renumbering
    ((building_sublist h).flatMap (·.abilities)) (Nat.le_trans (effectCount_le fs' _) (by decide))
    TriggeredEffect.numbered TriggeredEffect.numbered
  refine ⟨f, hinc, fun i x hx => ?_⟩
  obtain ⟨effect, -, rfl, hget⟩ := hf i x hx
  exact hget

theorem auras_partOf (h : fs ⊆ fs') :
    ∃ f : EffectId → EffectId, IncreasingOn (empty.pushAll fs).auras.keys f ∧
      ∀ i x, (empty.pushAll fs).auras.get? i = some x →
        ∃ y, (empty.pushAll fs').auras.get? (f i) = some y ∧ y.id = f i ∧
          (y.toLastingEffect = x.toLastingEffect ∨
            x.toLastingEffect = .enemyCooldownIncrease (empty.pushAll fs) ∧
              ∃ n, y.toLastingEffect = { x.toLastingEffect with value := .fixed n }) := by
  unfold auras
  rw [← List.map_flatMap, ← List.map_flatMap, numbered_map, numbered_map, buildingEntries_pushAll,
    buildingEntries_pushAll]
  obtain ⟨f, hinc, hf⟩ := exists_renumbering
    ((building_sublist h).flatMap (·.auras)) (Nat.le_trans (effectCount_le fs' _) (by decide))
    (fun aura => (aura (empty.pushAll fs)).numbered)
    (fun aura => (aura (empty.pushAll fs')).numbered)
  refine ⟨f, hinc, fun i x hx => ?_⟩
  obtain ⟨aura, hmem, rfl, hget⟩ := hf i x hx
  obtain ⟨e, he, ha⟩ := List.mem_flatMap.mp hmem
  refine ⟨_, hget, rfl, ?_⟩
  -- all auras but one are the same whatever the table says
  rcases aura_eq_or_of_mem_catalog (List.mem_of_mem_filter he) ha with rfl | hsame
  · exact Or.inr ⟨rfl, LastingEffect.enemyCooldownIncrease_eq _ _⟩
  · exact Or.inl (hsame _ _)

/-- Tooltips of one entry are shown alike, but for the line that they may show. -/
theorem shows_alike {e : Entry} {tip tip' : Tooltip} (h : e.Shows fs tip) (h' : e.Shows fs' tip') :
    tip'.type = tip.type ∧ ∀ text, e.tooltip = .fixed text → tip'.text = tip.text := by
  refine ⟨Option.some.inj (h'.type.symm.trans h.type), fun text ht => ?_⟩
  rw [h.fixed text ht, h'.fixed text ht]

/-- The entry behind a tooltip. -/
theorem exists_entry_of_tooltip {i : Nat} {tip : Tooltip}
    (h : (empty.pushAll fs).document.localization.tooltips[i]? = some tip) :
    ∃ entry, (tooltipEntries fs)[i]? = some entry ∧ entry.Shows fs tip := by
  have hstep := document_tooltipsInStep fs
  obtain ⟨hlt, -⟩ := List.getElem?_eq_some_iff.mp h
  rw [hstep.kept, ← List.length_map (·.entry), hstep.slot_entries] at hlt
  have hentry := List.getElem?_eq_getElem hlt
  obtain ⟨tip', htip', hshows⟩ := hstep.shown i _ hentry
  obtain rfl := Option.some.inj (h.symm.trans htip')
  exact ⟨_, hentry, hshows⟩

/-- **The document of fewer facts is part of that of more.** -/
theorem document_partOf (h : fs ⊆ fs') :
    (empty.pushAll fs).document.PartOf fs (empty.pushAll fs').document := by
  obtain ⟨g, hg⟩ := List.sublist_iff_exists_orderEmbedding_getElem?_eq.mp (tooltipEntries_sublist h)
  refine ⟨fun tier ht => ?_, abilities_partOf h, auras_partOf h, g, g.strictMono,
    fun i tip htip => ?_, fun e he => ?_⟩
  · rw [availableTiers_document] at ht ⊢
    exact emittedTiers_mono h ht
  · obtain ⟨entry, hentry, hshows⟩ := exists_entry_of_tooltip htip
    obtain ⟨tip', htip', hshows'⟩ :=
      (document_tooltipsInStep fs').shown (g i) entry (by rw [← hg, hentry])
    exact ⟨entry, tip', hentry, hshows, htip', shows_alike hshows hshows'⟩
  · have hin : (e.1, (empty.pushAll fs').cardTier e.1) ∈
        (empty.pushAll fs').document.tiers.entries :=
      mem_tiers_document.mpr ⟨emittedTiers_mono h (mem_tiers_document.mp he).1, rfl⟩
    refine ⟨_, hin, rfl, fun i hi => ?_⟩
    obtain ⟨entry, hentry, hon⟩ := (mem_tooltipPlaces_iff he).mp hi
    exact (mem_tooltipPlaces_iff hin).mpr ⟨entry, by rw [← hg, hentry], hon.mono h⟩

end FactTable

/-! ## Cards -/

namespace Card

theorem facts_subset_of_sublist {a c : Card} (h : a.Sublist c) : a.facts ⊆ c.facts :=
  (h.flatMap _).subset

/-- **Adding lines only adds effects.** -/
theorem compile_partOf_of_sublist {a c : Card} (h : a.Sublist c) :
    a.compile.PartOf a.facts c.compile := by
  rw [compile_eq_document, compile_eq_document]
  exact FactTable.document_partOf (facts_subset_of_sublist h)

/-- A card whose shields would grow, if they dealt damage. -/
def growingShields : Card :=
  [.ofList [(.gold, "Your Shield items gain +10 Shield for the fight.")]]

/-- The card with a line for damage by shields. -/
def damagingShields : Card :=
  .ofList [(.bronze, "Deal damage equal to the Shield value of your highest Shield item.")] ::
    growingShields

/-- That line makes the other one complete, and its tooltip keeps its place behind the new one. -/
theorem compile_partOf_damagingShields :
    growingShields.Sublist damagingShields ∧
      growingShields.compile.PartOf growingShields.facts damagingShields.compile :=
  ⟨List.sublist_cons_self _ _, compile_partOf_of_sublist (List.sublist_cons_self _ _)⟩

end Card

end CardText
