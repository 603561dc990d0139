import CardText.Proofs.Document.Summary
import CardText.Proofs.Document.Tiers

/-!
# Tooltips and their numbers

Three passes refer to the tooltips of a card. One numbers the entries that have a tooltip
(`tooltip_slots`), one writes the tooltips, leaving out those without a text (`build_localization`),
and one lists on every tier the numbers of the tooltips that the tier has (`build_tiers`). They keep
in step because no text is ever missing.

Results:

* `tooltip?_isSome`: the tooltip of a slot has a text, so none is left out.
* `mem_tooltipSlots_iff`: a slot's number is its place.
* **`tooltips_in_step`**: how numbers, tooltips and tiers agree for every table and card.
-/

namespace CardText

/-- The entries that a card with the pushed facts has tooltips of, in catalog order. -/
def tooltipEntries (fs : List (Tier × Fact)) : List Entry :=
  catalog.filter fun e => e.tooltipType?.isSome ∧ Stated fs e.type

/-- The places in the list of tooltips that a tier names by their numbers. -/
def CardTier.tooltipPlaces (ct : CardTier) : List Nat := ct.tooltipIds.map (·.toNat)

/-- The tooltip is that of the entry on a card with the pushed facts. -/
structure Entry.Shows (e : Entry) (fs : List (Tier × Fact)) (tip : Tooltip) : Prop where
  type : e.tooltipType? = some tip.type
  prerequisites : tip.prerequisites = none
  /-- an entry with a tooltip has a text of its own or shows the line -/
  visible : e.tooltip ≠ .hidden
  fixed : ∀ text, e.tooltip = .fixed text → tip.text = text
  /-- the line is the first one on the lowest tier that has one -/
  rawText : e.tooltip = .rawText → ∃ tier f,
    (FactTable.empty.pushAll fs).firstOn e.type tier = some f ∧ tip.text = f.text ∧
      ∀ lower : Tier, Ranked.rank lower < Ranked.rank tier → ¬ StatedOn fs lower e.type

namespace FactTable

variable {t : FactTable} {fs : List (Tier × Fact)}

/-! ## Slots -/

theorem tooltipSlots_pushAll (fs : List (Tier × Fact)) :
    (empty.pushAll fs).tooltipSlots =
      (tooltipEntries fs).zipIdx.map fun e => ⟨.ofNat e.2, e.1⟩ := by
  unfold tooltipSlots tooltipEntries
  have hfilter : (catalog.filter fun e =>
      e.tooltipType?.isSome && (empty.pushAll fs).contains e.type) =
        catalog.filter fun e => e.tooltipType?.isSome ∧ Stated fs e.type :=
    List.filter_congr fun e _ => by
      rw [Bool.eq_iff_iff, Bool.and_eq_true, contains_pushAll_iff, decide_eq_true_eq]
  rw [hfilter]

/-- There are fewer tooltips than numbers for them, so no two slots share one. -/
theorem toNat_id_of_mem_zipIdx {e : Entry × Nat} (he : e ∈ (tooltipEntries fs).zipIdx) :
    (TooltipId.ofNat e.2).toNat = e.2 := by
  have hplace : e.2 < (tooltipEntries fs).length :=
    (List.getElem?_eq_some_iff.mp (List.mem_zipIdx_iff_getElem?.mp he)).1
  have hcount : (tooltipEntries fs).length ≤ catalog.length := List.length_filter_le _ _
  exact TooltipId.toNat_ofNat (Nat.lt_of_lt_of_le hplace (Nat.le_trans hcount (by decide)))

/-- **The number of a slot is its place.** -/
theorem mem_tooltipSlots_iff {s : TooltipSlot} :
    s ∈ (empty.pushAll fs).tooltipSlots ↔ (tooltipEntries fs)[s.id.toNat]? = some s.entry := by
  rw [tooltipSlots_pushAll, List.mem_map]
  constructor
  · rintro ⟨e, he, rfl⟩
    show (tooltipEntries fs)[(TooltipId.ofNat e.2).toNat]? = some e.1
    rw [toNat_id_of_mem_zipIdx he]
    exact List.mem_zipIdx_iff_getElem?.mp he
  · intro h
    refine ⟨(s.entry, s.id.toNat), List.mem_zipIdx_iff_getElem?.mpr h, ?_⟩
    show TooltipSlot.mk (.ofNat s.id.toNat) s.entry = s
    rw [TooltipId.ofNat_toNat]

theorem places_tooltipSlots (fs : List (Tier × Fact)) :
    (empty.pushAll fs).tooltipSlots.map (·.id.toNat) =
      List.range (tooltipEntries fs).length := by
  rw [tooltipSlots_pushAll, List.map_map, List.range_eq_range', ← List.zipIdx_map_snd]
  exact List.map_congr_left fun e he => toNat_id_of_mem_zipIdx he

theorem entries_tooltipSlots (fs : List (Tier × Fact)) :
    (empty.pushAll fs).tooltipSlots.map (·.entry) = tooltipEntries fs := by
  rw [tooltipSlots_pushAll, List.map_map]
  exact List.zipIdx_map_fst 0 _

/-! ## Texts -/

/-- What the tooltip of an entry says, if it has one. -/
theorem shows_of_tooltip? {s : TooltipSlot} {tip : Tooltip}
    (h : s.tooltip? (empty.pushAll fs) = some tip) : s.entry.Shows fs tip := by
  unfold TooltipSlot.tooltip? at h
  obtain ⟨type, htype, h⟩ := Option.bind_eq_some_iff.mp h
  obtain ⟨text, htext, rfl⟩ := Option.map_eq_some_iff.mp h
  unfold Entry.tooltipText? at htext
  refine ⟨htype, rfl, fun hh => ?_, fun fixed hf => ?_, fun hr => ?_⟩
  · simp [hh] at htext
  · rw [hf] at htext
    exact (Option.some.inj htext).symm
  · rw [hr] at htext
    obtain ⟨f, hf, rfl⟩ := Option.map_eq_some_iff.mp htext
    obtain ⟨tier, hfirst, hlower⟩ := first?_eq_some_iff.mp hf
    refine ⟨tier, f, hfirst, rfl, fun lower hlt hs => ?_⟩
    rw [← presentOn_pushAll_iff, hlower lower hlt] at hs
    exact Bool.false_ne_true hs

/-- **No text is missing**: an entry that shows the line has one. -/
theorem tooltip?_isSome {s : TooltipSlot} (hs : s ∈ t.tooltipSlots) :
    (s.tooltip? t).isSome = true := by
  obtain ⟨⟨e, i⟩, he, rfl⟩ := List.mem_map.mp hs
  obtain ⟨-, hp⟩ := List.mem_filter.mp (List.fst_mem_of_mem_zipIdx he)
  obtain ⟨htype, hc⟩ := Bool.and_eq_true_iff.mp hp
  obtain ⟨type, htype⟩ := Option.isSome_iff_exists.mp htype
  have htext : (e.tooltipText? t).isSome = true := by
    unfold Entry.tooltipText?
    cases htip : e.tooltip with
    | hidden =>
      simp [Entry.tooltipType?, htip] at htype
    | fixed text => rfl
    | rawText => rw [Option.isSome_map, first?_isSome, hc]
  show (e.tooltipType?.bind _).isSome = true
  rw [htype, Option.bind_some, Option.isSome_map, htext]

/-- So every slot has its tooltip, in its place. -/
theorem map_some_tooltips (t : FactTable) :
    (t.localization t.tooltipSlots).tooltips.map some = t.tooltipSlots.map (·.tooltip? t) := by
  show (t.tooltipSlots.filterMap (·.tooltip? t)).map some = _
  rw [List.map_filterMap_some_eq_filter_map_isSome]
  refine List.filter_eq_self.mpr fun tip? h => ?_
  obtain ⟨s, hs, rfl⟩ := List.mem_map.mp h
  exact tooltip?_isSome hs

/-- The tooltip in a place is that of the entry in that place. -/
theorem exists_tooltip_of_entry {i : Nat} {entry : Entry}
    (hi : (tooltipEntries fs)[i]? = some entry) :
    ∃ tip, (empty.pushAll fs).document.localization.tooltips[i]? = some tip ∧
      entry.Shows fs tip := by
  have hslot : (empty.pushAll fs).tooltipSlots[i]? = some ⟨.ofNat i, entry⟩ := by
    rw [tooltipSlots_pushAll, List.getElem?_map, List.getElem?_zipIdx, hi]
    simp
  have hsome := tooltip?_isSome (List.mem_of_getElem? hslot)
  obtain ⟨tip, htip⟩ := Option.isSome_iff_exists.mp hsome
  have hmap := congrArg (·[i]?) (map_some_tooltips (empty.pushAll fs))
  simp only [List.getElem?_map, hslot, Option.map_some, htip] at hmap
  obtain ⟨tip', hget, heq⟩ := Option.map_eq_some_iff.mp hmap
  obtain rfl := Option.some.inj heq
  exact ⟨tip', hget, shows_of_tooltip? htip⟩

/-! ## Tiers -/

theorem tooltipPlaces_cardTier (t : FactTable) (tier : Tier) :
    (t.cardTier tier).tooltipPlaces =
      (t.tooltipSlots.filter fun s => s.presentOn t tier).map (·.id.toNat) :=
  List.map_map

/-- The numbers that a tier lists. -/
theorem mem_tooltipPlaces_iff {e : Tier × CardTier}
    (he : e ∈ (empty.pushAll fs).document.tiers.entries) {i : Nat} :
    i ∈ e.2.tooltipPlaces ↔
      ∃ entry, (tooltipEntries fs)[i]? = some entry ∧ StatedOn fs e.1 entry.type := by
  obtain ⟨-, he⟩ := mem_tiers_document.mp he
  rw [he, tooltipPlaces_cardTier, List.mem_map]
  simp only [List.mem_filter, TooltipSlot.presentOn, presentOn_pushAll_iff]
  constructor
  · rintro ⟨s, ⟨hs, hon⟩, rfl⟩
    exact ⟨s.entry, mem_tooltipSlots_iff.mp hs, hon⟩
  · rintro ⟨entry, hi, hon⟩
    -- the slot in this place has this place as its number
    have hmem : (entry, i) ∈ (tooltipEntries fs).zipIdx := List.mem_zipIdx_iff_getElem?.mpr hi
    have hid := toNat_id_of_mem_zipIdx hmem
    refine ⟨⟨.ofNat i, entry⟩, ⟨mem_tooltipSlots_iff.mpr ?_, hon⟩, hid⟩
    rw [hid, hi]

theorem tooltipPlaces_increasing {e : Tier × CardTier}
    (he : e ∈ (empty.pushAll fs).document.tiers.entries) :
    e.2.tooltipPlaces.Pairwise (· < ·) := by
  obtain ⟨-, he⟩ := mem_tiers_document.mp he
  have hids : ((empty.pushAll fs).tooltipSlots.map (·.id.toNat)).Pairwise (· < ·) := by
    rw [places_tooltipSlots]
    exact List.pairwise_lt_range
  rw [he, tooltipPlaces_cardTier]
  exact hids.sublist (List.filter_sublist.map _)

/-- Every tooltip stands on a tier of the document. -/
theorem exists_tier_of_tooltipEntry {i : Nat} {entry : Entry}
    (h : (tooltipEntries fs)[i]? = some entry) :
    ∃ e ∈ (empty.pushAll fs).document.tiers.entries, i ∈ e.2.tooltipPlaces := by
  have hmem : entry ∈ tooltipEntries fs := List.mem_of_getElem? h
  obtain ⟨-, hs⟩ := of_decide_eq_true (List.mem_filter.mp hmem).2
  obtain ⟨f, hf, hfact⟩ := hs
  have hon : StatedOn fs f.1 entry.type := ⟨f, hf, rfl, hfact⟩
  have hin : (f.1, (empty.pushAll fs).cardTier f.1) ∈ (empty.pushAll fs).document.tiers.entries :=
    mem_tiers_document.mpr ⟨mem_emittedTiers_pushAll_iff.mpr (Or.inr ⟨entry.type, hon⟩), rfl⟩
  exact ⟨_, hin, (mem_tooltipPlaces_iff hin).mpr ⟨entry, h, hon⟩⟩

end FactTable

/-! ## Documents -/

/-- The slots, the tooltips and the tiers of a document number its tooltips alike. -/
structure Document.TooltipsInStep (d : Document) (fs : List (Tier × Fact))
    (slots : List TooltipSlot) : Prop where
  slot_ids : slots.map (·.id.toNat) = List.range slots.length
  slot_entries : slots.map (·.entry) = tooltipEntries fs
  /-- no slot is left out -/
  kept : d.localization.tooltips.length = slots.length
  shown : ∀ (i : Nat) (entry : Entry), (tooltipEntries fs)[i]? = some entry →
    ∃ tip, d.localization.tooltips[i]? = some tip ∧ entry.Shows fs tip
  increasing : ∀ e ∈ d.tiers.entries, e.2.tooltipPlaces.Pairwise (· < ·)
  bounded : ∀ e ∈ d.tiers.entries, ∀ i ∈ e.2.tooltipPlaces, i < d.localization.tooltips.length
  /-- a tier lists the tooltips of the kinds that it has -/
  listed : ∀ e ∈ d.tiers.entries, ∀ (i : Nat) (entry : Entry),
    (tooltipEntries fs)[i]? = some entry →
      (i ∈ e.2.tooltipPlaces ↔ StatedOn fs e.1 entry.type)
  /-- every tooltip is listed somewhere -/
  covered : ∀ i, i < d.localization.tooltips.length →
    ∃ e ∈ d.tiers.entries, i ∈ e.2.tooltipPlaces

theorem FactTable.document_tooltipsInStep (fs : List (Tier × Fact)) :
    (empty.pushAll fs).document.TooltipsInStep fs (empty.pushAll fs).tooltipSlots := by
  have hentries := entries_tooltipSlots fs
  have hslots : (empty.pushAll fs).tooltipSlots.length = (tooltipEntries fs).length := by
    rw [← hentries, List.length_map]
  have hkept : (empty.pushAll fs).document.localization.tooltips.length =
      (empty.pushAll fs).tooltipSlots.length := by
    have := congrArg List.length (map_some_tooltips (empty.pushAll fs))
    rwa [List.length_map, List.length_map] at this
  refine ⟨?_, hentries, hkept, fun i entry hi => exists_tooltip_of_entry hi,
    fun e he => tooltipPlaces_increasing he, fun e he i hi => ?_, fun e he i entry hi => ?_,
    fun i hi => ?_⟩
  · rw [places_tooltipSlots, hslots]
  · obtain ⟨entry, hentry, -⟩ := (mem_tooltipPlaces_iff he).mp hi
    rw [hkept, hslots]
    exact (List.getElem?_eq_some_iff.mp hentry).1
  · rw [mem_tooltipPlaces_iff he]
    constructor
    · rintro ⟨entry', hi', hon⟩
      obtain rfl := Option.some.inj (hi.symm.trans hi')
      exact hon
    · exact fun hon => ⟨entry, hi, hon⟩
  · rw [hkept, hslots] at hi
    exact exists_tier_of_tooltipEntry (List.getElem?_eq_getElem hi)

/-- **Numbers, tooltips and tiers agree**, in the document of every table that pushes reach and of
every card. -/
theorem Document.tooltips_in_step :
    (∀ fs, (FactTable.empty.pushAll fs).document.TooltipsInStep fs
      (FactTable.empty.pushAll fs).tooltipSlots) ∧
      ∀ card : Card, card.compile.TooltipsInStep card.facts card.table.tooltipSlots := by
  refine ⟨FactTable.document_tooltipsInStep, fun card => ?_⟩
  rw [Card.compile_eq_document]
  exact FactTable.document_tooltipsInStep card.facts

end CardText
