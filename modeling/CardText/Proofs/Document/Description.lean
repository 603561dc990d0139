import CardText.Proofs.Document.Summary
import CardText.Proofs.Document.Tooltips

/-!
# The description of a card

A card has a description if its lines come down to a single active effect. Whether they do is found
by one pass over the tiers (`sole_active_type`), and the text is taken from another one, which makes
the tooltips of the whole card (`build_localization`). The two meet because a card with a single
active effect has one tooltip, that effect's.

Results:

* `agree_of_extractedAmong_eq`: what is not extracted does not matter to a document.
* `length_tooltipEntries_of_singleEffect`: a single active effect has one tooltip.
* **`description_of_singleEffect`**: which tables have a single effect, which cards a description,
  and what it says.
-/

namespace CardText

/-! ## Facts that are not extracted -/

theorem SingleEffect.congr {fs gs : List (Tier × Fact)}
    (h : ∀ tier, extractedAmong fs tier = extractedAmong gs tier) {type : FactType}
    (hs : SingleEffect fs type) : SingleEffect gs type := by
  have hmem : ∀ e, e ∈ fs ∧ e.2.extracted = true ↔ e ∈ gs ∧ e.2.extracted = true := fun e => by
    rw [← mem_extractedAmong, ← mem_extractedAmong, h]
  refine ⟨?_, fun e he hx => ?_, fun tier => h tier ▸ hs.once tier⟩
  · obtain ⟨e, he, hx⟩ := hs.stated
    exact ⟨e, (hmem e).mp ⟨he, hx⟩⟩
  · exact hs.active e ((hmem e).mpr ⟨he, hx⟩).1 hx

theorem extractedAmong_filter (fs : List (Tier × Fact)) (tier : Tier) :
    extractedAmong (fs.filter (·.2.extracted)) tier = extractedAmong fs tier := by
  unfold extractedAmong
  rw [List.filter_filter]
  refine congrArg _ (List.filter_congr fun e _ => ?_)
  rw [Bool.eq_iff_iff]
  simp only [Bool.and_eq_true, decide_eq_true_eq]
  exact ⟨fun h => h.1, fun h => ⟨h, h.2⟩⟩

namespace FactTable

theorem soleActiveType_eq_of_extractedAmong_eq {fs gs : List (Tier × Fact)}
    (h : ∀ tier, extractedAmong fs tier = extractedAmong gs tier) :
    (empty.pushAll fs).soleActiveType = (empty.pushAll gs).soleActiveType := by
  refine Option.ext fun type => ?_
  show _ = some type ↔ _ = some type
  rw [soleActiveType_pushAll_eq_some_iff, soleActiveType_pushAll_eq_some_iff]
  exact ⟨SingleEffect.congr h, SingleEffect.congr fun tier => (h tier).symm⟩

/-- **Tables with the same extracted facts agree.** -/
theorem agree_of_extractedAmong_eq {fs gs : List (Tier × Fact)}
    (h : ∀ tier, extractedAmong fs tier = extractedAmong gs tier) :
    Agree (empty.pushAll fs) (empty.pushAll gs) := by
  have hext : ∀ tier, (empty.pushAll fs).extractedOn tier = (empty.pushAll gs).extractedOn tier :=
    fun tier => by rw [extractedOn_pushAll, extractedOn_pushAll, h]
  have hfirst : ∀ type tier,
      (empty.pushAll fs).firstOn type tier = (empty.pushAll gs).firstOn type tier :=
    fun type tier => by rw [firstOn, firstOn, hext]
  refine ⟨fun type tier => ?_, fun type tier _ _ _ => hfirst type tier, fun type tier _ => ?_,
    soleActiveType_eq_of_extractedAmong_eq h⟩
  · rw [presentOn, presentOn, hfirst]
  · rw [lastOn, lastOn, hext]

end FactTable

/-! ## The tooltip of a single effect -/

/-- Every kind of active lines has one entry, and that one has a tooltip. -/
theorem length_filter_tooltipType_of_active : ∀ type ∈ FactType.all, type.category = .active →
    (catalog.filter fun e => e.tooltipType?.isSome ∧ e.type = type).length = 1 := by
  decide

/-- A single effect states its own kind only. -/
theorem SingleEffect.stated_iff {fs : List (Tier × Fact)} {type : FactType}
    (h : SingleEffect fs type) {other : FactType} : Stated fs other ↔ other = type := by
  constructor
  · rintro ⟨e, he, hx, rfl⟩
    exact (h.active e he hx).2
  · rintro rfl
    obtain ⟨e, he, hx⟩ := h.stated
    exact ⟨e, he, hx, (h.active e he hx).2⟩

/-- **A single active effect has one tooltip.** -/
theorem length_tooltipEntries_of_singleEffect {fs : List (Tier × Fact)} {type : FactType}
    (h : SingleEffect fs type) (hc : type.category = .active) :
    (tooltipEntries fs).length = 1 := by
  unfold tooltipEntries
  simp only [h.stated_iff]
  exact length_filter_tooltipType_of_active type (FactType.mem_all type) hc

/-! ## Documents -/

/-- A document describes the card of the pushed facts if they are a single effect, and then by the
card's only tooltip. -/
structure Document.DescribesSingleEffect (d : Document) (fs : List (Tier × Fact)) : Prop where
  isSome_iff : d.localization.description.isSome = true ↔ ∃ type, SingleEffect fs type
  only_tooltip : ∀ text, d.localization.description = some text →
    ∃ tip, d.localization.tooltips = [tip] ∧ tip.text = text
  /-- one line of a kind that is not active takes the description away -/
  other : ∀ e ∈ fs, e.2.extracted = true →
    e.2.type = .unmatched ∨ e.2.type = .cooldown ∨ e.2.type = .price →
      d.localization.description = none

namespace Card

variable {card : Card}

/-- The facts of a card have the categories of their kinds, so a single effect is of an active
kind. -/
theorem category_eq_active_of_singleEffect {type : FactType} (h : SingleEffect card.facts type) :
    type.category = .active := by
  obtain ⟨e, he, hx⟩ := h.stated
  obtain ⟨hc, rfl⟩ := h.active e he hx
  obtain ⟨text, htext⟩ := exists_text_of_mem_facts he
  rw [← hc, htext, category_classify]

theorem exists_tooltip_of_singleEffect {type : FactType} (h : SingleEffect card.facts type) :
    ∃ tip, card.table.document.localization.tooltips = [tip] := by
  have hstep := FactTable.document_tooltipsInStep card.facts
  refine List.length_eq_one_iff.mp ?_
  show (FactTable.empty.pushAll card.facts).document.localization.tooltips.length = 1
  rw [hstep.kept, ← List.length_map (·.entry), hstep.slot_entries,
    length_tooltipEntries_of_singleEffect h (category_eq_active_of_singleEffect h)]

/-- A card with a description has a single effect. -/
theorem exists_singleEffect_of_description {text : String}
    (h : card.table.document.localization.description = some text) :
    ∃ type, SingleEffect card.facts type := by
  obtain ⟨type, htype, -⟩ := Option.bind_eq_some_iff.mp h
  exact ⟨type, FactTable.soleActiveType_pushAll_eq_some_iff.mp htype⟩

/-- The description of a card with a single effect is the text of its tooltip. -/
theorem description_eq_of_singleEffect {type : FactType} (h : SingleEffect card.facts type)
    {tip : Tooltip} (htip : card.table.document.localization.tooltips = [tip]) :
    card.table.document.localization.description = some tip.text := by
  have hsole : card.table.soleActiveType = some type :=
    FactTable.soleActiveType_pushAll_eq_some_iff.mpr h
  show (card.table.soleActiveType.bind fun _ =>
    card.table.document.localization.tooltips.head?.map (·.text)) = _
  rw [hsole, htip]
  rfl

theorem compile_describesSingleEffect (card : Card) :
    card.compile.DescribesSingleEffect card.facts := by
  rw [compile_eq_document]
  refine ⟨⟨fun h => ?_, fun ⟨type, h⟩ => ?_⟩, fun text h => ?_, fun e he hx hother => ?_⟩
  · obtain ⟨text, htext⟩ := Option.isSome_iff_exists.mp h
    exact exists_singleEffect_of_description htext
  · obtain ⟨tip, htip⟩ := exists_tooltip_of_singleEffect h
    rw [description_eq_of_singleEffect h htip, Option.isSome_some]
  · obtain ⟨type, hs⟩ := exists_singleEffect_of_description h
    obtain ⟨tip, htip⟩ := exists_tooltip_of_singleEffect hs
    rw [description_eq_of_singleEffect hs htip] at h
    exact ⟨tip, htip, Option.some.inj h⟩
  · refine Option.eq_none_iff_forall_ne_some.mpr fun text h => ?_
    obtain ⟨type, hs⟩ := exists_singleEffect_of_description h
    have hactive := category_eq_active_of_singleEffect hs
    rw [← (hs.active e he hx).2] at hactive
    rcases hother with ht | ht | ht <;> rw [ht] at hactive <;> exact absurd hactive (by decide)

end Card

/-- **A card is described exactly if its lines are a single active effect**, and what is not
extracted does not matter to that. -/
theorem Document.description_of_singleEffect :
    (∀ fs type,
      (FactTable.empty.pushAll fs).soleActiveType = some type ↔ SingleEffect fs type) ∧
    (∀ fs, (FactTable.empty.pushAll (fs.filter (·.2.extracted))).soleActiveType =
      (FactTable.empty.pushAll fs).soleActiveType) ∧
    (∀ card : Card, card.compile.DescribesSingleEffect card.facts) ∧
    ∀ x y : Card, (∀ tier, x.extractedOn tier = y.extractedOn tier) →
      x.compile.localization.description = y.compile.localization.description := by
  refine ⟨fun fs type => FactTable.soleActiveType_pushAll_eq_some_iff,
    fun fs => FactTable.soleActiveType_eq_of_extractedAmong_eq (extractedAmong_filter fs),
    Card.compile_describesSingleEffect, fun x y h => ?_⟩
  have hagree : FactTable.Agree x.table y.table :=
    FactTable.agree_of_extractedAmong_eq fun tier => by
      rw [Card.extractedAmong_facts, Card.extractedAmong_facts, h]
  rw [Card.compile_eq_document, Card.compile_eq_document, FactTable.document_congr hagree]

end CardText
