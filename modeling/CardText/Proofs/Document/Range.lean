import CardText.Proofs.Catalog.Range
import CardText.Proofs.Document.Attributes

/-!
# The range and the unit of the numbers in a document

A tier's attributes are numbers of its lines, in seconds or in the unit of the line, and a few
numbers that the catalog fixes. All of them are in range, and those that the game counts in
milliseconds are whole seconds, whichever of several lines counts.

Results:

* `AttributeWrite.inRange_of_value?`: a number in range stays in range where it is written.
* `inRange_of_given?`, `wholeSeconds_of_cooldown`: what the lines that count give.
* `inRange_of_attribute?`, `wholeSeconds_of_attribute?`: the attributes of a tier.
* `FactTable.exists_aura_of_mem_auras`: an aura of a card is one that an entry makes.
* **`Document.numbers_sound`**: the numbers of every classified line and of every document.
-/

namespace CardText

namespace Attribute

/-- The attributes in milliseconds, which lines state in seconds. -/
def timed : List Attribute := [.cooldownMax, .hasteAmount, .chargeAmount]

/-- The attributes that only effects refer to. -/
def unstated : List Attribute := [.damageCrit, .shieldApplyAmount, .lifesteal, .ammoMax]

end Attribute

namespace AttributeWrite

/-- The number that a write sets whatever the line says. -/
def constant? (w : AttributeWrite) : Option Int :=
  match w.source with
  | .param _ _ => none
  | .constant n => some n

theorem inRange_of_mem_catalog :
    ∀ e ∈ catalog, ∀ w ∈ e.writes, ∀ n ∈ w.constant?, InRange n := by
  decide

/-- What a write sets is in range if the numbers of the fact are. -/
theorem inRange_of_value? {w : AttributeWrite} (hw : ∀ n ∈ w.constant?, InRange n) {f : Fact}
    (hf : ∀ p n, f.param p = some n → InRange n) {n : Int} (h : w.value? f = some n) :
    InRange n := by
  obtain ⟨slot, source⟩ := w
  cases source with
  | param p measure =>
    obtain ⟨m, hm, hn⟩ := Option.bind_eq_some_iff.mp h
    exact (hf p m hm).of_convert hn
  | constant c => exact hw n h

end AttributeWrite

namespace Card

variable {card : Card} {tier : Tier}

/-! ## The lines that count -/

theorem exists_text_of_lineOf? {type : FactType} {f : Fact} (h : card.lineOf? tier type = some f) :
    ∃ text, classify text = f ∧ f.type = type := by
  obtain ⟨-, -, text, -, hf, -, htype⟩ := mem_ofKind_iff.mp (mem_ofKind_of_lineOf? h)
  exact ⟨text, hf, htype⟩

theorem wholeSeconds_of_cooldown {n : Int} (h : card.number? tier .cooldown .amount = some n) :
    WholeSeconds n := by
  obtain ⟨f, hf, hn⟩ := Option.bind_eq_some_iff.mp h
  obtain ⟨text, rfl, htype⟩ := exists_text_of_lineOf? hf
  exact (wellFormed_classify text).cooldown htype n hn

theorem wholeSeconds_of_seconds {type : FactType} {p : FactParam} {n : Int}
    (h : (card.number? tier type p).bind millis? = some n) : WholeSeconds n := by
  obtain ⟨s, -, hn⟩ := Option.bind_eq_some_iff.mp h
  exact .of_millis? hn

/-! ## The attributes of a tier -/

/-- What a line gives an attribute is in range, whichever entry sets it. -/
theorem inRange_of_given? {a : Attribute} {e : Entry} (he : e ∈ catalog) {n : Int}
    (h : card.given? tier a e = some n) : InRange n := by
  obtain ⟨f, hf, hn⟩ := Option.bind_eq_some_iff.mp h
  obtain ⟨w, hw, hv⟩ := Option.bind_eq_some_iff.mp hn
  obtain ⟨text, rfl, -⟩ := exists_text_of_lineOf? hf
  exact AttributeWrite.inRange_of_value? (AttributeWrite.inRange_of_mem_catalog e he w
    (List.mem_of_find?_eq_some hw)) (wellFormed_classify text).inRange hv

/-- **Every attribute of a tier is in range.** -/
theorem inRange_of_attribute? {a : Attribute} {n : Int} (h : card.attribute? tier a = some n) :
    InRange n := by
  rw [← get?_attributes_table, get?_attributes] at h
  split_ifs at h
  · obtain rfl := Option.some.inj h
    decide
  · obtain rfl := Option.some.inj h
    decide
  · rw [get?_statedAttributes_table] at h
    obtain ⟨e, he, hgiven⟩ := List.exists_of_findSome?_eq_some h
    exact inRange_of_given? (List.mem_reverse.mp he) hgiven

theorem wholeSeconds_of_attribute? {a : Attribute} (ha : a ∈ Attribute.timed) {n : Int}
    (h : card.attribute? tier a = some n) : WholeSeconds n := by
  simp only [Attribute.timed, List.mem_cons, List.not_mem_nil, or_false] at ha
  rcases ha with rfl | rfl | rfl
  · exact wholeSeconds_of_cooldown h
  · exact wholeSeconds_of_seconds h
  · exact wholeSeconds_of_seconds h

theorem exists_buyPrice_of_has (h : card.Has tier .price) :
    ∃ n, card.number? tier .price .buyPrice = some n :=
  exists_number?_of_has (e := .price) (by simp [catalog]) h (by decide)

/-- The diamond tier has a price in any case. -/
theorem exists_buyPrice_diamond (card : Card) :
    ∃ n, card.attribute? .diamond .buyPrice = some n := by
  simp only [attribute?]
  split_ifs with hp
  · exact exists_buyPrice_of_has hp
  · exact ⟨_, rfl⟩

/-- A line that says what a card is sold for says what it costs. -/
theorem exists_buyPrice_of_sellPrice {n : Int} (h : card.attribute? tier .sellPrice = some n) :
    ∃ m, card.attribute? tier .buyPrice = some m := by
  have hp : card.Has tier .price := by
    by_contra hno
    rw [attribute?, number?_eq_none hno] at h
    cases h
  rw [attribute?, if_pos hp]
  exact exists_buyPrice_of_has hp

end Card

/-! ## Auras -/

namespace FactTable

/-- An aura of a card is one that an entry makes. -/
theorem exists_aura_of_mem_auras {t : FactTable} {x : EffectId × Aura}
    (h : x ∈ t.auras.entries) :
    ∃ e ∈ catalog, ∃ aura ∈ e.auras, x.2 = (aura t).numbered x.1 := by
  obtain ⟨⟨effect, i⟩, hi, heq⟩ := List.mem_map.mp
    (OrderedMap.mem_of_get?_ofList (OrderedMap.get?_eq_some_iff.mpr h))
  obtain ⟨hid, hx⟩ := Prod.mk.inj heq
  obtain ⟨e, he, heffect⟩ := List.mem_flatMap.mp
    (List.mem_of_getElem? (List.mem_zipIdx_iff_getElem?.mp hi))
  obtain ⟨aura, haura, rfl⟩ := List.mem_map.mp heffect
  exact ⟨e, List.mem_of_mem_filter he, aura, haura, by rw [← hx, ← hid]⟩

/-- No other aura changes cooldowns than the one that prolongs them. -/
theorem slot_of_aura : ∀ e ∈ catalog, ∀ aura ∈ e.auras,
    (aura .empty).slot = .cooldownMax → e.type = .enemyCooldownIncrease := by
  decide

theorem aura_eq_of_slot {e : Entry} (he : e ∈ catalog) {aura : FactTable → LastingEffect}
    (ha : aura ∈ e.auras) {t : FactTable} (h : (aura t).slot = .cooldownMax) :
    aura = .enemyCooldownIncrease := by
  rcases aura_eq_or_of_mem_catalog he ha with haura | hsame
  · exact haura
  · have htype := slot_of_aura e he aura ha (hsame .empty t ▸ h)
    obtain rfl : e = .enemyCooldownIncrease := eq_of_type_eq he (by simp [catalog]) htype
    exact List.mem_singleton.mp ha

end FactTable

/-- The number by which cooldowns get longer is a whole number of seconds in range. -/
theorem Card.exists_increase (card : Card) :
    ∃ n, (LastingEffect.enemyCooldownIncrease card.table).value = .fixed n ∧ InRange n ∧
      WholeSeconds n := by
  refine ⟨_, rfl, ?_⟩
  cases hn : (card.table.firstParam? .enemyCooldownIncrease .amount).bind millis? with
  | none => decide
  | some n =>
    obtain ⟨s, hs, hsn⟩ := Option.bind_eq_some_iff.mp hn
    obtain ⟨f, hf, hp⟩ := Option.bind_eq_some_iff.mp hs
    obtain ⟨tier, hfirst, -⟩ := FactTable.first?_eq_some_iff.mp hf
    rw [firstOn_table] at hfirst
    obtain ⟨-, -, text, -, rfl, -⟩ := mem_ofKind_iff.mp (List.mem_of_head? hfirst)
    have hrange := (wellFormed_classify text).inRange _ s hp
    exact ⟨hrange.of_millis? hsn, .of_millis? hsn⟩

/-! ## Documents -/

/-- The numbers of a card's document are in range and in the right unit. -/
structure Document.NumbersSound (d : Document) (card : Card) : Prop where
  inRange : ∀ e ∈ d.tiers.entries, ∀ a n, e.2.attributes.get? a = some n → InRange n
  wholeSeconds : ∀ e ∈ d.tiers.entries, ∀ a ∈ Attribute.timed, ∀ n,
    e.2.attributes.get? a = some n → WholeSeconds n
  unstated : ∀ e ∈ d.tiers.entries, ∀ a ∈ Attribute.unstated, e.2.attributes.get? a = none
  diamond : ∃ ct, d.tiers.get? .diamond = some ct ∧
    ∃ n, ct.attributes.get? .buyPrice = some n
  sold : ∀ e ∈ d.tiers.entries, ∀ n, e.2.attributes.get? .sellPrice = some n →
    ∃ m, e.2.attributes.get? .buyPrice = some m
  /-- the auras that change cooldowns are the one that prolongs them -/
  increase : ∀ x ∈ d.auras.entries, x.2.slot = .cooldownMax →
    x.2.toLastingEffect = .enemyCooldownIncrease card.table ∧
      ∃ n, x.2.value = .fixed n ∧ InRange n ∧ WholeSeconds n

theorem Card.numbersSound_compile (card : Card) : card.compile.NumbersSound card where
  inRange e he a n h := by
    rw [get?_attributes_of_mem_tiers he] at h
    exact inRange_of_attribute? h
  wholeSeconds e he a ha n h := by
    rw [get?_attributes_of_mem_tiers he] at h
    exact wholeSeconds_of_attribute? ha h
  unstated e he a ha := by
    rw [get?_attributes_of_mem_tiers he]
    have hnone : ∀ a ∈ Attribute.unstated, card.attribute? e.1 a = none := by
      simp only [Attribute.unstated, List.forall_mem_cons]
      exact ⟨rfl, rfl, rfl, rfl, fun _ h => absurd h List.not_mem_nil⟩
    exact hnone a ha
  diamond := by
    have hmem : Tier.diamond ∈ card.compile.availableTiers := by
      rw [availableTiers_compile, List.mem_filter]
      exact ⟨Tier.mem_all _, decide_eq_true (Or.inl rfl)⟩
    obtain ⟨⟨tier, ct⟩, hct, rfl⟩ := List.mem_map.mp hmem
    refine ⟨ct, OrderedMap.get?_eq_some_iff.mpr hct, ?_⟩
    rw [get?_attributes_of_mem_tiers hct]
    exact card.exists_buyPrice_diamond
  sold e he n h := by
    rw [get?_attributes_of_mem_tiers he] at h ⊢
    exact exists_buyPrice_of_sellPrice h
  increase x hx hslot := by
    rw [compile_eq_document] at hx
    obtain ⟨e, he, aura, ha, hxa⟩ := FactTable.exists_aura_of_mem_auras hx
    rw [hxa] at hslot ⊢
    obtain rfl := FactTable.aura_eq_of_slot he ha hslot
    exact ⟨rfl, card.exists_increase⟩

/-- **Every number is in range and in the right unit**: those of every classified text, and those
of the document of every card. -/
theorem Document.numbers_sound :
    (∀ text, (classify text).WellFormed text) ∧
      ∀ card : Card, card.compile.NumbersSound card :=
  ⟨wellFormed_classify, Card.numbersSound_compile⟩

end CardText
