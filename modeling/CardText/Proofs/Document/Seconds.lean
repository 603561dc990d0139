import CardText.Proofs.Document.Numbering
import CardText.Proofs.Document.Range

/-!
# Seconds of lines, milliseconds of cards

A line states seconds and a card counts milliseconds (`seconds_to_millis`). Of a cooldown the
milliseconds are what is read, so a cooldown too long to count is not extracted. Haste, charges and
longer cooldowns are read in seconds, and only what they set is in milliseconds; the line counts
whether or not these fit.

Results:

* `Card.attributes_of_hasteLine`, `Card.attributes_of_chargeLine`: what such a line sets.
* `Card.value_of_increase`: by how much cooldowns get longer.
* **`Document.seconds_converted`**: seconds become milliseconds wherever these fit, and longer
  cooldowns get a second longer where they do not.
* `Document.not_secondsKept_longIncrease`: not all seconds are kept.
-/

namespace CardText

namespace Card

variable {card : Card} {tier : Tier} {type : FactType} {f : Fact} {n : Int}

/-- The first extracted fact of a kind on the lowest tier that has one. -/
def first? (card : Card) (type : FactType) : Option Fact :=
  Tier.all.findSome? fun tier => (card.ofKind tier type).head?

theorem first?_table (card : Card) (type : FactType) : card.table.first? type = card.first? type :=
  congrArg Tier.all.findSome? (funext fun tier => firstOn_table card type tier)

theorem mem_ofKind_of_first? (h : card.first? type = some f) :
    ∃ tier, f ∈ card.ofKind tier type := by
  obtain ⟨tier, -, hf⟩ := List.exists_of_findSome?_eq_some h
  exact ⟨tier, List.mem_of_head? hf⟩

/-- A number of a line is in range. -/
theorem inRange_of_mem_ofKind {p : FactParam} (hf : f ∈ card.ofKind tier type)
    (hn : f.param p = some n) : InRange n := by
  obtain ⟨-, -, text, -, rfl, -⟩ := mem_ofKind_iff.mp hf
  exact (wellFormed_classify text).inRange p n hn

/-- A tier with a line of some kind is a tier of the document. -/
theorem exists_tier_of_mem_ofKind (hf : f ∈ card.ofKind tier type) :
    ∃ ct, card.compile.tiers.get? tier = some ct ∧
      ∀ a, ct.attributes.get? a = card.attribute? tier a := by
  have hmem : tier ∈ card.compile.availableTiers := by
    rw [availableTiers_compile, List.mem_filter]
    refine ⟨Tier.mem_all tier, decide_eq_true (.inr ?_)⟩
    exact List.ne_nil_of_mem (List.mem_of_mem_filter hf)
  obtain ⟨⟨tier, ct⟩, hct, rfl⟩ := List.mem_map.mp hmem
  exact ⟨ct, OrderedMap.get?_eq_some_iff.mpr hct, get?_attributes_of_mem_tiers hct⟩

/-- Of most kinds the first line of a tier counts. -/
theorem lineOf?_of_head? (hc : type ≠ .cooldown) (hp : type ≠ .price)
    (h : (card.ofKind tier type).head? = some f) : card.lineOf? tier type = some f := by
  rw [lineOf?, if_neg (not_or.mpr ⟨hc, hp⟩), h]

theorem number?_of_lineOf? (h : card.lineOf? tier type = some f) (p : FactParam) :
    card.number? tier type p = f.param p := by
  rw [number?, h, Option.bind_some]

/-! ## Haste and charges -/

theorem attributes_of_hasteLine (h : (card.ofKind tier .weaponHaste).head? = some f)
    (hn : f.amount = some n) (hfit : 1000 * n ≤ Text.maxNumber) :
    ∃ ct, card.compile.tiers.get? tier = some ct ∧
      ct.attributes.get? .hasteAmount = some (1000 * n) ∧
      ct.attributes.get? .hasteTargets = some 1 := by
  have hf := List.mem_of_head? h
  obtain ⟨ct, hct, hvalue⟩ := exists_tier_of_mem_ofKind hf
  have hnumber := number?_of_lineOf? (lineOf?_of_head? (by decide) (by decide) h) .amount
  refine ⟨ct, hct, ?_, ?_⟩
  · rw [hvalue, attribute?, hnumber, show f.param .amount = some n from hn, Option.bind_some,
      millis?_of_inRange (inRange_of_mem_ofKind hf hn), if_pos hfit]
  · have hhas : card.Has tier .weaponHaste := List.ne_nil_of_mem hf
    rw [hvalue, attribute?, if_pos hhas]

theorem attributes_of_chargeLine (h : (card.ofKind tier .slowChargeItem).head? = some f)
    (hn : f.amount = some n) (hfit : 1000 * n ≤ Text.maxNumber) :
    ∃ ct, card.compile.tiers.get? tier = some ct ∧
      ct.attributes.get? .chargeAmount = some (1000 * n) ∧
      ∃ k, f.param .targets = some k ∧ ct.attributes.get? .chargeTargets = some k := by
  have hf := List.mem_of_head? h
  obtain ⟨ct, hct, hvalue⟩ := exists_tier_of_mem_ofKind hf
  have hline := lineOf?_of_head? (by decide) (by decide) h
  obtain ⟨k, hk⟩ := exists_param_of_lineOf? (e := .slowChargeItem) (by simp [catalog]) hline
    (p := .targets) (by decide)
  refine ⟨ct, hct, ?_, k, hk, ?_⟩
  · rw [hvalue, attribute?, number?_of_lineOf? hline, show f.param .amount = some n from hn,
      Option.bind_some, millis?_of_inRange (inRange_of_mem_ofKind hf hn), if_pos hfit]
  · rw [hvalue, attribute?, number?_of_lineOf? hline, hk]

/-! ## Longer cooldowns -/

/-- A card with a line on longer cooldowns has the aura for them. -/
theorem exists_increase_mem_auras (hf : f ∈ card.ofKind tier .enemyCooldownIncrease) :
    ∃ x ∈ card.compile.auras.entries,
      x.2.toLastingEffect = .enemyCooldownIncrease card.table := by
  obtain ⟨hmem, htype⟩ := List.mem_filter.mp hf
  obtain ⟨hfact, hx⟩ := mem_extractedOn_iff.mp hmem
  have hbuilt : Entry.enemyCooldownIncrease.BuiltBy card.facts :=
    ⟨⟨_, hfact, hx, of_decide_eq_true htype⟩, fun _ h => absurd h List.not_mem_nil⟩
  obtain ⟨k, -, hk⟩ := (FactTable.auras_blocks card.facts).block (catalog.take 18)
    .enemyCooldownIncrease (catalog.drop 19) rfl hbuilt 0 .enemyCooldownIncrease rfl
  rw [compile_eq_document]
  exact ⟨_, OrderedMap.get?_eq_some_iff.mp hk, rfl⟩

/-- **By how much cooldowns get longer**: by the seconds of the first line, or by one second. -/
theorem value_of_increase (h : card.first? .enemyCooldownIncrease = some f)
    (hn : f.amount = some n) : (LastingEffect.enemyCooldownIncrease card.table).value =
      .fixed (if 1000 * n ≤ Text.maxNumber then 1000 * n else 1000) := by
  obtain ⟨tier, hf⟩ := mem_ofKind_of_first? h
  have hparam : card.table.firstParam? .enemyCooldownIncrease .amount = some n := by
    rw [FactTable.firstParam?, first?_table, h, Option.bind_some]
    exact hn
  show Quantity.fixed (((card.table.firstParam? .enemyCooldownIncrease .amount).bind
    millis?).getD LastingEffect.defaultCooldownIncrease) = _
  rw [hparam, Option.bind_some, millis?_of_inRange (inRange_of_mem_ofKind hf hn)]
  split_ifs <;> rfl

end Card

/-! ## Cooldowns -/

/-- A cooldown counts if its milliseconds fit, and then they are what is read. -/
theorem classify_cooldown {text : String} (h : (classify text).type = .cooldown) :
    ((classify text).extracted = true ↔
      ∃ s, Pattern.cooldownSeconds.capture 1 text = some s ∧ 1000 * s ≤ Text.maxNumber) ∧
    ∀ n, (classify text).amount = some n →
      ∃ s, Pattern.cooldownSeconds.capture 1 text = some s ∧ n = 1000 * s := by
  have he : Entry.cooldown ∈ catalog := by simp [catalog]
  have hvalue : ∀ n, (classify text).amount = some n ↔
      ∃ s, Pattern.cooldownSeconds.capture 1 text = some s ∧ millis? s = some n := by
    intro n
    rw [classify_eq_fact he h]
    have hparam : (Entry.cooldown.fact text).param .amount =
        Reading.value? ⟨.amount, .cooldownSeconds, 1, .seconds⟩ text :=
      Entry.param_fact_of_mem he List.mem_cons_self
    rw [Fact.amount, hparam, Reading.value?, Option.bind_eq_some_iff]
    rfl
  constructor
  · have hrequired : (classify text).extracted = true ↔ ∃ n, (classify text).amount = some n := by
      rw [classify_eq_fact he h, Entry.extracted_fact_iff]
      simp [Entry.required, Entry.cooldown, Fact.amount]
    rw [hrequired]
    constructor
    · rintro ⟨n, hn⟩
      obtain ⟨s, hs, hsn⟩ := (hvalue n).mp hn
      rw [millis?_of_inRange (.of_capture hs), Option.ite_none_right_eq_some] at hsn
      exact ⟨s, hs, hsn.1⟩
    · rintro ⟨s, hs, hfit⟩
      refine ⟨1000 * s, (hvalue _).mpr ⟨s, hs, ?_⟩⟩
      rw [millis?_of_inRange (.of_capture hs), if_pos hfit]
  · intro n hn
    obtain ⟨s, hs, hsn⟩ := (hvalue n).mp hn
    rw [millis?_of_inRange (.of_capture hs), Option.ite_none_right_eq_some,
      Option.some.injEq] at hsn
    exact ⟨s, hs, hsn.2.symm⟩

/-! ## Documents -/

/-- The document has the seconds of the card's lines in milliseconds, as long as they are such as
`Fit` says. -/
structure Document.SecondsKept (d : Document) (card : Card) (Fit : Int → Prop) : Prop where
  haste : ∀ tier f n, (card.ofKind tier .weaponHaste).head? = some f → f.amount = some n →
    Fit n → ∃ ct, d.tiers.get? tier = some ct ∧
      ct.attributes.get? .hasteAmount = some (1000 * n) ∧
      ct.attributes.get? .hasteTargets = some 1
  charge : ∀ tier f n, (card.ofKind tier .slowChargeItem).head? = some f → f.amount = some n →
    Fit n → ∃ ct, d.tiers.get? tier = some ct ∧
      ct.attributes.get? .chargeAmount = some (1000 * n) ∧
      ∃ k, f.param .targets = some k ∧ ct.attributes.get? .chargeTargets = some k
  increase : ∀ f n, card.first? .enemyCooldownIncrease = some f → f.amount = some n →
    Fit n → (∃ x ∈ d.auras.entries, x.2.slot = .cooldownMax) ∧
      ∀ x ∈ d.auras.entries, x.2.slot = .cooldownMax → x.2.value = .fixed (1000 * n)

/-- Cooldowns get a second longer if the first line states more than fits. -/
def Document.IncreasesByDefault (d : Document) (card : Card) : Prop :=
  ∀ f n, card.first? .enemyCooldownIncrease = some f → f.amount = some n →
    Text.maxNumber < 1000 * n → (∃ x ∈ d.auras.entries, x.2.slot = .cooldownMax) ∧
      ∀ x ∈ d.auras.entries, x.2.slot = .cooldownMax → x.2.value = .fixed 1000

theorem Card.increase_compile {card : Card} {f : Fact} {n : Int}
    (h : card.first? .enemyCooldownIncrease = some f) (hn : f.amount = some n) :
    (∃ x ∈ card.compile.auras.entries, x.2.slot = .cooldownMax) ∧
      ∀ x ∈ card.compile.auras.entries, x.2.slot = .cooldownMax →
        x.2.value = .fixed (if 1000 * n ≤ Text.maxNumber then 1000 * n else 1000) := by
  obtain ⟨tier, hf⟩ := mem_ofKind_of_first? h
  constructor
  · obtain ⟨x, hx, heffect⟩ := exists_increase_mem_auras hf
    exact ⟨x, hx, by rw [heffect]; rfl⟩
  · intro x hx hslot
    rw [((numbersSound_compile card).increase x hx hslot).1, value_of_increase h hn]

/-- **Seconds become milliseconds wherever these fit.** -/
theorem Document.seconds_converted :
    (∀ text, (classify text).type = .cooldown →
      ((classify text).extracted = true ↔
        ∃ s, Pattern.cooldownSeconds.capture 1 text = some s ∧ 1000 * s ≤ Text.maxNumber) ∧
      ∀ n, (classify text).amount = some n →
        ∃ s, Pattern.cooldownSeconds.capture 1 text = some s ∧ n = 1000 * s) ∧
    ∀ card : Card, card.compile.SecondsKept card (fun n => 1000 * n ≤ Text.maxNumber) ∧
      card.compile.IncreasesByDefault card := by
  refine ⟨fun _ => classify_cooldown, fun card => ⟨⟨?_, ?_, ?_⟩, ?_⟩⟩
  · exact fun _ _ _ => Card.attributes_of_hasteLine
  · exact fun _ _ _ => Card.attributes_of_chargeLine
  · intro f n h hn hfit
    have hincrease := Card.increase_compile h hn
    rwa [if_pos hfit] at hincrease
  · intro f n h hn hlong
    have hincrease := Card.increase_compile h hn
    rwa [if_neg (Int.not_le.mpr hlong)] at hincrease

/-- A card with a line on longer cooldowns that states more seconds than fit. -/
def Card.longIncrease : Card :=
  [.ofList [(.gold, "Enemy cooldowns are increased by 9223372036854776 seconds.")]]

/-- It makes cooldowns longer by one second, not by those that it states. -/
theorem Document.not_secondsKept_longIncrease :
    ¬ Card.longIncrease.compile.SecondsKept Card.longIncrease fun _ => True := by
  intro hkept
  have hamount : (Card.longIncrease.first? .enemyCooldownIncrease).bind (·.amount) =
      some 9223372036854776 := by decide +kernel
  obtain ⟨f, hf, hn⟩ := Option.bind_eq_some_iff.mp hamount
  obtain ⟨⟨x, hx, hslot⟩, hvalue⟩ := hkept.increase f _ hf hn trivial
  have hdefault := (Card.increase_compile hf hn).2 x hx hslot
  rw [hvalue x hx hslot, if_neg (by decide)] at hdefault
  exact absurd (Quantity.fixed.inj hdefault) (by decide)

end CardText
