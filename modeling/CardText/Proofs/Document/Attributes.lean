import CardText.Proofs.Catalog.Writes
import CardText.Proofs.Document.Summary
import CardText.Proofs.Document.Tiers

/-!
# The attributes of a tier

The attributes of a tier (`tier_attributes`) come from the lines that it has: of each kind one line
counts, the first one, or the last one of cooldowns and prices. Some attributes are set by lines of
several kinds, and two have a value where no line sets them.

Results:

* `exists_param_of_lineOf?`: a line that counts has every number of its kind.
* `get?_statedAttributes_table`: the last entry whose line gives an attribute a number decides it.
* **`get?_attributes_table`**: the value of every attribute on every tier.
* **`tiers_assembled`**: which tiers a card's document has, and what attributes they have.
-/

namespace CardText

namespace Card

/-! ## The lines that count -/

/-- The fact of a kind that counts on a tier: the first one in line order, of cooldowns and prices
the last one. -/
def lineOf? (card : Card) (tier : Tier) (type : FactType) : Option Fact :=
  if type = .cooldown ∨ type = .price then (card.ofKind tier type).getLast?
  else (card.ofKind tier type).head?

/-- A number of the line of a kind that counts on a tier. -/
def number? (card : Card) (tier : Tier) (type : FactType) (p : FactParam) : Option Int :=
  (card.lineOf? tier type).bind fun f => f.param p

variable {card : Card} {tier : Tier}

theorem has_iff {type : FactType} : card.Has tier type ↔ ∃ f, card.lineOf? tier type = some f := by
  unfold Has lineOf?
  rw [← Option.isSome_iff_exists]
  split
  · rw [List.getLast?_isSome]
  · rw [List.isSome_head?]

theorem lineOf?_eq_none {type : FactType} (h : ¬ card.Has tier type) :
    card.lineOf? tier type = none := by
  rw [has_iff, ← Option.isSome_iff_exists, Bool.not_eq_true, Option.isSome_eq_false_iff,
    Option.isNone_iff_eq_none] at h
  exact h

/-- The line that counts is one of the lines of its kind. -/
theorem mem_ofKind_of_lineOf? {type : FactType} {f : Fact} (h : card.lineOf? tier type = some f) :
    f ∈ card.ofKind tier type := by
  unfold lineOf? at h
  split at h
  · exact List.mem_of_getLast? h
  · exact List.mem_of_head? h

/-- **A line that counts has every number of its kind.** -/
theorem exists_param_of_lineOf? {e : Entry} (he : e ∈ catalog) {f : Fact}
    (h : card.lineOf? tier e.type = some f) {p : FactParam} (hp : p ∈ e.required) :
    ∃ n, f.param p = some n := by
  obtain ⟨-, -, text, -, rfl, hx, htype⟩ := mem_ofKind_iff.mp (mem_ofKind_of_lineOf? h)
  exact exists_param_of_extracted he htype hx hp

/-- So its number is there. -/
theorem exists_number?_of_has {e : Entry} (he : e ∈ catalog) (h : card.Has tier e.type)
    {p : FactParam} (hp : p ∈ e.required) : ∃ n, card.number? tier e.type p = some n := by
  obtain ⟨f, hf⟩ := has_iff.mp h
  obtain ⟨n, hn⟩ := exists_param_of_lineOf? he hf hp
  exact ⟨n, by rw [number?, hf, Option.bind_some, hn]⟩

theorem number?_eq_none {type : FactType} (h : ¬ card.Has tier type) (p : FactParam) :
    card.number? tier type p = none := by
  rw [number?, lineOf?_eq_none h, Option.bind_none]

/-! ## From the table to the lines -/

/-- An entry's attributes are set from the line of its kind that counts. -/
theorem tierFact?_table (card : Card) (tier : Tier) {e : Entry} (he : e ∈ catalog) :
    e.tierFact? card.table tier = card.lineOf? tier e.type := by
  have hlast := lastLineWins_iff_of_mem_catalog e he
  unfold Entry.tierFact? lineOf?
  rw [lastOn_table, firstOn_table]
  exact if_congr hlast rfl rfl

/-- The number that the line of an entry's kind gives an attribute of a tier. -/
def given? (card : Card) (tier : Tier) (a : Attribute) (e : Entry) : Option Int :=
  (card.lineOf? tier e.type).bind fun f => e.number? f a

/-- **The numbers of the lines that count**, entry by entry, the last of them first. -/
theorem get?_statedAttributes_table (card : Card) (tier : Tier) (a : Attribute) :
    (card.table.statedAttributes tier).get? a =
      catalog.reverse.findSome? (card.given? tier a) := by
  rw [FactTable.get?_statedAttributes, ← List.head?_filterMap, ← List.head?_filterMap]
  refine congrArg List.head? (List.filterMap_congr fun e he => ?_)
  rw [FactTable.numberOn?, tierFact?_table card tier (List.mem_reverse.mp he)]
  rfl

/-- Only the entries that may set an attribute are asked for it. -/
theorem get?_statedAttributes_of_writers (card : Card) (tier : Tier) (a : Attribute)
    (entries : List Entry) (h : (catalog.reverse.filter fun e => a ∈ e.slots) = entries) :
    (card.table.statedAttributes tier).get? a = entries.findSome? (card.given? tier a) := by
  rw [get?_statedAttributes_table, ← h, ← List.head?_filterMap, ← List.head?_filterMap,
    List.filterMap_filter]
  refine congrArg List.head? (List.filterMap_congr fun e _ => ?_)
  by_cases ha : a ∈ e.slots
  · simp [ha]
  · have hnone : card.given? tier a e = none := by
      unfold given?
      cases card.lineOf? tier e.type with
      | none => rfl
      | some f => exact Entry.number?_eq_none_of_not_mem ha f
    simp [ha, hnone]

/-! ## What a line gives -/

section Given

variable {a : Attribute} {e : Entry}

theorem given?_eq_none (h : ¬ card.Has tier e.type) : card.given? tier a e = none := by
  rw [given?, lineOf?_eq_none h, Option.bind_none]

theorem given?_ofParam {p : FactParam}
    (hw : e.writes.find? (·.slot = a) = some (.ofParam a p)) :
    card.given? tier a e = card.number? tier e.type p := by
  simp only [given?, number?, Entry.number?, hw, Option.bind_some, AttributeWrite.value?_ofParam]

theorem given?_ofSeconds {p : FactParam}
    (hw : e.writes.find? (·.slot = a) = some (.ofSeconds a p)) :
    card.given? tier a e = (card.number? tier e.type p).bind millis? := by
  simp only [given?, number?, Entry.number?, hw, Option.bind_some,
    AttributeWrite.value?_ofSeconds, Option.bind_assoc]

theorem given?_ofConstant {n : Int}
    (hw : e.writes.find? (·.slot = a) = some (.ofConstant a n)) :
    card.given? tier a e = if card.Has tier e.type then some n else none := by
  by_cases h : card.Has tier e.type
  · obtain ⟨f, hf⟩ := has_iff.mp h
    rw [if_pos h, given?, hf, Option.bind_some, Entry.number?, hw, Option.bind_some,
      AttributeWrite.value?_ofConstant]
  · rw [if_neg h, given?_eq_none h]

/-- An entry that sets an attribute whenever its kind has a line overrules those behind it. -/
theorem findSome?_given?_cons (entries : List Entry)
    (h : card.Has tier e.type → ∃ n, card.given? tier a e = some n) :
    (e :: entries).findSome? (card.given? tier a) =
      if card.Has tier e.type then card.given? tier a e
      else entries.findSome? (card.given? tier a) := by
  rw [List.findSome?_cons]
  split_ifs with hhas
  · obtain ⟨n, hn⟩ := h hhas
    rw [hn]
  · rw [given?_eq_none hhas]

theorem findSome?_given?_cons_ofParam (entries : List Entry) (he : e ∈ catalog) {p : FactParam}
    (hp : p ∈ e.required) (hw : e.writes.find? (·.slot = a) = some (.ofParam a p)) :
    (e :: entries).findSome? (card.given? tier a) =
      if card.Has tier e.type then card.number? tier e.type p
      else entries.findSome? (card.given? tier a) := by
  rw [findSome?_given?_cons entries fun h => by
    rw [given?_ofParam hw]
    exact exists_number?_of_has he h hp, given?_ofParam hw]

theorem findSome?_given?_cons_ofConstant (entries : List Entry) {n : Int}
    (hw : e.writes.find? (·.slot = a) = some (.ofConstant a n)) :
    (e :: entries).findSome? (card.given? tier a) =
      if card.Has tier e.type then some n else entries.findSome? (card.given? tier a) := by
  rw [findSome?_given?_cons entries fun h => ⟨n, by rw [given?_ofConstant hw, if_pos h]⟩,
    given?_ofConstant hw]
  split_ifs <;> rfl

/-- An attribute that one entry sets is what the line of its kind gives. -/
theorem get?_statedAttributes_of_writer (e : Entry)
    (h : (catalog.reverse.filter fun e => a ∈ e.slots) = [e]) :
    (card.table.statedAttributes tier).get? a = card.given? tier a e := by
  rw [get?_statedAttributes_of_writers card tier a [e] h, List.findSome?_singleton]

end Given

/-! ## Every attribute of a tier -/

/-- The value of an attribute on a tier, by the lines that count. -/
def attribute? (card : Card) (tier : Tier) : Attribute → Option Int
  | .multicast =>
    if (∃ other ∈ Tier.all, card.Has other .leftmostToolMulticast) ∨
        card.Has tier .combatDoubleItemValue then none
    else some 1
  | .cooldownMax => card.number? tier .cooldown .amount
  | .buyPrice =>
    if card.Has tier .price then card.number? tier .price .buyPrice
    else if tier = .diamond then some 40
    else none
  | .sellPrice => card.number? tier .price .sellPrice
  | .damageAmount => card.number? tier .damage .amount
  | .custom0 =>
    if card.Has tier .leftmostToolMulticast then card.number? tier .leftmostToolMulticast .amount
    else if card.Has tier .burn then some 0
    else if card.Has tier .weaponDamageBuff then card.number? tier .weaponDamageBuff .amount
    else if card.Has tier .shieldBuff then card.number? tier .shieldBuff .amount
    else card.number? tier .healTrigger .amount
  | .hasteAmount => (card.number? tier .weaponHaste .amount).bind millis?
  | .hasteTargets => if card.Has tier .weaponHaste then some 1 else none
  | .burnApplyAmount => card.number? tier .burn .amount
  | .reloadAmount =>
    if card.Has tier .toolUseReloadAdjacent then some 99
    else card.number? tier .freezeReloadWeapon .amount
  | .reloadTargets =>
    if card.Has tier .toolUseReloadAdjacent ∨ card.Has tier .freezeReloadWeapon then some 1
    else none
  | .chargeAmount => (card.number? tier .slowChargeItem .amount).bind millis?
  | .chargeTargets => card.number? tier .slowChargeItem .targets
  | .damageCrit | .shieldApplyAmount | .lifesteal | .ammoMax => none

/-- The value of an attribute that the lines of a tier set. -/
theorem get?_statedAttributes_eq (card : Card) (tier : Tier) (a : Attribute)
    (hm : a ≠ .multicast) (hb : a ≠ .buyPrice) :
    (card.table.statedAttributes tier).get? a = card.attribute? tier a := by
  -- by the entries that set the attribute, in the order in which they overrule each other
  cases a with
  | multicast => exact absurd rfl hm
  | buyPrice => exact absurd rfl hb
  | cooldownMax => exact (get?_statedAttributes_of_writer .cooldown rfl).trans (given?_ofParam rfl)
  | sellPrice => exact (get?_statedAttributes_of_writer .price rfl).trans (given?_ofParam rfl)
  | damageAmount => exact (get?_statedAttributes_of_writer .damage rfl).trans (given?_ofParam rfl)
  | custom0 =>
    rw [get?_statedAttributes_of_writers card tier _
        [.leftmostToolMulticast, .burn, .weaponDamageBuff, .shieldBuff, .healTrigger] rfl,
      findSome?_given?_cons_ofParam _ (by simp [catalog]) List.mem_cons_self rfl,
      findSome?_given?_cons_ofConstant _ rfl,
      findSome?_given?_cons_ofParam _ (by simp [catalog]) List.mem_cons_self rfl,
      findSome?_given?_cons_ofParam _ (by simp [catalog]) List.mem_cons_self rfl,
      List.findSome?_singleton, given?_ofParam rfl]
    rfl
  | hasteAmount =>
    exact (get?_statedAttributes_of_writer .weaponHaste rfl).trans (given?_ofSeconds rfl)
  | hasteTargets =>
    exact (get?_statedAttributes_of_writer .weaponHaste rfl).trans (given?_ofConstant rfl)
  | burnApplyAmount => exact (get?_statedAttributes_of_writer .burn rfl).trans (given?_ofParam rfl)
  | reloadAmount =>
    rw [get?_statedAttributes_of_writers card tier _
        [.toolUseReloadAdjacent, .freezeReloadWeapon] rfl,
      findSome?_given?_cons_ofConstant _ rfl, List.findSome?_singleton, given?_ofParam rfl]
    rfl
  | reloadTargets =>
    rw [get?_statedAttributes_of_writers card tier _
        [.toolUseReloadAdjacent, .freezeReloadWeapon] rfl,
      findSome?_given?_cons_ofConstant _ rfl, List.findSome?_singleton, given?_ofConstant rfl,
      attribute?, ite_or]
    rfl
  | chargeAmount =>
    exact (get?_statedAttributes_of_writer .slowChargeItem rfl).trans (given?_ofSeconds rfl)
  | chargeTargets =>
    exact (get?_statedAttributes_of_writer .slowChargeItem rfl).trans (given?_ofParam rfl)
  | damageCrit | shieldApplyAmount | lifesteal | ammoMax =>
    rw [get?_statedAttributes_of_writers card tier _ [] rfl]
    rfl

/-! ## What holds where no line says otherwise -/

/-- How often a tier acts, and what the diamond tier costs, where no line says otherwise. -/
theorem get?_attributes (t : FactTable) (tier : Tier) (a : Attribute) :
    (t.attributes tier).get? a =
      if a = .multicast ∧ ¬ t.contains .leftmostToolMulticast ∧
          ¬ t.presentOn .combatDoubleItemValue tier then some Document.defaultMulticast
      else if a = .buyPrice ∧ tier = .diamond ∧ ¬ t.presentOn .price tier then
        some Document.defaultDiamondBuyPrice
      else (t.statedAttributes tier).get? a := by
  simp only [FactTable.attributes]
  rw [OrderedMap.get?_ite_insert, OrderedMap.get?_ite_insert]

/-- A tier acts once unless a line on multicast or on values says otherwise. -/
theorem get?_multicast_table (card : Card) (tier : Tier) :
    (card.table.attributes tier).get? .multicast = card.attribute? tier .multicast := by
  -- no entry sets it, so only the value that it has by default is left
  have hnone : (card.table.statedAttributes tier).get? .multicast = none :=
    get?_statedAttributes_of_writers card tier _ [] rfl
  have hsaid : (∃ other ∈ Tier.all, card.Has other .leftmostToolMulticast) ∨
      card.Has tier .combatDoubleItemValue ↔
        card.table.contains .leftmostToolMulticast = true ∨
          card.table.presentOn .combatDoubleItemValue tier = true := by
    rw [contains_table_iff, presentOn_table_iff]
    exact or_congr ⟨fun ⟨other, _, h⟩ => ⟨other, h⟩,
      fun ⟨other, h⟩ => ⟨other, Tier.mem_all other, h⟩⟩ Iff.rfl
  rw [get?_attributes, attribute?, hnone]
  by_cases h : card.table.contains .leftmostToolMulticast = true ∨
      card.table.presentOn .combatDoubleItemValue tier = true
  · rw [if_pos (hsaid.mpr h), if_neg fun h' => h.elim h'.2.1 h'.2.2, if_neg fun h' => ?_]
    exact absurd h'.1 (by decide)
  · rw [if_neg (mt hsaid.mp h), if_pos ⟨rfl, not_or.mp h⟩]
    rfl

/-- The diamond tier has a price unless a line states one. -/
theorem get?_buyPrice_table (card : Card) (tier : Tier) :
    (card.table.attributes tier).get? .buyPrice = card.attribute? tier .buyPrice := by
  have hgiven : (card.table.statedAttributes tier).get? .buyPrice =
      card.number? tier .price .buyPrice :=
    (get?_statedAttributes_of_writer .price rfl).trans (given?_ofParam rfl)
  rw [get?_attributes, attribute?, hgiven, if_neg fun h => absurd h.1 (by decide)]
  by_cases hp : card.Has tier .price
  · rw [if_pos hp, if_neg fun h => h.2.2 ((presentOn_table_iff card .price tier).mpr hp)]
  · rw [if_neg hp, number?_eq_none hp]
    refine if_congr ⟨fun h => h.2.1, fun h => ⟨rfl, h, ?_⟩⟩ rfl rfl
    rwa [presentOn_table_iff]

/-- **The value of every attribute on every tier.** -/
theorem get?_attributes_table (card : Card) (tier : Tier) (a : Attribute) :
    (card.table.attributes tier).get? a = card.attribute? tier a := by
  by_cases hm : a = .multicast
  · rw [hm, get?_multicast_table]
  · by_cases hb : a = .buyPrice
    · rw [hb, get?_buyPrice_table]
    · rw [get?_attributes, if_neg fun h => hm h.1, if_neg fun h => hb h.1,
        get?_statedAttributes_eq card tier a hm hb]

/-- The attributes of a tier of the document are those of the table. -/
theorem attributes_of_mem_tiers {e : Tier × CardTier} (he : e ∈ card.compile.tiers.entries) :
    e.2.attributes = card.table.attributes e.1 := by
  rw [compile_eq_document] at he
  rw [(FactTable.mem_tiers_document.mp he).2]
  rfl

theorem get?_attributes_of_mem_tiers {e : Tier × CardTier}
    (he : e ∈ card.compile.tiers.entries) (a : Attribute) :
    e.2.attributes.get? a = card.attribute? e.1 a := by
  rw [attributes_of_mem_tiers he, get?_attributes_table]

/-- The tiers of a card's document, in their order. -/
theorem availableTiers_compile (card : Card) : card.compile.availableTiers =
    Tier.all.filter fun tier => tier = .diamond ∨ card.extractedOn tier ≠ [] := by
  rw [compile_eq_document, FactTable.availableTiers_document]
  refine List.filter_congr fun tier _ => ?_
  rw [Bool.eq_iff_iff, Bool.or_eq_true, tierPresent_table_iff]
  simp only [decide_eq_true_eq]

end Card

/-! ## Documents -/

/-- A document has the tiers of a card, and they have the attributes that its lines give them. -/
structure Document.TiersAssembled (d : Document) (card : Card) : Prop where
  /-- the diamond tier and those with an extracted fact, in their order -/
  tiers : d.availableTiers =
    Tier.all.filter fun tier => tier = .diamond ∨ card.extractedOn tier ≠ []
  attributes : ∀ e ∈ d.tiers.entries, ∀ a, e.2.attributes.get? a = card.attribute? e.1 a
  /-- a line that counts has every number of its kind -/
  numbers : ∀ tier, ∀ e ∈ catalog, card.Has tier e.type → ∀ p ∈ e.required,
    ∃ n, card.number? tier e.type p = some n

/-- **How the tiers of a card are assembled.** -/
theorem Document.tiers_assembled (card : Card) : card.compile.TiersAssembled card where
  tiers := Card.availableTiers_compile card
  attributes _ he := Card.get?_attributes_of_mem_tiers he
  numbers _ _ he h _ hp := Card.exists_number?_of_has he h hp

end CardText
