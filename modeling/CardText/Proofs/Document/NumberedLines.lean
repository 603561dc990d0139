import CardText.Proofs.Catalog.NumberedLines
import CardText.Proofs.Document.Seconds

/-!
# What a numbered line gives a tier

On a tier that says nothing but one numbered line, the attributes are those that the line sets, in
the units of the card, and those that a tier has where no line sets them. A line on longer cooldowns
sets none; its number is the value of the card's aura.

Results:

* `Card.get?_statedAttributes_of_alone`: the line of a tier with one line is the one that counts.
* `Wording.write_fact`: what each line sets.
* `Wording.attribute?_of_alone`: every attribute of a tier with one numbered line.
* **`Wording.read_back`**: every numbered line is read back, whatever its numbers are.
-/

namespace CardText

/-- The first value in a list is that of the only member that may have one. -/
theorem findSome?_eq_of_forall_ne {α β : Type} {g : α → Option β} {x : α} :
    ∀ {l : List α}, x ∈ l → (∀ y ∈ l, y ≠ x → g y = none) → l.findSome? g = g x
  | [], hx, _ => absurd hx List.not_mem_nil
  | y :: l, hx, hothers => by
    rw [List.forall_mem_cons] at hothers
    rw [List.findSome?_cons]
    cases hy : g y with
    | some v =>
      obtain rfl : y = x := by
        by_contra hne
        rw [hothers.1 hne] at hy
        cases hy
      exact hy.symm
    | none =>
      by_cases hl : x ∈ l
      · exact findSome?_eq_of_forall_ne hl hothers.2
      · obtain rfl := (List.mem_cons.mp hx).resolve_right hl
        rw [hy, List.findSome?_eq_none_iff]
        exact fun z hz => hothers.2 z hz fun h => hl (h ▸ hz)

namespace Card

variable {card : Card} {tier : Tier} {f : Fact}

/-! ## Tiers with one line -/

theorem extractedOn_of_textsOn {text : String} (h : card.textsOn tier = [text])
    (hx : (classify text).extracted = true) : card.extractedOn tier = [classify text] := by
  rw [extractedOn, h, List.map_singleton, List.filter_cons_of_pos hx, List.filter_nil]

theorem ofKind_of_alone (h : card.extractedOn tier = [f]) (type : FactType) :
    card.ofKind tier type = if f.type = type then [f] else [] := by
  rw [ofKind, h, List.filter_singleton]
  by_cases htype : f.type = type <;> simp [htype]

theorem has_iff_of_alone (h : card.extractedOn tier = [f]) {type : FactType} :
    card.Has tier type ↔ f.type = type := by
  rw [Has, ofKind_of_alone h]
  split_ifs with htype <;> simp [htype]

theorem lineOf?_of_alone (h : card.extractedOn tier = [f]) : card.lineOf? tier f.type = some f := by
  rw [lineOf?, ofKind_of_alone h, if_pos rfl]
  exact ite_self _

/-- **The line of a tier with one line is the one that counts.** -/
theorem get?_statedAttributes_of_alone (h : card.extractedOn tier = [f]) {e : Entry}
    (he : e ∈ catalog) (htype : f.type = e.type) (a : Attribute) :
    (card.table.statedAttributes tier).get? a = e.number? f a := by
  rw [get?_statedAttributes_table,
    findSome?_eq_of_forall_ne (List.mem_reverse.mpr he) fun e' he' hne => ?_, given?, ← htype,
    lineOf?_of_alone h, Option.bind_some]
  refine given?_eq_none fun hhas => hne ?_
  exact eq_of_type_eq (List.mem_reverse.mp he') he (((has_iff_of_alone h).mp hhas).symm.trans htype)

/-- What an attribute of a tier is where no line of the tier sets it: a tier acts once unless some
tier has a line on more casts, and the diamond tier has a price. -/
def unset? (card : Card) (tier : Tier) : Attribute → Option Int
  | .multicast => if ∃ other ∈ Tier.all, card.Has other .leftmostToolMulticast then none else some 1
  | .buyPrice => if tier = .diamond then some 40 else none
  | _ => none

end Card

namespace Wording

variable {w : Wording} {n m : Nat} {card : Card} {tier : Tier}

/-! ## Attributes -/

/-- The attributes that a line sets, in the units of the card. -/
def sets (w : Wording) (n m : Nat) : List (Attribute × Int) :=
  match w with
  | cooldown => inMillis .cooldownMax n
  | price => [(.buyPrice, n), (.sellPrice, m)]
  | damage => [(.damageAmount, n)]
  | healTrigger | shieldBuff | weaponDamageBuff | leftmostToolMulticast => [(.custom0, n)]
  | weaponHaste => (.hasteTargets, 1) :: inMillis .hasteAmount n
  | burn => [(.burnApplyAmount, n), (.custom0, 0)]
  | freezeReloadWeapon => [(.reloadAmount, n), (.reloadTargets, 1)]
  | slowChargeItem => (.chargeTargets, m) :: inMillis .chargeAmount n
  | enemyCooldownIncrease => []

/-- Seconds that a fact states are set in milliseconds, if these fit. -/
theorem apply_ofSeconds {slot : Attribute} {p : FactParam} {f : Fact} {bag : Attributes}
    (hn : n ≤ Text.maxNumber) (hp : f.param p = some (n : Int)) :
    (AttributeWrite.ofSeconds slot p).apply f bag = bag.insertAll (inMillis slot n) := by
  rw [AttributeWrite.apply, AttributeWrite.value?_ofSeconds, hp, Option.bind_some,
    inMillis_eq _ hn]
  cases millis? n <;> rfl

/-- **What the entry of a line writes** is what the line sets. -/
theorem write_fact (w : Wording) (m : Nat) (hn : n ≤ Text.maxNumber) :
    w.entry.write (w.fact n m) .empty = .ofList (w.sets n m) := by
  cases w with
  | cooldown =>
    by_cases hfit : 1000 * n ≤ Text.maxNumber
    · simp only [sets, fact, params, inMillis, if_pos hfit]
      rfl
    · simp only [sets, fact, params, inMillis, if_neg hfit]
      rfl
  | weaponHaste =>
    show (AttributeWrite.ofConstant .hasteTargets 1).apply (fact .weaponHaste n m)
      ((AttributeWrite.ofSeconds .hasteAmount .amount).apply (fact .weaponHaste n m) .empty) = _
    rw [apply_ofSeconds hn rfl, sets, inMillis]
    split <;> rfl
  | slowChargeItem =>
    show (AttributeWrite.ofParam .chargeTargets .targets).apply (fact .slowChargeItem n m)
      ((AttributeWrite.ofSeconds .chargeAmount .amount).apply (fact .slowChargeItem n m) .empty) = _
    rw [apply_ofSeconds hn rfl, sets, inMillis]
    split <;> rfl
  | _ => rfl

/-- No entry sets how often a tier acts, and only the one for prices sets what it costs. -/
theorem multicast_not_mem_slots : ∀ e ∈ catalog, .multicast ∉ e.slots ∧
    (e.type ≠ .price → .buyPrice ∉ e.slots) := by decide

theorem type_ne_combatDoubleItemValue (w : Wording) : w.type ≠ .combatDoubleItemValue := by
  cases w <;> decide

theorem eq_price_of_type (w : Wording) : w.type = .price → w = .price := by cases w <;> decide

theorem number?_fact (w : Wording) (m : Nat) (hn : n ≤ Text.maxNumber) (a : Attribute) :
    w.entry.number? (w.fact n m) a = (OrderedMap.ofList (w.sets n m)).get? a := by
  rw [← write_fact w m hn, Entry.get?_write_empty w.entry_mem_catalog]

/-- **Every attribute of a tier with one numbered line.** -/
theorem attribute?_of_alone (hn : n ≤ Text.maxNumber) (h : card.extractedOn tier = [w.fact n m])
    (a : Attribute) : card.attribute? tier a =
      ((OrderedMap.ofList (w.sets n m)).get? a).or (card.unset? tier a) := by
  obtain ⟨hmulticast, hprice⟩ := multicast_not_mem_slots _ w.entry_mem_catalog
  rw [← number?_fact w m hn]
  by_cases hm : a = .multicast
  · have hdouble : ¬ card.Has tier .combatDoubleItemValue := by
      rw [Card.has_iff_of_alone h]
      exact w.type_ne_combatDoubleItemValue
    rw [hm, Entry.number?_eq_none_of_not_mem hmulticast, Option.none_or]
    exact if_congr (or_iff_left hdouble) rfl rfl
  by_cases hb : a = .buyPrice
  · rw [hb, Card.attribute?]
    by_cases hw : w = .price
    · subst hw
      have hhas : card.Has tier .price := (Card.has_iff_of_alone h).mpr rfl
      rw [if_pos hhas]
      exact Card.number?_of_lineOf? (Card.lineOf?_of_alone h) .buyPrice
    · have hhas : ¬ card.Has tier .price := by
        rw [Card.has_iff_of_alone h]
        exact fun htype => hw (w.eq_price_of_type htype)
      rw [if_neg hhas, Entry.number?_eq_none_of_not_mem (hprice fun htype => hw ?_),
        Option.none_or]
      · rfl
      · exact w.eq_price_of_type (w.type_entry ▸ htype)
  · have hunset : card.unset? tier a = none := by
      cases a with
      | multicast => exact absurd rfl hm
      | buyPrice => exact absurd rfl hb
      | _ => rfl
    rw [← Card.get?_statedAttributes_eq card tier a hm hb,
      Card.get?_statedAttributes_of_alone h w.entry_mem_catalog w.type_entry.symm, hunset,
      Option.or_none]

/-! ## Longer cooldowns -/

/-- The first line on longer cooldowns is the one on the only tier that has one. -/
theorem first?_of_alone (h : card.extractedOn tier = [w.fact n m])
    (hothers : ∀ other, card.Has other w.type → other = tier) :
    card.first? w.type = some (w.fact n m) := by
  rw [Card.first?, findSome?_eq_of_forall_ne (Tier.mem_all tier) fun other _ hne => ?_]
  · rw [Card.ofKind_of_alone h]
    exact congrArg List.head? (if_pos rfl)
  · have hnone : ¬ card.Has other w.type := mt (hothers other) hne
    rw [List.head?_eq_none_iff]
    exact not_not.mp hnone

/-! ## Reading back -/

/-- A numbered line is read back. -/
structure ReadBack (w : Wording) (n m : Nat) : Prop where
  /-- it is classified as the fact that it was made from -/
  classified : classify (w.text n m) = w.fact n m
  /-- a tier on which it stands alone is one of the document, and has what the line sets -/
  tier : (w.fact n m).extracted = true → ∀ (card : Card) (tier : Tier),
    card.textsOn tier = [w.text n m] → ∃ ct, card.compile.tiers.get? tier = some ct ∧
      ∀ a, ct.attributes.get? a =
        ((OrderedMap.ofList (w.sets n m)).get? a).or (card.unset? tier a)
  /-- where no other tier prolongs cooldowns, the card does by what the line says, or by a second -/
  increase : w = .enemyCooldownIncrease → ∀ (card : Card) (tier : Tier),
    card.textsOn tier = [w.text n m] → (∀ other, card.Has other w.type → other = tier) →
      (∃ x ∈ card.compile.auras.entries, x.2.slot = .cooldownMax) ∧
        ∀ x ∈ card.compile.auras.entries, x.2.slot = .cooldownMax →
          x.2.value = .fixed (if 1000 * n ≤ Text.maxNumber then 1000 * n else 1000)

/-- **Every numbered line is read back**, whatever its numbers are. -/
theorem read_back (w : Wording) {n m : Nat} (hn : n ≤ Text.maxNumber) (hm : m ≤ Text.maxNumber) :
    w.ReadBack n m where
  classified := classify_text hn hm
  tier hx card tier h := by
    have hclassify := classify_text (w := w) hn hm
    have halone := Card.extractedOn_of_textsOn h (by rw [hclassify, hx])
    rw [hclassify] at halone
    have hmem : w.fact n m ∈ card.ofKind tier w.type := by
      rw [Card.ofKind_of_alone halone]
      simp [fact]
    obtain ⟨ct, hct, hvalue⟩ := Card.exists_tier_of_mem_ofKind hmem
    exact ⟨ct, hct, fun a => (hvalue a).trans (attribute?_of_alone hn halone a)⟩
  increase hw card tier h hothers := by
    subst hw
    have hclassify := classify_text (w := .enemyCooldownIncrease) hn hm
    have halone := Card.extractedOn_of_textsOn h (by rw [hclassify]; rfl)
    rw [hclassify] at halone
    have hfit : 1000 * (n : Int) ≤ Text.maxNumber ↔ 1000 * n ≤ Text.maxNumber := by omega
    have hincrease := Card.increase_compile (first?_of_alone halone hothers) (n := n) rfl
    simpa only [hfit] using hincrease

theorem read_back_slowChargeItem : 9223372036854775807 ≤ Text.maxNumber ∧ 3 ≤ Text.maxNumber ∧
    ReadBack .slowChargeItem 9223372036854775807 3 :=
  ⟨by decide, by decide, read_back .slowChargeItem (by decide) (by decide)⟩

end Wording

end CardText
