import CardText.Proofs.Document.Attributes

/-!
# Attributes that several kinds of lines set

The counter of a card (`Custom_0`) and the ammo of a reload (`ReloadAmount`) are set by lines of
several kinds. Where a tier has lines of two such kinds, the kind that stands later in the catalog
overwrites the number of the other; no other number of a line is ever lost.

Results:

* `get?_attributes_of_given?`: a number that no later entry overwrites is that of the tier.
* `given?_eq_of_unshared`: two entries never disagree but on the two shared attributes.
* **`overwritten_in_order`**: which numbers of lines the tiers of a card's document keep.
* `not_keepsNumbers_reloadTwice`: not all of them.
-/

namespace CardText

namespace Entry

/-! ## Which entries set the same attribute -/

/-- Only a price sets prices, and nothing sets how often a card acts. -/
theorem type_eq_price_of_mem_slots :
    ∀ e ∈ catalog, .multicast ∉ e.slots ∧ (.buyPrice ∈ e.slots → e.type = .price) := by decide

/-- Two entries that set the same attribute set one of these. -/
theorem shared_slots : ∀ e ∈ catalog, ∀ e' ∈ catalog, ∀ a ∈ e.slots, a ∈ e'.slots →
    e.type = e'.type ∨ a = .custom0 ∨ a = .reloadAmount ∨ a = .reloadTargets := by decide

/-- Every reload has one target. -/
theorem number?_reloadTargets {e : Entry} (he : e ∈ catalog) (h : .reloadTargets ∈ e.slots)
    (f : Fact) : e.number? f .reloadTargets = some 1 := by
  have hwriters : (catalog.filter fun e => .reloadTargets ∈ e.slots) =
      [.freezeReloadWeapon, .toolUseReloadAdjacent] := rfl
  have hmem : e ∈ [freezeReloadWeapon, toolUseReloadAdjacent] := by
    rw [← hwriters]
    exact List.mem_filter.mpr ⟨he, decide_eq_true h⟩
  rcases List.mem_pair.mp hmem with rfl | rfl
  · rfl
  · rfl

/-- An entry sets the attributes that it gives a number, and no others. -/
theorem mem_slots_of_number? {e : Entry} {f : Fact} {a : Attribute} {n : Int}
    (h : e.number? f a = some n) : a ∈ e.slots := by
  by_contra hne
  rw [number?_eq_none_of_not_mem hne] at h
  exact absurd h (by simp)

end Entry

namespace Card

variable {card : Card} {tier : Tier} {a : Attribute} {n : Int} {e : Entry}

/-! ## The numbers of a tier's lines -/

theorem has_of_given? (h : card.given? tier a e = some n) : card.Has tier e.type := by
  by_contra hne
  rw [given?_eq_none hne] at h
  exact absurd h (by simp)

/-- The line of an entry's kind gives what the entry puts into an empty bag. -/
theorem given?_of_write (he : e ∈ catalog) {f : Fact} (hf : card.lineOf? tier e.type = some f)
    (h : (e.write f .empty).get? a = some n) : card.given? tier a e = some n := by
  rw [given?, hf, Option.bind_some, ← h, Entry.get?_write_empty he]

theorem mem_slots_of_given? (h : card.given? tier a e = some n) : a ∈ e.slots := by
  obtain ⟨f, -, hf⟩ := Option.bind_eq_some_iff.mp h
  exact Entry.mem_slots_of_number? hf

/-- What the tier ends up with is what its lines leave, where a line gives a number. -/
theorem get?_attributes_eq_stated (he : e ∈ catalog) (h : card.given? tier a e = some n) :
    (card.table.attributes tier).get? a = (card.table.statedAttributes tier).get? a := by
  obtain ⟨hmulticast, hprice⟩ := Entry.type_eq_price_of_mem_slots e he
  have hslot := mem_slots_of_given? h
  rw [get?_attributes, if_neg, if_neg]
  · rintro ⟨rfl, -, hno⟩
    have hhas := has_of_given? h
    rw [hprice hslot] at hhas
    exact hno ((presentOn_table_iff card .price tier).mpr hhas)
  · rintro ⟨rfl, -⟩
    exact hmulticast hslot

/-- **A number that no later entry overwrites is that of the tier.** -/
theorem get?_attributes_of_given? {before after : List Entry}
    (hc : catalog = before ++ e :: after) (h : card.given? tier a e = some n)
    (hafter : ∀ later ∈ after, a ∈ later.slots → ¬ card.Has tier later.type) :
    (card.table.attributes tier).get? a = some n := by
  have he : e ∈ catalog := by simp [hc]
  -- the catalog is asked from its end, and nothing behind `e` answers
  have hnone : after.reverse.findSome? (card.given? tier a) = none := by
    refine List.findSome?_eq_none_iff.mpr fun later hl => ?_
    have hl := List.mem_reverse.mp hl
    by_contra hne
    obtain ⟨m, hm⟩ := Option.ne_none_iff_exists'.mp hne
    exact hafter later hl (mem_slots_of_given? hm) (has_of_given? hm)
  rw [get?_attributes_eq_stated he h, get?_statedAttributes_table, hc, List.reverse_append,
    List.reverse_cons, List.append_assoc, List.findSome?_append, hnone, Option.none_or,
    List.singleton_append, List.findSome?_cons, h]

/-- **Two lines never disagree** but on the two attributes that they share. -/
theorem given?_eq_of_unshared {e' : Entry} {m : Int} (he : e ∈ catalog) (he' : e' ∈ catalog)
    (h : card.given? tier a e = some n) (h' : card.given? tier a e' = some m)
    (hc : a ≠ .custom0) (hr : a ≠ .reloadAmount) : m = n := by
  rcases Entry.shared_slots e he e' he' a (mem_slots_of_given? h) (mem_slots_of_given? h') with
    htype | rfl | rfl | rfl
  · obtain rfl := eq_of_type_eq he he' htype
    exact Option.some.inj (h'.symm.trans h)
  · exact absurd rfl hc
  · exact absurd rfl hr
  · obtain ⟨f, -, hf⟩ := Option.bind_eq_some_iff.mp h
    obtain ⟨f', -, hf'⟩ := Option.bind_eq_some_iff.mp h'
    rw [Entry.number?_reloadTargets he (mem_slots_of_given? h)] at hf
    rw [Entry.number?_reloadTargets he' (mem_slots_of_given? h')] at hf'
    exact Option.some.inj (hf'.symm.trans hf)

/-- So every other number of a line is that of the tier. -/
theorem get?_attributes_of_unshared (he : e ∈ catalog) (h : card.given? tier a e = some n)
    (hc : a ≠ .custom0) (hr : a ≠ .reloadAmount) :
    (card.table.attributes tier).get? a = some n := by
  rw [get?_attributes_eq_stated he h, get?_statedAttributes_table]
  have hsome : (catalog.reverse.findSome? (card.given? tier a)).isSome = true :=
    List.findSome?_isSome_iff.mpr ⟨e, List.mem_reverse.mpr he, by rw [h]; rfl⟩
  obtain ⟨m, hm⟩ := Option.isSome_iff_exists.mp hsome
  -- some entry answers, maybe not `e`, but all that answer agree
  obtain ⟨e', he', h'⟩ := List.exists_of_findSome?_eq_some hm
  rw [hm, given?_eq_of_unshared he (List.mem_reverse.mp he') h h' hc hr]

end Card

/-! ## Documents -/

/-- The tiers of a document keep every number that a line of the card sets. -/
def Document.KeepsNumbers (d : Document) (card : Card) : Prop :=
  ∀ e ∈ d.tiers.entries, ∀ entry ∈ catalog, ∀ f, card.lineOf? e.1 entry.type = some f →
    ∀ a n, (entry.write f .empty).get? a = some n → e.2.attributes.get? a = some n

/-- Which numbers of a card's lines the tiers of a document keep. -/
structure Document.OverwrittenInOrder (d : Document) (card : Card) : Prop where
  /-- a number stays unless the tier has a line of a later entry that sets the attribute too -/
  kept : ∀ e ∈ d.tiers.entries, ∀ before entry after, catalog = before ++ entry :: after →
    ∀ f, card.lineOf? e.1 entry.type = some f → ∀ a n, (entry.write f .empty).get? a = some n →
      (∀ later ∈ after, a ∈ later.slots → ¬ card.Has e.1 later.type) →
      e.2.attributes.get? a = some n
  /-- but for two attributes it always stays -/
  unshared : ∀ e ∈ d.tiers.entries, ∀ entry ∈ catalog, ∀ f,
    card.lineOf? e.1 entry.type = some f → ∀ a n, (entry.write f .empty).get? a = some n →
      a ≠ .custom0 → a ≠ .reloadAmount → e.2.attributes.get? a = some n
  leftmostToolMulticast : ∀ e ∈ d.tiers.entries, card.Has e.1 .leftmostToolMulticast →
    e.2.attributes.get? .custom0 = card.number? e.1 .leftmostToolMulticast .amount
  burn : ∀ e ∈ d.tiers.entries, card.Has e.1 .burn → ¬ card.Has e.1 .leftmostToolMulticast →
    e.2.attributes.get? .custom0 = some 0
  weaponDamageBuff : ∀ e ∈ d.tiers.entries, card.Has e.1 .weaponDamageBuff →
    ¬ card.Has e.1 .burn → ¬ card.Has e.1 .leftmostToolMulticast →
    e.2.attributes.get? .custom0 = card.number? e.1 .weaponDamageBuff .amount
  shieldBuff : ∀ e ∈ d.tiers.entries, card.Has e.1 .shieldBuff →
    ¬ card.Has e.1 .weaponDamageBuff → ¬ card.Has e.1 .burn →
    ¬ card.Has e.1 .leftmostToolMulticast →
    e.2.attributes.get? .custom0 = card.number? e.1 .shieldBuff .amount
  healTrigger : ∀ e ∈ d.tiers.entries, card.Has e.1 .healTrigger →
    ¬ card.Has e.1 .shieldBuff → ¬ card.Has e.1 .weaponDamageBuff → ¬ card.Has e.1 .burn →
    ¬ card.Has e.1 .leftmostToolMulticast →
    e.2.attributes.get? .custom0 = card.number? e.1 .healTrigger .amount
  freezeReloadWeapon : ∀ e ∈ d.tiers.entries, card.Has e.1 .freezeReloadWeapon →
    ¬ card.Has e.1 .toolUseReloadAdjacent →
    e.2.attributes.get? .reloadAmount = card.number? e.1 .freezeReloadWeapon .amount

/-- **Later entries overwrite the numbers of earlier ones**, on two attributes. -/
theorem Document.overwritten_in_order (card : Card) : card.compile.OverwrittenInOrder card := by
  have hvalue : ∀ e ∈ card.compile.tiers.entries, ∀ a,
      e.2.attributes.get? a = card.attribute? e.1 a :=
    fun e he a => Card.get?_attributes_of_mem_tiers he a
  refine ⟨?_, ?_, ?_, ?_, ?_, ?_, ?_, ?_⟩
  · intro e he before entry after hc f hf a n hn hafter
    have hentry : entry ∈ catalog := by simp [hc]
    rw [Card.attributes_of_mem_tiers he]
    exact Card.get?_attributes_of_given? hc (Card.given?_of_write hentry hf hn) hafter
  · intro e he entry hentry f hf a n hn hc hr
    rw [Card.attributes_of_mem_tiers he]
    exact Card.get?_attributes_of_unshared hentry (Card.given?_of_write hentry hf hn) hc hr
  · intro e he h
    rw [hvalue e he, Card.attribute?, if_pos h]
  · intro e he h hm
    rw [hvalue e he, Card.attribute?, if_neg hm, if_pos h]
  · intro e he h hb hm
    rw [hvalue e he, Card.attribute?, if_neg hm, if_neg hb, if_pos h]
  · intro e he h hw hb hm
    rw [hvalue e he, Card.attribute?, if_neg hm, if_neg hb, if_neg hw, if_pos h]
  · intro e he h hs hw hb hm
    rw [hvalue e he, Card.attribute?, if_neg hm, if_neg hb, if_neg hw, if_neg hs]
  · intro e he h ht
    rw [hvalue e he, Card.attribute?, if_neg ht]

/-- A card with two lines on reloads. -/
def Card.reloadTwice : Card :=
  [.ofList [(.bronze, "When you Freeze, Reload a Weapon 3 ammo.")],
    .ofList [(.bronze, "When you use a Tool, Reload an adjacent item.")]]

/-- Its tier has 99 ammo to reload, and the 3 of the other line are lost. -/
theorem Document.not_keepsNumbers_reloadTwice :
    ¬ Card.reloadTwice.compile.KeepsNumbers Card.reloadTwice := by
  intro hkeeps
  have hfreeze : Card.reloadTwice.number? .bronze .freezeReloadWeapon .amount = some 3 := by
    decide +kernel
  have htool : Card.reloadTwice.Has .bronze .toolUseReloadAdjacent := by decide +kernel
  obtain ⟨f, hf, hamount⟩ := Option.bind_eq_some_iff.mp hfreeze
  have htier : (Tier.bronze, Card.reloadTwice.table.cardTier .bronze) ∈
      Card.reloadTwice.compile.tiers.entries := by
    rw [Card.compile_eq_document, FactTable.mem_tiers_document, FactTable.mem_emittedTiers_iff]
    exact ⟨Or.inr ⟨_, (Card.presentOn_table_iff _ _ _).mpr htool⟩, rfl⟩
  have hwrite : (Entry.freezeReloadWeapon.write f .empty).get? .reloadAmount = some 3 := by
    rw [Entry.get?_write_empty (by simp [catalog]), ← hamount]
    exact AttributeWrite.value?_ofParam .reloadAmount .amount f
  have hthree := hkeeps _ htier .freezeReloadWeapon (by simp [catalog]) f hf _ _ hwrite
  rw [Card.get?_attributes_of_mem_tiers htier, Card.attribute?, if_pos htool] at hthree
  exact absurd hthree (by decide)

end CardText
