import CardText.Card.Numeral
import CardText.Proofs.Document.Numbering
import CardText.Proofs.Document.Tooltips
import CardText.Proofs.Text.Decimal

/-!
# Places for numbers in tooltips

A tooltip with a text of its own (a `TooltipTemplate` that is fixed) has places for numbers of an
ability, and a place names the ability by number. The texts are fixed while abilities are numbered
card by card, so a place can name an ability of another line, or none at all.

Results:

* `mem_references_iff`: the numbers that a text names, by where its places stand.
* `resolvesTo_iff`: which numbers are those of an entry's own abilities.
* **`placeholders_fit`**: a place names an ability of its own line iff the line has effects and as
  many abilities stand before them as the place says. Of damage that is always so, of growing
  shields never.
-/

namespace CardText

/-! ## The numbers that a text names -/

namespace Placeholder

open Numeral (isNumeral)

/-- How a place for a number begins. -/
def opening : List Char := "\x7bability.".toList

/-- The two ways in which it ends. -/
def closings : List (List Char) := ["\x7d".toList, ".targets\x7d".toList]

/-- The text has a place for a number of the ability `n`. -/
def Refers (text : List Char) (n : Nat) : Prop :=
  ∃ before run closing after, text = before ++ (opening ++ (run ++ (closing ++ after))) ∧
    closing ∈ closings ∧ run ≠ [] ∧ Text.natFrom? 0 run = some n

/-- The number that a place at the start of the text names. -/
def referenceAt? (text : List Char) : Option Nat :=
  let rest := text.drop opening.length
  let run := rest.takeWhile isNumeral
  if opening.isPrefixOf text ∧ run ≠ [] ∧
      closings.any (·.isPrefixOf (rest.dropWhile isNumeral)) then
    Text.natFrom? 0 run
  else none

/-- The numbers that the places of the text name, from left to right. -/
def references : List Char → List Nat
  | [] => []
  | c :: text => (referenceAt? (c :: text)).toList ++ references text

/-- No ending starts with a character that the number could go on with. -/
theorem takeWhile_closing {closing : List Char} (h : closing ∈ closings) (after : List Char) :
    (closing ++ after).takeWhile isNumeral = [] := by
  have hhead : ∀ closing ∈ closings, ∃ c rest, closing = c :: rest ∧ isNumeral c = false := by
    unfold closings
    simp only [List.forall_mem_cons]
    exact ⟨⟨'\x7d', [], by decide, by decide⟩, ⟨'.', "targets\x7d".toList, by decide, by decide⟩,
      fun _ h => absurd h List.not_mem_nil⟩
  obtain ⟨c, rest, rfl, hc⟩ := hhead closing h
  rw [List.cons_append, List.takeWhile_cons, hc]
  rfl

theorem referenceAt?_eq_some_iff {text : List Char} {n : Nat} :
    referenceAt? text = some n ↔
      ∃ run closing after, text = opening ++ (run ++ (closing ++ after)) ∧ closing ∈ closings ∧
        run ≠ [] ∧ Text.natFrom? 0 run = some n := by
  unfold referenceAt?
  simp only [Option.ite_none_right_eq_some, List.any_eq_true, List.isPrefixOf_iff_prefix]
  constructor
  · rintro ⟨⟨⟨rest, rfl⟩, hrun, closing, hclosing, after, hafter⟩, hn⟩
    rw [List.drop_left] at hrun hafter hn
    refine ⟨_, closing, after, ?_, hclosing, hrun, hn⟩
    rw [hafter, List.takeWhile_append_dropWhile]
  · rintro ⟨run, closing, after, rfl, hclosing, hrun, hn⟩
    have hall : ∀ c ∈ run, isNumeral c = true := Text.isSome_digitValue?_of_natFrom? hn
    have htake : (run ++ (closing ++ after)).takeWhile isNumeral = run := by
      rw [List.takeWhile_append_of_pos hall, takeWhile_closing hclosing, List.append_nil]
    have hdrop : (run ++ (closing ++ after)).dropWhile isNumeral = closing ++ after := by
      have := List.takeWhile_append_dropWhile (p := isNumeral) (l := run ++ (closing ++ after))
      rw [htake] at this
      exact List.append_cancel_left this
    rw [List.drop_left, htake, hdrop]
    exact ⟨⟨⟨_, rfl⟩, hrun, closing, hclosing, after, rfl⟩, hn⟩

/-- **The numbers that a text names**, by where its places stand. -/
theorem mem_references_iff : ∀ {text : List Char} {n : Nat}, n ∈ references text ↔ Refers text n
  | [], n => by
    refine ⟨fun h => absurd h List.not_mem_nil, ?_⟩
    rintro ⟨before, run, closing, after, h, -, hrun, -⟩
    have hnil := List.append_eq_nil_iff.mp (List.append_eq_nil_iff.mp
      (List.append_eq_nil_iff.mp h.symm).2).2
    exact absurd hnil.1 hrun
  | c :: text, n => by
    simp only [references, List.mem_append, Option.mem_toList,
      referenceAt?_eq_some_iff, mem_references_iff]
    constructor
    · rintro (⟨run, closing, after, h, hrest⟩ | ⟨before, run, closing, after, h, hrest⟩)
      · exact ⟨[], run, closing, after, h, hrest⟩
      · exact ⟨c :: before, run, closing, after, by rw [h, List.cons_append], hrest⟩
    · rintro ⟨before, run, closing, after, h, hrest⟩
      cases before with
      | nil => exact Or.inl ⟨run, closing, after, h, hrest⟩
      | cons b before =>
        rw [List.cons_append] at h
        exact Or.inr ⟨before, run, closing, after, (List.cons.inj h).2, hrest⟩

end Placeholder

/-- The text of a template that has one. -/
def TooltipTemplate.fixed? : TooltipTemplate → Option String
  | .fixed text => some text
  | _ => none

/-- The number that the places in an entry's own text name. -/
def Entry.placeholder (e : Entry) : Nat :=
  if e.type = .healTrigger ∨ e.type = .weaponHaste then 1 else 0

/-- **A fixed text names one number**, and that in at least one place. -/
theorem refers_fixed_iff {e : Entry} (he : e ∈ catalog) {text : String}
    (ht : e.tooltip = .fixed text) {n : Nat} :
    Placeholder.Refers text.toList n ↔ n = e.placeholder := by
  have hall : ∀ e ∈ catalog, ∀ text ∈ e.tooltip.fixed?,
      Placeholder.references text.toList ≠ [] ∧
        ∀ n ∈ Placeholder.references text.toList, n = e.placeholder := by
    decide +kernel
  obtain ⟨hne, heq⟩ := hall e he text (by rw [ht]; rfl)
  rw [← Placeholder.mem_references_iff]
  refine ⟨heq n, ?_⟩
  rintro rfl
  obtain ⟨m, hm⟩ := List.exists_mem_of_ne_nil _ hne
  exact heq m hm ▸ hm

/-! ## Where abilities come from -/

/-- The effects of the card's abilities in their order, each with the kind of the entry that it
comes from. -/
def abilitySources (fs : List (Tier × Fact)) (entries : List Entry) :
    List (FactType × TriggeredEffect) :=
  (entries.filter fun e => e.BuiltBy fs).flatMap fun e => e.abilities.map fun x => (e.type, x)

/-- How many abilities stand before those of the entry. -/
def precedingAbilities (fs : List (Tier × Fact)) (e : Entry) : Nat :=
  effectCount fs (·.abilities) (catalog.takeWhile fun e' => e'.type ≠ e.type)

/-- The number is that of an ability of the document, and that ability comes from the entry. -/
def Document.ResolvesTo (d : Document) (fs : List (Tier × Fact)) (e : Entry) (n : Nat) : Prop :=
  ∃ (k : EffectId) (x : TriggeredEffect), k.value.toNat = n ∧
    (abilitySources fs catalog)[n]? = some (e.type, x) ∧
    d.abilities.get? k = some (x.numbered k)

section Sources

variable {fs : List (Tier × Fact)}

theorem mem_abilitySources {entries : List Entry} {type : FactType} {x : TriggeredEffect}
    (h : (type, x) ∈ abilitySources fs entries) : ∃ e ∈ entries, e.type = type := by
  obtain ⟨e, he, hx⟩ := List.mem_flatMap.mp h
  obtain ⟨y, -, heq⟩ := List.mem_map.mp hx
  exact ⟨e, List.mem_of_mem_filter he, congrArg Prod.fst heq⟩

theorem abilitySources_singleton (e : Entry) :
    abilitySources fs [e] =
      if e.BuiltBy fs then e.abilities.map fun x => (e.type, x) else [] := by
  unfold abilitySources
  rw [List.filter_singleton]
  split <;> simp_all

theorem length_abilitySources (entries : List Entry) :
    (abilitySources fs entries).length = effectCount fs (·.abilities) entries := by
  unfold abilitySources effectCount
  simp only [List.length_flatMap, List.length_map]

theorem abilityCount_le (fs : List (Tier × Fact)) :
    effectCount fs (·.abilities) catalog ≤ UInt32.size :=
  Nat.le_trans (FactTable.effectCount_le fs _) (by decide)

/-- **Every ability of a document has a source**, the one in the place of its number. -/
theorem get?_abilities_iff {k : EffectId} {r : Ability} :
    (FactTable.empty.pushAll fs).abilities.get? k = some r ↔
      ∃ type x, (abilitySources fs catalog)[k.value.toNat]? = some (type, x) ∧
        x.numbered k = r := by
  have hmap : (catalog.filter fun e => e.BuiltBy fs).flatMap (·.abilities) =
      (abilitySources fs catalog).map (·.2) := by
    unfold abilitySources
    simp only [List.map_flatMap, List.map_map, Function.comp_def, List.map_id']
  have hle : ((catalog.filter fun e => e.BuiltBy fs).flatMap (·.abilities)).length ≤ UInt32.size :=
    abilityCount_le fs
  unfold FactTable.abilities
  rw [FactTable.buildingEntries_pushAll, FactTable.get?_numbered hle, hmap]
  simp only [List.getElem?_map, Option.map_eq_some_iff, Prod.exists, exists_eq_right]
  constructor
  · rintro ⟨x, ⟨type, hx⟩, hr⟩
    exact ⟨type, x, hx, hr⟩
  · rintro ⟨type, x, hx, hr⟩
    exact ⟨x, ⟨type, hx⟩, hr⟩

/-- The entries before an entry are those before its kind, as no other entry has that kind. -/
theorem exists_split {e : Entry} (he : e ∈ catalog) :
    ∃ before after, catalog = before ++ e :: after ∧
      (catalog.takeWhile fun e' => e'.type ≠ e.type) = before ∧
      (∀ a ∈ before, a.type ≠ e.type) ∧ ∀ a ∈ after, a.type ≠ e.type := by
  obtain ⟨before, after, hc⟩ := List.append_of_mem he
  have hnd := nodup_types_catalog
  rw [hc, List.map_append, List.map_cons, List.nodup_append, List.nodup_cons] at hnd
  obtain ⟨-, ⟨hafter, -⟩, hdisj⟩ := hnd
  have hbefore : ∀ a ∈ before, a.type ≠ e.type := fun a ha =>
    hdisj _ (List.mem_map_of_mem ha) _ List.mem_cons_self
  refine ⟨before, after, hc, ?_, hbefore, fun a ha h => hafter (h ▸ List.mem_map_of_mem ha)⟩
  rw [hc, List.takeWhile_append_of_pos (by simpa using hbefore), List.takeWhile_cons]
  simp

/-- What stands neither in the first nor in the last of three parts is found in the middle. -/
theorem getElem?_middle {α : Type} {a m b : List α} {x : α} (ha : x ∉ a) (hb : x ∉ b) {n : Nat} :
    (a ++ (m ++ b))[n]? = some x ↔ ∃ j, n = a.length + j ∧ m[j]? = some x := by
  constructor
  · intro h
    have hle : a.length ≤ n := by
      by_contra hlt
      rw [List.getElem?_append_left (by omega)] at h
      exact ha (List.mem_of_getElem? h)
    rw [List.getElem?_append_right hle] at h
    have hlt : n - a.length < m.length := by
      by_contra hge
      rw [List.getElem?_append_right (by omega)] at h
      exact hb (List.mem_of_getElem? h)
    rw [List.getElem?_append_left hlt] at h
    exact ⟨n - a.length, (Nat.add_sub_cancel' hle).symm, h⟩
  · rintro ⟨j, rfl, hj⟩
    obtain ⟨hlt, -⟩ := List.getElem?_eq_some_iff.mp hj
    rw [List.getElem?_append_right (Nat.le_add_right _ _), Nat.add_sub_cancel_left,
      List.getElem?_append_left hlt, hj]

/-- **The sources of an entry's abilities** stand behind those of the entries before it. -/
theorem getElem?_abilitySources_iff {e : Entry} (he : e ∈ catalog) {n : Nat}
    {x : TriggeredEffect} :
    (abilitySources fs catalog)[n]? = some (e.type, x) ↔
      e.BuiltBy fs ∧ ∃ j, n = precedingAbilities fs e + j ∧ e.abilities[j]? = some x := by
  obtain ⟨before, after, hc, htake, hbefore, hafter⟩ := exists_split he
  have hpre : precedingAbilities fs e = (abilitySources fs before).length := by
    rw [length_abilitySources, ← htake]
    rfl
  have hsplit : abilitySources fs catalog = abilitySources fs before ++
      (abilitySources fs [e] ++ abilitySources fs after) := by
    rw [hc, show before ++ e :: after = before ++ ([e] ++ after) from rfl]
    unfold abilitySources
    simp only [List.filter_append, List.flatMap_append]
  have hnot : ∀ entries : List Entry, (∀ a ∈ entries, a.type ≠ e.type) →
      (e.type, x) ∉ abilitySources fs entries := by
    intro entries hne h
    obtain ⟨a, ha, htype⟩ := mem_abilitySources h
    exact hne a ha htype
  have hown : ∀ j : Nat, (e.abilities.map fun x => (e.type, x))[j]? = some (e.type, x) ↔
      e.abilities[j]? = some x := by
    intro j
    rw [List.getElem?_map, Option.map_eq_some_iff]
    simp
  rw [hpre, hsplit, getElem?_middle (hnot before hbefore) (hnot after hafter),
    abilitySources_singleton]
  by_cases hbuilt : e.BuiltBy fs
  · rw [if_pos hbuilt, and_iff_right hbuilt]
    simp only [hown]
  · simp [hbuilt]

/-- **Which numbers are those of an entry's own abilities.** -/
theorem resolvesTo_iff {e : Entry} (he : e ∈ catalog) {n : Nat} :
    (FactTable.empty.pushAll fs).document.ResolvesTo fs e n ↔
      e.BuiltBy fs ∧ ∃ j, j < e.abilities.length ∧ n = precedingAbilities fs e + j := by
  constructor
  · rintro ⟨k, x, -, hsource, -⟩
    obtain ⟨hbuilt, j, hn, hx⟩ := (getElem?_abilitySources_iff he).mp hsource
    exact ⟨hbuilt, j, (List.getElem?_eq_some_iff.mp hx).1, hn⟩
  · rintro ⟨hbuilt, j, hj, hn⟩
    have hsource := (getElem?_abilitySources_iff he).mpr
      ⟨hbuilt, j, hn, List.getElem?_eq_getElem hj⟩
    obtain ⟨hlt, -⟩ := List.getElem?_eq_some_iff.mp hsource
    have hle : (abilitySources fs catalog).length ≤ UInt32.size := by
      rw [length_abilitySources]
      exact abilityCount_le fs
    have hnat : (EffectId.ofNat n).value.toNat = n := EffectId.toNat_ofNat (by omega)
    exact ⟨.ofNat n, _, hnat, hsource, get?_abilities_iff.mpr ⟨_, _, by rw [hnat, hsource], rfl⟩⟩

end Sources

/-! ## Documents -/

/-- The tooltip of the document is that of an entry with a text of its own. -/
def Document.FixedTooltip (d : Document) (fs : List (Tier × Fact)) (e : Entry) (tip : Tooltip) :
    Prop :=
  ∃ (i : Nat) (text : String), (tooltipEntries fs)[i]? = some e ∧
    d.localization.tooltips[i]? = some tip ∧ e.tooltip = .fixed text

/-- What the places of the document's tooltips refer to. -/
structure Document.PlaceholdersFit (d : Document) (fs : List (Tier × Fact)) : Prop where
  /-- the number does not depend on what else the card has -/
  number : ∀ e tip, d.FixedTooltip fs e tip →
    ∀ n, Placeholder.Refers tip.text.toList n ↔ n = e.placeholder
  resolves : ∀ e tip, d.FixedTooltip fs e tip → ∀ n, Placeholder.Refers tip.text.toList n →
    (d.ResolvesTo fs e n ↔ e.BuiltBy fs ∧ precedingAbilities fs e = n)
  /-- so damage is always numbered as its tooltip says -/
  damage : ∀ tip, d.FixedTooltip fs .damage tip →
    ∀ n, Placeholder.Refers tip.text.toList n → d.ResolvesTo fs .damage n
  /-- damage that grows needs a card that deals damage -/
  healTrigger : ∀ tip, d.FixedTooltip fs .healTrigger tip →
    ∀ n, Placeholder.Refers tip.text.toList n →
      (d.ResolvesTo fs .healTrigger n ↔ Stated fs .damage)
  /-- shields that grow need a card whose shields deal damage, and that has the number -/
  shieldBuff : ∀ tip, d.FixedTooltip fs .shieldBuff tip →
    ∀ n, Placeholder.Refers tip.text.toList n → ¬ d.ResolvesTo fs .shieldBuff n

namespace FactTable

variable {fs : List (Tier × Fact)}

theorem mem_of_fixedTooltip {d : Document} {e : Entry} {tip : Tooltip}
    (h : d.FixedTooltip fs e tip) : e ∈ catalog ∧ Stated fs e.type := by
  obtain ⟨i, text, hi, -, -⟩ := h
  obtain ⟨he, hp⟩ := List.mem_filter.mp (List.mem_of_getElem? hi)
  exact ⟨he, (of_decide_eq_true hp).2⟩

theorem refers_fixedTooltip_iff {e : Entry} {tip : Tooltip}
    (h : (empty.pushAll fs).document.FixedTooltip fs e tip) {n : Nat} :
    Placeholder.Refers tip.text.toList n ↔ n = e.placeholder := by
  obtain ⟨he, -⟩ := mem_of_fixedTooltip h
  obtain ⟨i, text, hi, htip, htext⟩ := h
  obtain ⟨tip', htip', hshows⟩ := (document_tooltipsInStep fs).shown i e hi
  obtain rfl := Option.some.inj (htip.symm.trans htip')
  rw [hshows.fixed text htext, refers_fixed_iff he htext]

/-- Only the first ability of an entry is ever named. -/
theorem resolvesTo_placeholder_iff {e : Entry} {tip : Tooltip}
    (h : (empty.pushAll fs).document.FixedTooltip fs e tip) :
    (empty.pushAll fs).document.ResolvesTo fs e e.placeholder ↔
      e.BuiltBy fs ∧ precedingAbilities fs e = e.placeholder := by
  have hshape : ∀ e ∈ catalog, e.tooltip.fixed?.isSome = true →
      0 < e.abilities.length ∧ (e.abilities.length = 1 ∨ e.placeholder = 0) := by decide
  obtain ⟨he, -⟩ := mem_of_fixedTooltip h
  obtain ⟨i, text, -, -, htext⟩ := h
  obtain ⟨hpos, hone⟩ := hshape e he (by rw [htext]; rfl)
  rw [resolvesTo_iff he]
  -- the burn has two abilities, but a place for 0 can only name the first
  refine and_congr_right fun _ => ⟨?_, fun hp => ⟨0, hpos, by omega⟩⟩
  rintro ⟨j, hj, hn⟩
  omega

/-! ### What stands before the first entries with abilities -/

theorem precedingAbilities_damage (fs : List (Tier × Fact)) :
    precedingAbilities fs .damage = 0 := by
  show effectCount fs (·.abilities) [.cooldown, .price] = 0
  rw [effectCount_cons_of_eq_nil rfl, effectCount_cons_of_eq_nil rfl]
  rfl

theorem precedingAbilities_healTrigger (fs : List (Tier × Fact)) :
    precedingAbilities fs .healTrigger = if Entry.damage.BuiltBy fs then 1 else 0 := by
  show effectCount fs (·.abilities) [.cooldown, .price, .damage, .critDamage] = _
  rw [effectCount_cons_of_eq_nil rfl, effectCount_cons_of_eq_nil rfl, effectCount_cons,
    effectCount_cons_of_eq_nil rfl]
  rfl

theorem precedingAbilities_shieldBuff_pos (h : Entry.shieldDamage.BuiltBy fs) :
    0 < precedingAbilities fs .shieldBuff := by
  show 0 < effectCount fs (·.abilities)
    [.cooldown, .price, .damage, .critDamage, .healTrigger, .shieldDamage]
  iterate 6 rw [effectCount_cons]
  rw [if_pos h, show Entry.shieldDamage.abilities.length = 1 from rfl]
  omega

theorem document_placeholdersFit (fs : List (Tier × Fact)) :
    (empty.pushAll fs).document.PlaceholdersFit fs where
  number _ _ h _ := refers_fixedTooltip_iff h
  resolves e tip h n hn := by
    rw [(refers_fixedTooltip_iff h).mp hn]
    exact resolvesTo_placeholder_iff h
  damage tip h n hn := by
    rw [(refers_fixedTooltip_iff h).mp hn]
    have hbuilt : Entry.damage.BuiltBy fs :=
      ⟨(mem_of_fixedTooltip h).2, fun _ h => absurd h List.not_mem_nil⟩
    exact (resolvesTo_placeholder_iff h).mpr ⟨hbuilt, precedingAbilities_damage fs⟩
  healTrigger tip h n hn := by
    have hheal : Entry.healTrigger.BuiltBy fs :=
      ⟨(mem_of_fixedTooltip h).2, fun _ h => absurd h List.not_mem_nil⟩
    have hdamage : Entry.damage.BuiltBy fs ↔ Stated fs .damage :=
      and_iff_left fun _ h => absurd h List.not_mem_nil
    rw [(refers_fixedTooltip_iff h).mp hn, resolvesTo_placeholder_iff h,
      precedingAbilities_healTrigger, and_iff_right hheal, ← hdamage]
    show (if Entry.damage.BuiltBy fs then 1 else 0) = 1 ↔ Entry.damage.BuiltBy fs
    by_cases hb : Entry.damage.BuiltBy fs <;> simp [hb]
  shieldBuff tip h n hn := by
    rw [(refers_fixedTooltip_iff h).mp hn, resolvesTo_placeholder_iff h]
    rintro ⟨hbuilt, hzero⟩
    have hshield : Entry.shieldDamage.BuiltBy fs :=
      ⟨hbuilt.2 .shieldDamage List.mem_cons_self, fun _ h => absurd h List.not_mem_nil⟩
    have hpos := precedingAbilities_shieldBuff_pos hshield
    rw [hzero] at hpos
    exact Nat.lt_irrefl 0 hpos

end FactTable

/-- **What the places in tooltips refer to**, in the document of every card. -/
theorem Document.placeholders_fit (card : Card) : card.compile.PlaceholdersFit card.facts := by
  rw [Card.compile_eq_document]
  exact FactTable.document_placeholdersFit card.facts

/-- A card whose damage grows with healing, and that deals none by itself. -/
def Card.healingOnly : Card :=
  [.ofList [(.bronze, "When you heal, this gains 4 damage for the fight.")]]

/-- Its tooltip names the ability 1, but the only one it has is numbered 0. -/
theorem Document.placeholder_of_healingOnly :
    ∃ tip, Card.healingOnly.compile.FixedTooltip Card.healingOnly.facts .healTrigger tip ∧
      Placeholder.Refers tip.text.toList 1 ∧
      ¬ Card.healingOnly.compile.ResolvesTo Card.healingOnly.facts .healTrigger 1 := by
  have hheal : Stated Card.healingOnly.facts .healTrigger := by decide +kernel
  have hdamage : ¬ Stated Card.healingOnly.facts .damage := by decide +kernel
  have hmem : Entry.healTrigger ∈ tooltipEntries Card.healingOnly.facts :=
    List.mem_filter.mpr ⟨by simp [catalog], decide_eq_true ⟨rfl, hheal⟩⟩
  obtain ⟨i, hi⟩ := List.getElem?_of_mem hmem
  have hstep := FactTable.document_tooltipsInStep Card.healingOnly.facts
  have hfit := FactTable.document_placeholdersFit Card.healingOnly.facts
  obtain ⟨tip, htip, -⟩ := hstep.shown i .healTrigger hi
  rw [Card.compile_eq_document]
  have hfixed : (FactTable.empty.pushAll Card.healingOnly.facts).document.FixedTooltip
      Card.healingOnly.facts .healTrigger tip := ⟨i, _, hi, htip, rfl⟩
  have hrefers := (hfit.number .healTrigger tip hfixed 1).mpr rfl
  exact ⟨tip, hfixed, hrefers, fun h =>
    hdamage ((hfit.healTrigger tip hfixed 1 hrefers).mp h)⟩

end CardText
