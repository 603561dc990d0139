import CardText.Proofs.Document.Summary
import CardText.Proofs.Document.Tiers
import Mathlib.Data.List.Flatten

/-!
# The numbers of abilities and auras

Effects are numbered from 0 in catalog order (`build_abilities`, `build_auras`), and a number is a
word of 32 bits (`EffectId`). Nothing is lost by that: whatever kinds a card has, its effects keep a
number each, and all tiers list all of them.

Results:

* `get?_numbered`: the record under a number is that of the effect in that place.
* `numbers_blocks`: the effects of every entry have one block of numbers, behind those of the
  entries before it.
* **`effects_numbered`**: how the abilities and auras of every table and card are numbered.
-/

namespace CardText

/-! ## Numbered lists -/

theorem EffectId.toNat_ofNat {n : Nat} (h : n < UInt32.size) : (ofNat n).value.toNat = n :=
  rank_ofNat h

namespace FactTable

variable {α β : Type} {number : α → EffectId → β} {effects : List α}

/-- **No record is lost**: the entries of the map are the effects in their order. -/
theorem entries_numbered (h : effects.length ≤ UInt32.size) :
    (numbered number effects).entries =
      effects.zipIdx.map fun e => (EffectId.ofNat e.2, number e.1 (EffectId.ofNat e.2)) := by
  refine OrderedMap.entries_ofList ?_
  unfold OrderedMap.Sorted
  rw [List.pairwise_map, List.pairwise_iff_getElem]
  intro i j hi hj hij
  rw [List.length_zipIdx] at hi hj
  rw [List.getElem_zipIdx, List.getElem_zipIdx, EffectId.rank_ofNat (by omega),
    EffectId.rank_ofNat (by omega)]
  omega

/-- The keys are 0, 1, 2, … -/
theorem keys_numbered (h : effects.length ≤ UInt32.size) :
    (numbered number effects).keys.map (·.value.toNat) = List.range effects.length := by
  unfold OrderedMap.keys
  rw [entries_numbered h, List.map_map, List.map_map, List.range_eq_range',
    ← List.zipIdx_map_snd]
  refine List.map_congr_left fun e he => ?_
  have hlt : e.2 < effects.length := (List.mem_zipIdx' he).1
  exact EffectId.toNat_ofNat (by omega)

/-- The record under a number is that of the effect in that place. -/
theorem get?_numbered (h : effects.length ≤ UInt32.size) {id : EffectId} {r : β} :
    (numbered number effects).get? id = some r ↔
      ∃ x, effects[id.value.toNat]? = some x ∧ number x id = r := by
  rw [OrderedMap.get?_eq_some_iff, entries_numbered h, List.mem_map]
  constructor
  · rintro ⟨⟨x, i⟩, he, heq⟩
    obtain ⟨rfl, rfl⟩ := Prod.mk.inj heq
    have hget : effects[i]? = some x := List.mem_zipIdx_iff_getElem?.mp he
    obtain ⟨hlt, -⟩ := List.getElem?_eq_some_iff.mp hget
    exact ⟨x, by rwa [EffectId.toNat_ofNat (by omega)], rfl⟩
  · rintro ⟨x, hget, rfl⟩
    exact ⟨(x, id.value.toNat), List.mem_zipIdx_iff_getElem?.mpr hget, by
      show (EffectId.ofNat _, number x (EffectId.ofNat _)) = _
      rw [show EffectId.ofNat id.value.toNat = id from by simp [EffectId.ofNat]]⟩

/-- Effects that are made on the spot are numbered like any others. -/
theorem numbered_map {γ : Type} (make : γ → α) (makers : List γ) :
    numbered number (makers.map make) = numbered (fun x => number (make x)) makers := by
  unfold numbered
  rw [List.zipIdx_map, List.map_map]
  rfl

end FactTable

/-! ## Blocks of numbers -/

/-- The pushed facts give a card the entry's effects: they state its kind and those it requires. -/
def Entry.BuiltBy (e : Entry) (fs : List (Tier × Fact)) : Prop :=
  Stated fs e.type ∧ ∀ type ∈ e.requires, Stated fs type

instance (e : Entry) (fs : List (Tier × Fact)) : Decidable (e.BuiltBy fs) :=
  inferInstanceAs (Decidable (Stated fs e.type ∧ ∀ type ∈ e.requires, Stated fs type))

theorem Entry.builds_pushAll_iff {e : Entry} {fs : List (Tier × Fact)} :
    e.builds (FactTable.empty.pushAll fs) = true ↔ e.BuiltBy fs := by
  unfold Entry.builds Entry.BuiltBy
  rw [Bool.and_eq_true, List.all_eq_true, FactTable.contains_pushAll_iff]
  simp only [FactTable.contains_pushAll_iff]

/-- How many effects a list of entries gives a card with the pushed facts. -/
def effectCount {α : Type} (fs : List (Tier × Fact)) (effects : Entry → List α)
    (entries : List Entry) : Nat :=
  ((entries.filter fun e => e.BuiltBy fs).flatMap effects).length

/-- The records of a map are those of the card's effects under 0, 1, 2, …, entry by entry of the
catalog. -/
structure NumberedInBlocks {α β : Type} (fs : List (Tier × Fact)) (effects : Entry → List α)
    (number : α → EffectId → β) (id : β → EffectId) (m : OrderedMap EffectId β) : Prop where
  keys : m.keys.map (·.value.toNat) = List.range (effectCount fs effects catalog)
  /-- every record knows its number -/
  own : ∀ e ∈ m.entries, id e.2 = e.1
  /-- the effects of an entry stand behind those of the entries before it -/
  block : ∀ before e after, catalog = before ++ e :: after → e.BuiltBy fs →
    ∀ j x, (effects e)[j]? = some x →
      ∃ k : EffectId, k.value.toNat = effectCount fs effects before + j ∧
        m.get? k = some (number x k)

namespace FactTable

variable {α β : Type} {fs : List (Tier × Fact)} {effects : Entry → List α}

theorem buildingEntries_pushAll (fs : List (Tier × Fact)) :
    (empty.pushAll fs).buildingEntries = catalog.filter fun e => e.BuiltBy fs := by
  unfold buildingEntries
  exact List.filter_congr fun e _ => by
    rw [Bool.eq_iff_iff, Entry.builds_pushAll_iff, decide_eq_true_eq]

theorem effectCount_le (fs : List (Tier × Fact)) (effects : Entry → List α) :
    effectCount fs effects catalog ≤ (catalog.flatMap effects).length :=
  (List.filter_sublist.flatMap effects).length_le

theorem effectCount_cons (e : Entry) (entries : List Entry) :
    effectCount fs effects (e :: entries) =
      (if e.BuiltBy fs then (effects e).length else 0) + effectCount fs effects entries := by
  unfold effectCount
  rw [List.filter_cons]
  by_cases he : e.BuiltBy fs <;> simp [he]

/-- An entry without effects does not count. -/
theorem effectCount_cons_of_eq_nil {e : Entry} (h : effects e = []) (entries : List Entry) :
    effectCount fs effects (e :: entries) = effectCount fs effects entries := by
  rw [effectCount_cons, h]
  simp

/-- The effects of a building entry stand behind those of the building entries before it. -/
theorem getElem?_building (before after : List Entry) {e : Entry} (he : e.BuiltBy fs) {j : Nat}
    {x : α} (hx : (effects e)[j]? = some x) :
    (((before ++ e :: after).filter fun e => e.BuiltBy fs).flatMap effects)[
      effectCount fs effects before + j]? = some x := by
  obtain ⟨hj, -⟩ := List.getElem?_eq_some_iff.mp hx
  rw [List.filter_append, List.filter_cons_of_pos (by simpa using he), List.flatMap_append,
    List.flatMap_cons, effectCount, List.getElem?_append_right (Nat.le_add_right _ _),
    Nat.add_sub_cancel_left, List.getElem?_append_left hj, hx]

/-- **The effects of every entry have one block of numbers**, as long as the catalog has no more
effects than there are numbers. -/
theorem numbers_blocks (number : α → EffectId → β) (id : β → EffectId)
    (hid : ∀ x k, id (number x k) = k) (hlen : (catalog.flatMap effects).length ≤ UInt32.size) :
    NumberedInBlocks fs effects number id
      (numbered number ((empty.pushAll fs).buildingEntries.flatMap effects)) := by
  rw [buildingEntries_pushAll]
  have hle : ((catalog.filter fun e => e.BuiltBy fs).flatMap effects).length ≤ UInt32.size :=
    Nat.le_trans (effectCount_le fs effects) hlen
  refine ⟨?_, fun e he => ?_, fun before e after hc he j x hx => ?_⟩
  · exact keys_numbered hle
  · obtain ⟨x, -, hx⟩ := (get?_numbered hle).mp (OrderedMap.get?_eq_some_iff.mpr he)
    rw [← hx, hid]
  · have hget := getElem?_building before after he hx
    rw [← hc] at hget
    obtain ⟨hlt, -⟩ := List.getElem?_eq_some_iff.mp hget
    have hnat : (EffectId.ofNat (effectCount fs effects before + j)).value.toNat = _ :=
      EffectId.toNat_ofNat (by omega)
    exact ⟨_, hnat, (get?_numbered hle).mpr ⟨x, by rw [hnat, hget], rfl⟩⟩

theorem abilities_blocks (fs : List (Tier × Fact)) :
    NumberedInBlocks fs (·.abilities) TriggeredEffect.numbered (·.id)
      (empty.pushAll fs).abilities :=
  numbers_blocks _ _ (fun _ _ => rfl) (by decide)

theorem auras_blocks (fs : List (Tier × Fact)) :
    NumberedInBlocks fs (·.auras) (fun aura => (aura (empty.pushAll fs)).numbered) (·.id)
      (empty.pushAll fs).auras := by
  unfold auras
  rw [← List.map_flatMap, numbered_map]
  exact numbers_blocks _ _ (fun _ _ => rfl) (by decide)

end FactTable

/-! ## Documents -/

/-- The abilities and auras of the document are numbered in blocks, and every tier lists all of
them in the order of their numbers. -/
structure Document.EffectsNumbered (d : Document) (fs : List (Tier × Fact)) : Prop where
  abilities : NumberedInBlocks fs (·.abilities) TriggeredEffect.numbered (·.id) d.abilities
  auras : NumberedInBlocks fs (·.auras)
    (fun aura => (aura (FactTable.empty.pushAll fs)).numbered) (·.id) d.auras
  /-- the count of large items stands right behind the burn that it gates -/
  burn : Stated fs .burn → ∃ gate counter : EffectId,
    counter.value.toNat = gate.value.toNat + 1 ∧
      d.abilities.get? gate = some (TriggeredEffect.burnOncePerFight.numbered gate) ∧
      d.abilities.get? counter = some (TriggeredEffect.countLargeItems.numbered counter)
  tiers : ∀ e ∈ d.tiers.entries,
    e.2.abilityIds.map (·.value.toNat) = List.range (effectCount fs (·.abilities) catalog) ∧
      e.2.auraIds.map (·.value.toNat) = List.range (effectCount fs (·.auras) catalog)

theorem FactTable.document_effectsNumbered (fs : List (Tier × Fact)) :
    (empty.pushAll fs).document.EffectsNumbered fs where
  abilities := abilities_blocks fs
  auras := auras_blocks fs
  burn hb := by
    have hbuilt : Entry.burn.BuiltBy fs := ⟨hb, fun _ h => absurd h List.not_mem_nil⟩
    have hblock := (abilities_blocks fs).block (catalog.take 9) .burn (catalog.drop 10) rfl hbuilt
    obtain ⟨gate, hgate, hget⟩ := hblock 0 .burnOncePerFight rfl
    obtain ⟨counter, hcounter, hget'⟩ := hblock 1 .countLargeItems rfl
    exact ⟨gate, counter, by rw [hcounter, hgate], hget, hget'⟩
  tiers e he := by
    obtain ⟨-, he⟩ := mem_tiers_document.mp he
    rw [he]
    exact ⟨(abilities_blocks fs).keys, (auras_blocks fs).keys⟩

/-- **How effects are numbered**, in the document of every table that pushes reach and of every
card. -/
theorem Document.effects_numbered :
    (∀ fs, (FactTable.empty.pushAll fs).document.EffectsNumbered fs) ∧
      ∀ card : Card, card.compile.EffectsNumbered card.facts := by
  refine ⟨FactTable.document_effectsNumbered, fun card => ?_⟩
  rw [Card.compile_eq_document]
  exact FactTable.document_effectsNumbered card.facts

end CardText
