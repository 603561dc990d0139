import CardText.Document.Basic
import CardText.Proofs.Fact.Presence
import Mathlib.Data.List.Nodup
import Mathlib.Data.List.TakeWhile

/-!
# Kinds of lines and the entries of the catalog

Every kind of `FactType` but `unmatched` has one entry in the `CATALOG`, and the entry's category is
fixed by the kind. So the facts of classified lines stand in the lists that their kinds name, and no
two lists share a kind.

Results:

* `category_eq_of_mem_catalog`, `lastLineWins_iff_of_mem_catalog`: what of an entry its kind fixes.
* `category_classify`: a classified line has the category of its kind.
* `classify_eq_of_first`: the first entry that recognises a text makes its fact.
* `exists_param_of_extracted`: an extracted line has every number that its kind asks for.
* `aura_eq_or_of_mem_catalog`, `auras_eq_of_firstParam?_eq`: one aura depends on the card, and
  what it reads is the first increase of cooldowns.
-/

namespace CardText

/-- The category of the facts of a kind. -/
def FactType.category : FactType → FactCategory
  | .cooldown => .cooldown
  | .price => .price
  | .damage | .shieldDamage | .shieldBuff => .active
  | _ => .passive

/-! ## Entries -/

theorem category_eq_of_mem_catalog : ∀ e ∈ catalog, e.category = e.type.category := by decide

theorem lastLineWins_iff_of_mem_catalog :
    ∀ e ∈ catalog, (e.lastLineWins = true ↔ e.type = .cooldown ∨ e.type = .price) := by decide

theorem type_ne_unmatched_of_mem_catalog : ∀ e ∈ catalog, e.type ≠ .unmatched := by decide

/-- Cooldowns and prices have no tooltips. -/
theorem type_ne_of_tooltipType?_isSome :
    ∀ e ∈ catalog, e.tooltipType?.isSome = true → e.type ≠ .cooldown ∧ e.type ≠ .price := by
  decide

/-- No two entries are of one kind. -/
theorem nodup_types_catalog : (catalog.map (·.type)).Nodup := by decide

/-- Of the entries of the catalog, one has an aura that depends on the card. -/
theorem auras_eq_or_of_mem_catalog : ∀ e ∈ catalog, e.type = .enemyCooldownIncrease ∨
    ∀ t u, e.auras.map (· t) = e.auras.map (· u) := by
  unfold catalog
  simp only [List.forall_mem_cons]
  refine ⟨?_, ?_, ?_, ?_, ?_, ?_, ?_, ?_, ?_, ?_, ?_, ?_, ?_, ?_, ?_, ?_, ?_, ?_, Or.inl rfl, ?_,
    fun _ h => absurd h List.not_mem_nil⟩
  all_goals exact Or.inr fun _ _ => rfl

/-- An entry is the only one of its kind. -/
theorem eq_of_type_eq {e e' : Entry} (he : e ∈ catalog) (he' : e' ∈ catalog)
    (h : e.type = e'.type) : e = e' :=
  List.inj_on_of_nodup_map nodup_types_catalog he he' h

/-- Every kind that lines are recognised as has an entry. -/
theorem exists_mem_catalog {type : FactType} (h : type ≠ .unmatched) :
    ∃ e ∈ catalog, e.type = type := by
  have hall : ∀ type ∈ FactType.all, type ≠ .unmatched → type ∈ catalog.map (·.type) := by decide
  exact List.mem_map.mp (hall type (FactType.mem_all type) h)

/-- The entry of a kind is the one that is of it. -/
theorem Entry.ofType?_eq_some {e : Entry} (he : e ∈ catalog) : Entry.ofType? e.type = some e := by
  cases h : Entry.ofType? e.type with
  | none =>
    have hne := List.find?_eq_none.mp h e he
    exact absurd rfl (of_decide_eq_false (Bool.not_eq_true _ ▸ hne))
  | some e' =>
    have htype := List.find?_some (p := fun x : Entry => decide (x.type = e.type)) h
    rw [eq_of_type_eq (List.mem_of_find?_eq_some h) he (of_decide_eq_true htype)]

/-- An aura is the same for every card, or it is the one that prolongs cooldowns. -/
theorem aura_eq_or_of_mem_catalog {e : Entry} (he : e ∈ catalog)
    {aura : FactTable → LastingEffect} (ha : aura ∈ e.auras) :
    aura = .enemyCooldownIncrease ∨ ∀ t u, aura t = aura u := by
  rcases auras_eq_or_of_mem_catalog e he with htype | hmap
  · obtain rfl : e = .enemyCooldownIncrease := eq_of_type_eq he (by simp [catalog]) htype
    exact Or.inl (List.mem_singleton.mp ha)
  · exact Or.inr fun t u => List.map_inj_left.mp (hmap t u) aura ha

/-- Of a table, the auras of the catalog read the first increase of cooldowns only. -/
theorem auras_eq_of_firstParam?_eq {t u : FactTable}
    (h : t.firstParam? .enemyCooldownIncrease .amount =
      u.firstParam? .enemyCooldownIncrease .amount) :
    ∀ e ∈ catalog, e.auras.map (· t) = e.auras.map (· u) := by
  intro e he
  refine List.map_congr_left fun aura ha => ?_
  rcases aura_eq_or_of_mem_catalog he ha with rfl | hsame
  · unfold LastingEffect.enemyCooldownIncrease
    rw [h]
  · exact hsame t u

/-! ## Classified lines -/

theorem text_classify (text : String) : (classify text).text = text := by
  unfold classify
  split <;> rfl

/-- A classified line has the category of its kind. -/
theorem category_classify (text : String) :
    (classify text).category = (classify text).type.category := by
  unfold classify
  split
  · rename_i e he
    exact category_eq_of_mem_catalog e (List.mem_of_find?_eq_some he)
  · rfl

/-- What a classified line says is what the entry of its kind reads. -/
theorem classify_eq_fact {e : Entry} (he : e ∈ catalog) {text : String}
    (h : (classify text).type = e.type) : classify text = e.fact text := by
  unfold classify at h ⊢
  cases hfind : catalog.find? (·.recognises text) with
  | none =>
    rw [hfind] at h
    exact absurd h.symm (type_ne_unmatched_of_mem_catalog e he)
  | some e' =>
    rw [hfind] at h
    have he' : e' ∈ catalog := List.mem_of_find?_eq_some hfind
    obtain rfl := eq_of_type_eq he' he h
    rfl

/-- **The first entry that recognises a text** makes its fact. -/
theorem classify_eq_of_first {e : Entry} (he : e ∈ catalog) {text : String}
    (hr : e.recognises text = true)
    (hfirst : ∀ e' ∈ catalog.takeWhile (·.type ≠ e.type), e'.recognises text = false) :
    classify text = e.fact text := by
  have hfind : catalog.find? (·.recognises text) = some e := by
    rw [List.find?_eq_some_iff_append]
    refine ⟨hr, catalog.takeWhile (·.type ≠ e.type), (catalog.dropWhile (·.type ≠ e.type)).tail,
      ?_, fun e' he' => by rw [hfirst e' he']; rfl⟩
    -- behind the entries of other kinds stands the one of this kind
    have hne : catalog.dropWhile (·.type ≠ e.type) ≠ [] := by
      intro hnil
      have hall := List.dropWhile_eq_nil_iff.mp hnil e he
      exact absurd rfl (of_decide_eq_true hall)
    have hhead := List.head_dropWhile_not (fun x : Entry => decide (x.type ≠ e.type)) hne
    rw [decide_eq_false_iff_not, not_not] at hhead
    have hmem := (List.dropWhile_sublist _).mem (List.head_mem hne)
    have hcons := List.cons_head_tail hne
    rw [eq_of_type_eq hmem he hhead] at hcons
    rw [hcons, List.takeWhile_append_dropWhile]
  rw [classify, hfind]

/-- What a text is classified as is recognised in it. -/
theorem recognises_of_type_classify {e : Entry} (he : e ∈ catalog) {text : String}
    (h : (classify text).type = e.type) : e.recognises text = true := by
  unfold classify at h
  cases hfind : catalog.find? (·.recognises text) with
  | none =>
    rw [hfind] at h
    exact absurd h.symm (type_ne_unmatched_of_mem_catalog e he)
  | some e' =>
    rw [hfind] at h
    obtain rfl := eq_of_type_eq (List.mem_of_find?_eq_some hfind) he h
    exact List.find?_some (p := fun e : Entry => e.recognises text) hfind

/-- **An extracted line has every number that its kind asks for.** -/
theorem exists_param_of_extracted {e : Entry} (he : e ∈ catalog) {text : String}
    (h : (classify text).type = e.type) (hx : (classify text).extracted = true) {p : FactParam}
    (hp : p ∈ e.required) : ∃ n, (classify text).param p = some n := by
  rw [classify_eq_fact he h] at hx ⊢
  have hall : (e.required.all (e.params text).contains) = true := hx
  exact Option.isSome_iff_exists.mp (List.all_eq_true.mp hall p hp)

end CardText
