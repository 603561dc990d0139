import CardText.Document.Json
import CardText.Proofs.Effect.Json
import CardText.Proofs.Json.Readability
import CardText.Proofs.Json.Squeeze

/-!
# Documents are told by their texts

No two documents have the same text, be it compact or indented (`to_json`). What stands between a
document and its text is one-to-one step by step: the fields and entries of every part are read off
its JSON value, and the value off the text.

Results:

* `OrderedMap.toJson_injective`: a map is told by the object of its entries.
* `Json.render_injective`: a value is told by its text in either layout.
* `Document.toJson_injective`: a document is told by its JSON value.
* **`Document.text_unambiguous`**: documents, and the effects in them and all that these are made
  of, are told by their texts.
-/

namespace CardText

open Json

/-! ## Maps -/

/-- A map is told by the object of its entries, where keys are told by their texts and values by
their JSON values. -/
theorem OrderedMap.toJson_injective {κ α : Type} [Ranked κ] {key : κ → String} {f : α → Json}
    (hkey : Function.Injective key) (hf : Function.Injective f) :
    Function.Injective fun m : OrderedMap κ α => obj (m.entries.map fun e => (key e.1, f e.2)) := by
  intro m m' h
  have hentry : ∀ e e' : κ × α, (key e.1, f e.2) = (key e'.1, f e'.2) → e = e' := by
    intro e e' he
    obtain ⟨hkeys, hvalues⟩ := Prod.mk.inj he
    exact Prod.ext (hkey hkeys) (hf hvalues)
  exact OrderedMap.ext_entries ((List.map_inj_right hentry).mp (Json.obj.inj h))

theorem Tier.name_injective : Function.Injective Tier.name := by
  intro t u h
  have ht := Tier.ofName?_name t
  rw [h, Tier.ofName?_name] at ht
  exact (Option.some.inj ht).symm

theorem TooltipType.name_injective : Function.Injective TooltipType.name := by
  intro a b h
  cases a <;> cases b <;> first | rfl | exact absurd h (by decide)

theorem Attributes.toJson_injective : Function.Injective Attributes.toJson :=
  OrderedMap.toJson_injective Attribute.name_injective fun _ _ => Json.int.inj

theorem abilitiesToJson_injective : Function.Injective abilitiesToJson :=
  OrderedMap.toJson_injective EffectId.text_injective Ability.toJson_injective

theorem aurasToJson_injective : Function.Injective aurasToJson :=
  OrderedMap.toJson_injective EffectId.text_injective Aura.toJson_injective

/-! ## Tiers and texts -/

theorem TooltipId.toNat_injective : Function.Injective TooltipId.toNat := by
  intro i j h
  rw [← ofNat_toNat i, h, ofNat_toNat]

theorem CardTier.toJson_injective : Function.Injective CardTier.toJson := by
  intro t u h
  obtain ⟨attributes, abilityIds, auraIds, tooltipIds⟩ := t
  obtain ⟨attributes', abilityIds', auraIds', tooltipIds'⟩ := u
  simp only [CardTier.toJson, Json.obj.injEq, field_inj, and_true] at h
  obtain ⟨hattributes, habilities, hauras, htooltips⟩ := h
  have hids := arr_map_injective (str_injective EffectId.text_injective)
  have hnumber : Function.Injective fun i : TooltipId => Json.int i.toNat :=
    fun _ _ h => TooltipId.toNat_injective (Int.ofNat.inj (Json.int.inj h))
  rw [Attributes.toJson_injective hattributes, hids habilities, hids hauras,
    arr_map_injective hnumber htooltips]

theorem tiersToJson_injective : Function.Injective tiersToJson :=
  OrderedMap.toJson_injective Tier.name_injective CardTier.toJson_injective

theorem shownText_injective : Function.Injective shownText := by
  intro s t h
  simpa [shownText] using h

theorem Tooltip.toJson_injective : Function.Injective Tooltip.toJson := by
  intro t u h
  obtain ⟨text, type, prerequisites⟩ := t
  obtain ⟨text', type', prerequisites'⟩ := u
  simp only [Tooltip.toJson, Json.obj.injEq, field_inj, and_true] at h
  obtain ⟨htext, htype, hprerequisites⟩ := h
  rw [shownText_injective htext, str_injective TooltipType.name_injective htype,
    prerequisitesToJson_injective hprerequisites]

theorem Localization.toJson_injective : Function.Injective Localization.toJson := by
  intro l l' h
  obtain ⟨description, tooltips⟩ := l
  obtain ⟨description', tooltips'⟩ := l'
  simp only [Localization.toJson, Json.obj.injEq, field_inj, and_true] at h
  rw [ofOption_injective shownText_injective (fun _ => Json.noConfusion) h.1,
    arr_map_injective Tooltip.toJson_injective h.2]

/-! ## Documents -/

/-- **The JSON of a document tells the document.** -/
theorem Document.toJson_injective : Function.Injective Document.toJson := by
  intro d d' h
  obtain ⟨abilities, auras, tiers, localization⟩ := d
  obtain ⟨abilities', auras', tiers', localization'⟩ := d'
  simp only [Document.toJson, Json.obj.injEq, field_inj, and_true] at h
  obtain ⟨habilities, hauras, htiers, hlocalization⟩ := h
  rw [abilitiesToJson_injective habilities, aurasToJson_injective hauras,
    tiersToJson_injective htiers, Localization.toJson_injective hlocalization]

/-- A value is told by its text: an indented one is squeezed first. -/
theorem Json.render_injective (pretty : Bool) : Function.Injective (render pretty) := by
  intro v w h
  have hsqueezed : (v.render false).toList = (w.render false).toList := by
    rw [← squeeze_toList_render pretty v, h, squeeze_toList_render]
  exact compact_injective (String.ofList_injective (String.toList_injective hsqueezed))

/-- **The text is unambiguous.** Two documents with the same text are the same document; so are two
targets, conditions, quantities, triggers, actions, abilities or auras. -/
theorem Document.text_unambiguous (pretty : Bool) :
    Function.Injective (Document.render pretty) ∧
      Function.Injective (fun t : Target => t.toJson.render pretty) ∧
      Function.Injective (fun c : Condition => c.toJson.render pretty) ∧
      Function.Injective (fun q : Quantity => q.toJson.render pretty) ∧
      Function.Injective (fun t : Trigger => t.toJson.render pretty) ∧
      Function.Injective (fun a : Action => a.toJson.render pretty) ∧
      Function.Injective (fun a : Ability => a.toJson.render pretty) ∧
      Function.Injective (fun a : Aura => a.toJson.render pretty) := by
  have hrender := Json.render_injective pretty
  exact ⟨hrender.comp Document.toJson_injective, hrender.comp Target.toJson_injective,
    hrender.comp Condition.toJson_injective, hrender.comp Quantity.toJson_injective,
    hrender.comp Trigger.toJson_injective, hrender.comp Action.toJson_injective,
    hrender.comp Ability.toJson_injective, hrender.comp Aura.toJson_injective⟩

end CardText
