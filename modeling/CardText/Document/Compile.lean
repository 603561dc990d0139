import CardText.Document.Basic

/-!
# Compiling a card

Everything in a document comes from the table of the card's facts, entry by entry of the catalog.
Abilities and auras are numbered from 0 over the whole card (`build_abilities`, `build_auras`), and
every tier lists all of them. Tooltips are numbered from 0 too (`tooltip_slots`), and a tier lists
those of the kinds that it has (`build_tiers`).

The diamond tier always exists (`tier_attributes`). It has a price even when no line states one, and
a tier acts once unless the card has a line on multicast or the tier one on the value of items in
combat.
-/

namespace CardText

namespace FactTable

variable (t : FactTable)

/-- The entries whose effects the card gets. -/
def buildingEntries : List Entry := catalog.filter fun e => e.builds t

/-- Effects under the numbers of their places. -/
def numbered {α β : Type} (number : α → EffectId → β) (effects : List α) :
    OrderedMap EffectId β :=
  .ofList (effects.zipIdx.map fun e => (EffectId.ofNat e.2, number e.1 (EffectId.ofNat e.2)))

/-- The abilities of the card (`build_abilities`). -/
def abilities : OrderedMap EffectId Ability :=
  numbered TriggeredEffect.numbered (t.buildingEntries.flatMap (·.abilities))

/-- The auras of the card (`build_auras`). -/
def auras : OrderedMap EffectId Aura :=
  numbered LastingEffect.numbered (t.buildingEntries.flatMap fun e => e.auras.map (· t))

end FactTable

/-- An entry that gives a card a tooltip, and the number of that tooltip. -/
structure TooltipSlot where
  id : TooltipId
  entry : Entry

namespace TooltipSlot

/-- Whether a tier has a line of the slot's kind (`present_on`). -/
def presentOn (s : TooltipSlot) (t : FactTable) (tier : Tier) : Bool :=
  t.presentOn s.entry.type tier

/-- The tooltip of the slot (`localize`). -/
def tooltip? (s : TooltipSlot) (t : FactTable) : Option Tooltip :=
  s.entry.tooltipType?.bind fun type =>
    (s.entry.tooltipText? t).map fun text => { text, type }

end TooltipSlot

namespace FactTable

variable (t : FactTable)

/-- The tooltips of the card with their numbers (`tooltip_slots`). -/
def tooltipSlots : List TooltipSlot :=
  (catalog.filter fun e => e.tooltipType?.isSome && t.contains e.type).zipIdx.map fun e =>
    ⟨.ofNat e.2, e.1⟩

/-- The attributes that the lines of a tier set, entry by entry. -/
def statedAttributes (tier : Tier) : Attributes :=
  catalog.foldl
    (fun bag e =>
      match e.tierFact? t tier with
      | some f => e.write f bag
      | none => bag)
    .empty

/-- The attributes of a tier (`tier_attributes`). -/
def attributes (tier : Tier) : Attributes :=
  let stated := t.statedAttributes tier
  let priced :=
    if tier = .diamond ∧ ¬ t.presentOn .price tier then
      stated.insert .buyPrice Document.defaultDiamondBuyPrice
    else stated
  if ¬ t.contains .leftmostToolMulticast ∧ ¬ t.presentOn .combatDoubleItemValue tier then
    priced.insert .multicast Document.defaultMulticast
  else priced

/-- The tiers that the card exists in. -/
def emittedTiers : List Tier := Tier.all.filter fun tier => tier = .diamond || t.tierPresent tier

/-- The tiers of the card (`build_tiers`). -/
def cardTiers (abilities : OrderedMap EffectId Ability) (auras : OrderedMap EffectId Aura)
    (slots : List TooltipSlot) : OrderedMap Tier CardTier :=
  .ofList (t.emittedTiers.map fun tier =>
    (tier,
      { attributes := t.attributes tier
        abilityIds := abilities.keys
        auraIds := auras.keys
        tooltipIds := (slots.filter fun s => s.presentOn t tier).map (·.id) }))

/-- The texts of the card (`build_localization`). The description of a card with a single effect is
its tooltip. -/
def localization (slots : List TooltipSlot) : Localization :=
  let tooltips := slots.filterMap fun s => s.tooltip? t
  { description := t.soleActiveType.bind fun _ => tooltips.head?.map (·.text)
    tooltips }

/-- The document of a table of facts. -/
def document : Document :=
  { abilities := t.abilities
    auras := t.auras
    tiers := t.cardTiers t.abilities t.auras t.tooltipSlots
    localization := t.localization t.tooltipSlots }

end FactTable

/-- The document of a card (`compile`); that of a card without lines is `default_card`. -/
def Card.compile (card : Card) : Document :=
  if card.isEmpty then Document.defaultCard else card.table.document

end CardText
