import CardText.Document.Basic
import CardText.Effect.Json
import CardText.Json

/-!
# Documents as JSON

A `Document` is written by `to_json`. Fields stand in a fixed order, and the entries of maps in the
order of their keys.
-/

namespace CardText

open Json

/-- Attributes by name. -/
def Attributes.toJson (bag : Attributes) : Json :=
  obj (bag.entries.map fun e => (e.1.name, int e.2))

/-- A tier: its attributes and the numbers of what belongs to it. -/
def CardTier.toJson (t : CardTier) : Json :=
  obj
    [("Attributes", Attributes.toJson t.attributes),
      ("AbilityIds", arr (t.abilityIds.map EffectId.toJson)),
      ("AuraIds", arr (t.auraIds.map EffectId.toJson)),
      ("TooltipIds", arr (t.tooltipIds.map fun i => int i.toNat))]

/-- A text that is shown to players (`LocalizedText`). -/
def shownText (s : String) : Json := obj [("Text", str s)]

/-- A tooltip. -/
def Tooltip.toJson (t : Tooltip) : Json :=
  obj
    [("Content", shownText t.text), ("TooltipType", str t.type.name),
      ("Prerequisites", prerequisitesToJson t.prerequisites)]

/-- The texts of a card. -/
def Localization.toJson (l : Localization) : Json :=
  obj
    [("Description", ofOption shownText l.description),
      ("Tooltips", arr (l.tooltips.map Tooltip.toJson))]

/-- Abilities under their numbers. -/
def abilitiesToJson (m : OrderedMap EffectId Ability) : Json :=
  obj (m.entries.map fun e => (e.1.text, e.2.toJson))

/-- Auras under their numbers. -/
def aurasToJson (m : OrderedMap EffectId Aura) : Json :=
  obj (m.entries.map fun e => (e.1.text, e.2.toJson))

/-- The tiers of a card by name. -/
def tiersToJson (m : OrderedMap Tier CardTier) : Json :=
  obj (m.entries.map fun e => (e.1.name, e.2.toJson))

namespace Document

/-- A document. -/
def toJson (d : Document) : Json :=
  obj
    [("Abilities", abilitiesToJson d.abilities), ("Auras", aurasToJson d.auras),
      ("Tiers", tiersToJson d.tiers), ("Localization", d.localization.toJson)]

/-- The text of a document, compact or indented (`to_json`). -/
def render (pretty : Bool) (d : Document) : String := d.toJson.render pretty

end Document

end CardText
