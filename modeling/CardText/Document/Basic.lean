import CardText.Catalog.Basic
import CardText.Json

/-!
# Cards and documents

What is compiled and what it is compiled to.

A card is the list of its lines, and a line has a text for some of the tiers (`TooltipInput`,
`TooltipLine`). The facts of a card are those of its lines in order, each line's from bronze to
diamond, and its table holds all of them (`classify_input`).

A document holds the abilities and auras of a card under their numbers, its tiers with their
attributes and with the numbers of what belongs to them, and its texts. The document of a card
without lines is `default_card`.
-/

namespace CardText

/-! ## Cards -/

/-- One line of a card (`TooltipLine`): its text on the tiers that have it. -/
abbrev Line := OrderedMap Tier String

/-- A card (`TooltipInput`): its lines in order. -/
abbrev Card := List Line

namespace Card

/-- The classified texts of a card, line by line. -/
def facts (card : Card) : List (Tier × Fact) :=
  card.flatMap fun line => line.entries.map fun e => (e.1, classify e.2)

/-- The table of a card's facts (`classify_input`). -/
def table (card : Card) : FactTable := FactTable.empty.pushAll card.facts

/-- A line as a JSON object of texts by tier. -/
def lineToJson (line : Line) : Json :=
  .obj (line.entries.map fun e => (e.1.name, .str e.2))

/-- A card as a JSON list of its lines. -/
def toJson (card : Card) : Json := .arr (card.map lineToJson)

end Card

/-! ## Documents -/

/-- The number of a tooltip within a card: a word of 32 bits. -/
structure TooltipId where
  value : UInt32
  deriving DecidableEq

namespace TooltipId

/-- The number of a place in a list. Only its low 32 bits count. -/
def ofNat (n : Nat) : TooltipId := ⟨UInt32.ofNat n⟩

/-- The place that a number stands for. -/
def toNat (i : TooltipId) : Nat := i.value.toNat

instance : Coe TooltipId Nat := ⟨toNat⟩

theorem toNat_ofNat {n : Nat} (h : n < UInt32.size) : (ofNat n).toNat = n :=
  UInt32.toNat_ofNat_of_lt' h

theorem ofNat_toNat (i : TooltipId) : ofNat i.toNat = i :=
  congrArg mk UInt32.ofNat_toNat

end TooltipId

/-- One tier of a compiled card. -/
structure CardTier where
  attributes : Attributes := .empty
  abilityIds : List EffectId := []
  auraIds : List EffectId := []
  tooltipIds : List TooltipId := []

/-- One tooltip (`LocalizationEntry`). -/
structure Tooltip where
  text : String
  type : TooltipType
  prerequisites : Option (List Prerequisite) := none

/-- The texts of a compiled card. -/
structure Localization where
  description : Option String := none
  tooltips : List Tooltip := []

/-- A compiled card. -/
structure Document where
  abilities : OrderedMap EffectId Ability := .empty
  auras : OrderedMap EffectId Aura := .empty
  tiers : OrderedMap Tier CardTier := .empty
  localization : Localization := {}

namespace Document

/-- How often a card acts when nothing else is said (`DEFAULT_MULTICAST`). -/
def defaultMulticast : Int := 1

/-- What a diamond card costs when nothing else is said (`DEFAULT_DIAMOND_BUY_PRICE`). -/
def defaultDiamondBuyPrice : Int := 40

/-- The document of a card without lines (`default_card`). -/
def defaultCard : Document :=
  { tiers := .ofList
      [(.diamond,
        { attributes := .ofList
            [(.multicast, defaultMulticast), (.buyPrice, defaultDiamondBuyPrice)] })] }

/-- The tiers that the card exists in (`available_tiers`). -/
def availableTiers (d : Document) : List Tier := d.tiers.keys

end Document

end CardText
