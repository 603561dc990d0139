import CardText.Effect.Ability
import CardText.Fact.Table
import CardText.Pattern.Basic

/-!
# Entries of the catalog

An entry (`CatalogEntry`) describes one kind of line: the phrase it is recognised by (`matches`),
the numbers that are read from it (`extract`, `required`), the attributes that they set
(`attributes`), the effects it gives the card, and its tooltip. The card's units are milliseconds;
lines state seconds.
-/

namespace CardText

/-- A number that a word of 64 bits holds. -/
def fits (n : Int) : Bool := -0x8000000000000000 ≤ n && n ≤ 0x7FFFFFFFFFFFFFFF

/-- Seconds in milliseconds, if that fits (`seconds_to_millis`). -/
def millis? (seconds : Int) : Option Int :=
  let n := seconds * 1000
  if fits n then some n else none

/-- How a line states a number. -/
inductive Measure
  | count
  | seconds
  deriving DecidableEq

namespace Measure

/-- The number in the card's unit. -/
def convert : Measure → Int → Option Int
  | count => some
  | seconds => millis?

end Measure

/-- Where a parameter is read: a group of a pattern's match, and how it is stated there. -/
structure Reading where
  param : FactParam
  pattern : Pattern
  group : Nat := 1
  measure : Measure := .count

namespace Reading

/-- The parameter's value in a text. -/
def value? (r : Reading) (text : String) : Option Int :=
  (r.pattern.capture r.group text).bind r.measure.convert

end Reading

/-- What an attribute is set to. -/
inductive AttributeSource
  /-- a parameter, from the unit it is kept in -/
  | param (p : FactParam) (measure : Measure)
  /-- always this number -/
  | constant (n : Int)

/-- One attribute that a fact sets. -/
structure AttributeWrite where
  slot : Attribute
  source : AttributeSource

namespace AttributeWrite

/-- An attribute that is set to a parameter. -/
def ofParam (slot : Attribute) (p : FactParam) : AttributeWrite := ⟨slot, .param p .count⟩

/-- An attribute that is set to a parameter in seconds. -/
def ofSeconds (slot : Attribute) (p : FactParam) : AttributeWrite := ⟨slot, .param p .seconds⟩

/-- An attribute that is always set to the same number. -/
def ofConstant (slot : Attribute) (n : Int) : AttributeWrite := ⟨slot, .constant n⟩

/-- The number that a fact gives the attribute. -/
def value? (w : AttributeWrite) (f : Fact) : Option Int :=
  match w.source with
  | .param p measure => (f.param p).bind measure.convert
  | .constant n => some n

/-- Sets the attribute; it stays as it was when the fact gives no number (`put`). -/
def apply (w : AttributeWrite) (f : Fact) (bag : Attributes) : Attributes :=
  match w.value? f with
  | some n => bag.insert w.slot n
  | none => bag

end AttributeWrite

/-- The tooltip of a kind of line. -/
inductive TooltipTemplate
  /-- no tooltip -/
  | hidden
  /-- this text, with places for numbers of the card -/
  | fixed (text : String)
  /-- the line itself -/
  | rawText
  deriving DecidableEq

/-- How a tooltip is shown. -/
inductive TooltipType
  | active
  | passive
  deriving DecidableEq

/-- The name of a way to show a tooltip. -/
def TooltipType.name : TooltipType → String
  | active => "Active"
  | passive => "Passive"

/-- One kind of line and everything that comes of it (`CatalogEntry`). -/
structure Entry where
  type : FactType
  category : FactCategory
  /-- the phrase that the kind is recognised by -/
  phrase : Pattern
  /-- the numbers that a fact of the kind has to have -/
  readings : List Reading := []
  /-- the kinds without which the card gets no effects of this one -/
  requires : List FactType := []
  abilities : List TriggeredEffect := []
  /-- lasting effects, which may depend on what else the card holds -/
  auras : List (FactTable → LastingEffect) := []
  writes : List AttributeWrite := []
  tooltip : TooltipTemplate := .hidden
  /-- the last line of a tier counts, in place of the first -/
  lastLineWins : Bool := false

namespace Entry

/-- Whether a text is recognised (`matches`). -/
def recognises (e : Entry) (text : String) : Bool := e.phrase.isMatch text

/-- The parameters that a fact has to have. -/
def required (e : Entry) : List FactParam := e.readings.map (·.param)

/-- The parameters that can be read from a text. -/
def params (e : Entry) (text : String) : FactParams :=
  .ofList (e.readings.filterMap fun r => (r.value? text).map fun n => (r.param, n))

/-- The fact that the entry makes of a text. -/
def fact (e : Entry) (text : String) : Fact :=
  let params := e.params text
  { category := e.category, type := e.type, text, params,
    extracted := e.required.all params.contains }

/-- The fact on a tier that the entry's attributes are set from (`tier_fact`). -/
def tierFact? (e : Entry) (t : FactTable) (tier : Tier) : Option Fact :=
  if e.lastLineWins then t.lastOn e.type tier else t.firstOn e.type tier

/-- Sets the entry's attributes from a fact. -/
def write (e : Entry) (f : Fact) (bag : Attributes) : Attributes :=
  e.writes.foldl (fun bag w => w.apply f bag) bag

/-- Whether the card gets the entry's effects. -/
def builds (e : Entry) (t : FactTable) : Bool :=
  t.contains e.type && e.requires.all t.contains

/-- How the entry's tooltip is shown, if it has one (`tooltip_type`). -/
def tooltipType? (e : Entry) : Option TooltipType :=
  match e.tooltip, e.category with
  | .hidden, _ => none
  | _, .active => some .active
  | _, .passive => some .passive
  | _, _ => none

/-- The text of the entry's tooltip on a card (`tooltip_text`). -/
def tooltipText? (e : Entry) (t : FactTable) : Option String :=
  match e.tooltip with
  | .hidden => none
  | .fixed text => some text
  | .rawText => (t.first? e.type).map (·.text)

/-- The entry in short, as `CatalogEntry` is shown. -/
def describe (e : Entry) : String :=
  "CatalogEntry<" ++ e.category.name ++ "/" ++ e.type.name ++
    ", abilities=" ++ String.ofList (Text.decimal e.abilities.length) ++
    ", auras=" ++ String.ofList (Text.decimal e.auras.length) ++ ">"

end Entry

end CardText
