import CardText.OrderedMap
import CardText.Text.Character
import CardText.Text.Quoted

/-!
# Facts

What one line of a card says on one tier (`TooltipFact`): the kind of effect it was recognised as
(`FactType`), the numbers read from it (`FactParams`), and its text. A fact from which not all
numbers could be read is kept to be looked at, but it is not extracted and the card is built without
it.
-/

namespace CardText

/-- Where facts are shown: active and passive effects, cooldowns and prices. -/
inductive FactCategory
  | active
  | passive
  | cooldown
  | price
  deriving DecidableEq

/-- The kinds of effects that lines are recognised as, and `unmatched` for any other line
(`FactType`). -/
inductive FactType
  | cooldown
  | price
  | damage
  | critDamage
  | healTrigger
  | shieldDamage
  | shieldBuff
  | weaponDamageBuff
  | weaponHaste
  | burn
  | weaponLifesteal
  | leftmostWeaponLifesteal
  | leftmostToolMulticast
  | largeWeaponDoubleDamage
  | freezeReloadWeapon
  | bothPlayersWeaponDoubleDamage
  | slowChargeItem
  | combatDoubleItemValue
  | enemyCooldownIncrease
  | toolUseReloadAdjacent
  | unmatched
  deriving DecidableEq

/-- The numbers that lines hold. -/
inductive FactParam
  | amount
  | targets
  | buyPrice
  | sellPrice
  deriving DecidableEq

namespace FactCategory

/-- All categories, in their order. -/
def all : List FactCategory := [active, passive, cooldown, price]

/-- The name of a category. -/
def name : FactCategory → String
  | active => "Active"
  | passive => "Passive"
  | cooldown => "Cooldown"
  | price => "Price"

theorem mem_all (c : FactCategory) : c ∈ all := by cases c <;> decide

end FactCategory

namespace FactType

/-- All kinds, in their order. -/
def all : List FactType :=
  [cooldown, price, damage, critDamage, healTrigger, shieldDamage, shieldBuff, weaponDamageBuff,
    weaponHaste, burn, weaponLifesteal, leftmostWeaponLifesteal, leftmostToolMulticast,
    largeWeaponDoubleDamage, freezeReloadWeapon, bothPlayersWeaponDoubleDamage, slowChargeItem,
    combatDoubleItemValue, enemyCooldownIncrease, toolUseReloadAdjacent, unmatched]

/-- The name of a kind, as it stands in the display of a fact. -/
def name : FactType → String
  | cooldown => "Cooldown"
  | price => "Price"
  | damage => "Damage"
  | critDamage => "CritDamage"
  | healTrigger => "HealTrigger"
  | shieldDamage => "ShieldDamage"
  | shieldBuff => "ShieldBuff"
  | weaponDamageBuff => "WeaponDamageBuff"
  | weaponHaste => "WeaponHaste"
  | burn => "Burn"
  | weaponLifesteal => "WeaponLifesteal"
  | leftmostWeaponLifesteal => "LeftmostWeaponLifesteal"
  | leftmostToolMulticast => "LeftmostToolMulticast"
  | largeWeaponDoubleDamage => "LargeWeaponDoubleDamage"
  | freezeReloadWeapon => "FreezeReloadWeapon"
  | bothPlayersWeaponDoubleDamage => "BothPlayersWeaponDoubleDamage"
  | slowChargeItem => "SlowChargeItem"
  | combatDoubleItemValue => "CombatDoubleItemValue"
  | enemyCooldownIncrease => "EnemyCooldownIncrease"
  | toolUseReloadAdjacent => "ToolUseReloadAdjacent"
  | unmatched => "Unmatched"

/-- The name of a kind as a key, with a small letter at the start. -/
def key (t : FactType) : String := t.name.decapitalize

theorem mem_all (t : FactType) : t ∈ all := by cases t <;> decide

end FactType

namespace FactParam

/-- All parameters, in their order. -/
def all : List FactParam := [amount, targets, buyPrice, sellPrice]

/-- The name of a parameter. -/
def name : FactParam → String
  | amount => "Amount"
  | targets => "Targets"
  | buyPrice => "BuyPrice"
  | sellPrice => "SellPrice"

instance : Ranked FactParam where
  rank := FactParam.ctorIdx
  rank_injective {a b} h := by cases a <;> cases b <;> first | rfl | exact absurd h (by decide)

theorem mem_all (p : FactParam) : p ∈ all := by cases p <;> decide

end FactParam

/-- The numbers read from a line. -/
abbrev FactParams := OrderedMap FactParam Int

/-- What one line of a card says on one tier (`TooltipFact`). -/
structure Fact where
  category : FactCategory
  type : FactType
  text : String
  params : FactParams := .empty
  /-- whether all numbers that the kind asks for were read -/
  extracted : Bool := true
  deriving DecidableEq

namespace Fact

/-- The fact of a line that no kind recognises. -/
def unmatched (text : String) : Fact := { category := .passive, type := .unmatched, text }

/-- The number read for a parameter. -/
def param (f : Fact) (p : FactParam) : Option Int := f.params.get? p

/-- The main number of a fact. -/
def amount (f : Fact) : Option Int := f.param .amount

/-- One parameter in the display of a fact. -/
def displayParam (e : FactParam × Int) : List Char :=
  e.1.name.toList ++ ": ".toList ++ Text.signedDecimal e.2

/-- Texts with a comma and a blank between them. -/
def separated : List (List Char) → List Char
  | [] => []
  | s :: ss => s ++ ss.flatMap fun t => ", ".toList ++ t

/-- A fact on one line, as `TooltipFact` is displayed: category and kind, the text between quotes,
and the parameters. -/
def display (f : Fact) : List Char :=
  "TooltipFact<".toList ++ f.category.name.toList ++ '/' :: f.type.name.toList ++ ", ".toList ++
    Text.quoted f.text.toList ++ ", ".toList ++
    ('{' :: separated (f.params.entries.map displayParam) ++ ['}', '>'])

end Fact

end CardText
