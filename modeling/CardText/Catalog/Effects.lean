import CardText.Catalog.Entry

/-!
# The effects of the catalog

The abilities and the auras that the entries of the catalog give a card, before they are numbered:
what an `AbilityBuilder` or an `AuraBuilder` makes of a number is such an effect under it.
-/

namespace CardText

open Condition Target

/-! ## Abilities -/

namespace TriggeredEffect

/-- When the card is used, the other player takes damage (`damage` and `shield_damage`). -/
def hitOpponent : TriggeredEffect :=
  { trigger := .cardFired, action := .damage none (.opponent none), priority := .medium }

/-- A weapon of the hand is used (`weapon_used`). -/
def weaponUsed : Trigger := .itemUsed (cardsWhere .selfHand (tag .weapon))

/-- Another large item of the hand is used (`large_item_used`). -/
def otherLargeItemUsed : Trigger := .itemUsed (cardsWhere .selfHand (size .large)).excludingSelf

/-- Healing raises the card's damage (`heal_trigger`). -/
def damageOnHeal : TriggeredEffect :=
  { trigger := .healed (allCards .selfBoard)
    action := .modifyAll .damageAmount .add ((Quantity.own .custom0).times 1) .self
    priority := .low }

/-- Using the card raises the shields of the hand (`shield_buff`). -/
def shieldBuff : TriggeredEffect :=
  { trigger := .cardFired
    action := .modifyAll .shieldApplyAmount .add (.own .custom0)
      (cardsWhere .selfHand (hiddenTag .shield))
    priority := .high }

/-- Using a weapon raises the damage of the hand (`weapon_damage_buff`). -/
def weaponDamageBuff : TriggeredEffect :=
  { trigger := weaponUsed
    action := .modifyAll .damageAmount .add ((Quantity.own .custom0).times 1) (allCards .selfHand)
    priority := .low }

/-- Using a weapon hastes it (`weapon_haste`). -/
def weaponHaste : TriggeredEffect :=
  { trigger := weaponUsed
    action := .haste (.triggerSource false (some (tag .weapon &&& hasCooldown)))
    priority := .low }

/-- Using a large item burns, as long as the card's counter is zero: once a fight
(`burn_once_per_fight`). -/
def burnOncePerFight : TriggeredEffect :=
  requiring
    { trigger := otherLargeItemUsed, action := .burn none (.opponent none), priority := .medium }
    { subject := .this (some (comparesWith .custom0 .equal 0)), comparison := .equal, amount := 1 }

/-- Using a large item raises the counter (`burn_tracking`). -/
def countLargeItems : TriggeredEffect :=
  { trigger := otherLargeItemUsed
    action := .modifyAll .custom0 .add (.fixed 1) .self
    priority := .immediate }

/-- Freezing reloads a weapon (`freeze_reload_weapon`). -/
def reloadOnFreeze : TriggeredEffect :=
  { trigger := .froze (allCards .selfBoard)
    action := .reload (.random false .selfHand (some (hasCooldown &&& .either [tag .weapon])))
    priority := .lowest }

/-- Slowing charges an item (`slow_charge_item`). -/
def chargeOnSlow : TriggeredEffect :=
  { trigger := .slowed (allCards .selfBoard)
    action := .charge (.random false .selfHand (some hasCooldown))
    priority := .low }

/-- The items of the hand have twice their value in a fight (`combat_double_item_value`). -/
def doubleItemValue : TriggeredEffect :=
  { trigger := .fightStarted none
    action := .modifyAll .sellPrice .multiply (.fixed 2) (allCards .selfHand).excludingSelf
    priority := .medium }

/-- Using a tool reloads the items beside it (`tool_use_reload_adjacent`). -/
def reloadBesideTool : TriggeredEffect :=
  { trigger := .itemUsed (cardsWhere .selfHand (tag .tool))
    action := .reload (.neighbors false (some (comparesWith .ammoMax .greaterThan 0)))
    priority := .lowest }

end TriggeredEffect

/-! ## Auras -/

namespace LastingEffect

/-- The other cards of the hand, of which the leftmost counts (`leftmost_other`). -/
def leftmostOther (c : Condition) : Target := .leftmost .selfHand true (some c)

/-- More damage by critical hits (`crit_damage`). -/
def critDamage : LastingEffect :=
  { slot := .damageCrit, operation := .add, value := .fixed 300, target := .self }

/-- Damage by the highest shield of the hand (`shield_damage`). -/
def highestShieldDamage : LastingEffect :=
  { slot := .damageAmount
    operation := .add
    value := (Quantity.attributeOf (cardsWhere .selfHand (.highest .shieldApplyAmount))
      .shieldApplyAmount).times 1
    target := .self }

/-- Lifesteal for all that a target names. -/
def lifesteal (target : Target) : LastingEffect :=
  { slot := .lifesteal, operation := .add, value := .fixed 100, target }

/-- Lifesteal for the weapons of the hand (`weapon_lifesteal`). -/
def weaponLifesteal : LastingEffect := lifesteal (cardsWhere .selfHand (tag .weapon))

/-- Lifesteal for the leftmost other weapon (`leftmost_weapon_lifesteal`). -/
def leftmostWeaponLifesteal : LastingEffect := lifesteal (leftmostOther (tag .weapon))

/-- More casts for the leftmost tool (`leftmost_tool_multicast`). -/
def leftmostToolMulticast : LastingEffect :=
  { slot := .multicast
    operation := .add
    value := .own .custom0
    target := leftmostOther (hasCooldown &&& tag .tool) }

/-- Twice the damage for all that a target names. -/
def doubleDamage (target : Target) : LastingEffect :=
  { slot := .damageAmount, operation := .multiply, value := .fixed 2, target }

/-- Twice the damage for the large weapons of the hand (`large_weapon_double_damage`). -/
def largeWeaponDoubleDamage : LastingEffect :=
  doubleDamage (cardsWhere .selfHand (tag .weapon &&& size .large))

/-- Twice the damage for the weapons of a zone (`double_weapon_damage`). -/
def weaponDoubleDamage (zone : Zone) : LastingEffect :=
  doubleDamage (cardsWhere zone (tag .weapon))

/-- The increase of a cooldown whose line states none that fits (`DEFAULT_COOLDOWN_INCREASE_MS`). -/
def defaultCooldownIncrease : Int := 1000

/-- Longer cooldowns for the other player, by the seconds of the first such line of the card
(`enemy_cooldown_increase`). -/
def enemyCooldownIncrease (t : FactTable) : LastingEffect :=
  { slot := .cooldownMax
    operation := .add
    value := .fixed (((t.firstParam? .enemyCooldownIncrease .amount).bind millis?).getD
      defaultCooldownIncrease)
    target := cardsWhere .opponentHand hasCooldown }

end LastingEffect

end CardText
