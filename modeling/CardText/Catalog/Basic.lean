import CardText.Catalog.Effects
import CardText.Pattern.Phrases

/-!
# The catalog

All kinds of lines that are recognised, each an entry under the name of its kind in `FactType`. The
order of the catalog (`CATALOG`) is the order in which kinds are tried on a line, and the order in
which abilities, auras and tooltips of a card are numbered.
-/

namespace CardText

open AttributeWrite

/-- A place in a tooltip for a number of the ability with an index. -/
def abilityNumber (index : String) : String := "\x7bability." ++ index ++ "\x7d"

namespace Entry

/-- The time between two uses. A line that speaks of it in other words is recognised, but not
read. -/
def cooldown : Entry :=
  { type := .cooldown
    category := .cooldown
    phrase := .containing "Cooldown"
    readings := [{ param := .amount, pattern := .cooldownSeconds, measure := .seconds }]
    writes := [ofParam .cooldownMax .amount]
    lastLineWins := true }

/-- What the card costs and what it is sold for. -/
def price : Entry :=
  { type := .price
    category := .price
    phrase := .price
    readings :=
      [{ param := .buyPrice, pattern := .price },
        { param := .sellPrice, pattern := .price, group := 2 }]
    writes := [ofParam .buyPrice .buyPrice, ofParam .sellPrice .sellPrice]
    lastLineWins := true }

/-- Damage to the other player. The phrase has to start the line. -/
def damage : Entry :=
  { type := .damage
    category := .active
    phrase := .dealDamage
    readings := [{ param := .amount, pattern := .dealDamage }]
    abilities := [.hitOpponent]
    writes := [ofParam .damageAmount .amount]
    tooltip := .fixed ("Deal " ++ abilityNumber "0" ++ " damage.") }

/-- More damage by critical hits. -/
def critDamage : Entry :=
  { type := .critDamage
    category := .passive
    phrase := .containing "crit damage"
    auras := [fun _ => .critDamage]
    tooltip := .rawText }

/-- Damage that grows with healing. -/
def healTrigger : Entry :=
  { type := .healTrigger
    category := .passive
    phrase := .containing "When you heal"
    readings := [{ param := .amount, pattern := .healGainsDamage }]
    abilities := [.damageOnHeal]
    writes := [ofParam .custom0 .amount]
    tooltip := .fixed
      ("When you heal, this gains " ++ abilityNumber "1" ++ " damage for the fight.") }

/-- Damage as high as the highest shield. -/
def shieldDamage : Entry :=
  { type := .shieldDamage
    category := .active
    phrase := .containing "Shield value"
    abilities := [.hitOpponent]
    auras := [fun _ => .highestShieldDamage]
    tooltip := .rawText }

/-- Shields that grow. The effect needs a card that deals damage by its shields. -/
def shieldBuff : Entry :=
  { type := .shieldBuff
    category := .active
    phrase := .shieldItemsGain
    readings := [{ param := .amount, pattern := .shieldAmount }]
    requires := [.shieldDamage]
    abilities := [.shieldBuff]
    writes := [ofParam .custom0 .amount]
    tooltip := .fixed
      ("Your Shield items gain +" ++ abilityNumber "0" ++ " Shield for the fight.") }

/-- Weapons whose damage grows with use. -/
def weaponDamageBuff : Entry :=
  { type := .weaponDamageBuff
    category := .passive
    phrase := .weaponsGainDamage
    readings := [{ param := .amount, pattern := .weaponsGainDamage }]
    abilities := [.weaponDamageBuff]
    writes := [ofParam .custom0 .amount]
    tooltip := .fixed
      ("When you use a weapon, your weapons gain " ++ abilityNumber "0" ++
        " Damage for the fight.") }

/-- Weapons that speed up with use. -/
def weaponHaste : Entry :=
  { type := .weaponHaste
    category := .passive
    phrase := .hasteItFor
    readings := [{ param := .amount, pattern := .hasteItFor }]
    abilities := [.weaponHaste]
    writes := [ofSeconds .hasteAmount .amount, ofConstant .hasteTargets 1]
    tooltip := .fixed
      ("When you use a Weapon, Haste it for " ++ abilityNumber "1" ++ " second(s).") }

/-- A burn once a fight. The card counts the uses of large items, from 0 on. -/
def burn : Entry :=
  { type := .burn
    category := .passive
    phrase := .burn
    readings := [{ param := .amount, pattern := .burn }]
    abilities := [.burnOncePerFight, .countLargeItems]
    writes := [ofParam .burnApplyAmount .amount, ofConstant .custom0 0]
    tooltip := .fixed
      ("The first time you use a Large item each fight, Burn " ++ abilityNumber "0" ++ ".") }

/-- Weapons with lifesteal. -/
def weaponLifesteal : Entry :=
  { type := .weaponLifesteal
    category := .passive
    phrase := .weaponLifesteal
    auras := [fun _ => .weaponLifesteal]
    tooltip := .rawText }

/-- A leftmost weapon with lifesteal. -/
def leftmostWeaponLifesteal : Entry :=
  { type := .leftmostWeaponLifesteal
    category := .passive
    phrase := .leftmostWeaponLifesteal
    auras := [fun _ => .leftmostWeaponLifesteal]
    tooltip := .rawText }

/-- A leftmost tool that acts more often. -/
def leftmostToolMulticast : Entry :=
  { type := .leftmostToolMulticast
    category := .passive
    phrase := .leftmostToolMulticast
    readings := [{ param := .amount, pattern := .multicastAmount }]
    auras := [fun _ => .leftmostToolMulticast]
    writes := [ofParam .custom0 .amount]
    tooltip := .rawText }

/-- Large weapons with twice their damage. -/
def largeWeaponDoubleDamage : Entry :=
  { type := .largeWeaponDoubleDamage
    category := .passive
    phrase := .largeWeaponDoubleDamage
    auras := [fun _ => .largeWeaponDoubleDamage]
    tooltip := .rawText }

/-- A weapon that freezing reloads. -/
def freezeReloadWeapon : Entry :=
  { type := .freezeReloadWeapon
    category := .passive
    phrase := .freezeReloadWeapon
    readings := [{ param := .amount, pattern := .reloadAmmoAmount }]
    abilities := [.reloadOnFreeze]
    writes := [ofParam .reloadAmount .amount, ofConstant .reloadTargets 1]
    tooltip := .fixed ("When you Freeze, Reload a Weapon " ++ abilityNumber "0" ++ " ammo.") }

/-- Weapons of both players with twice their damage. -/
def bothPlayersWeaponDoubleDamage : Entry :=
  { type := .bothPlayersWeaponDoubleDamage
    category := .passive
    phrase := .bothPlayersDoubleDamage
    auras := [fun _ => .weaponDoubleDamage .selfHand,
      fun _ => .weaponDoubleDamage Zone.selfHand.opposite]
    tooltip := .rawText }

/-- Items that slowing charges. -/
def slowChargeItem : Entry :=
  { type := .slowChargeItem
    category := .passive
    phrase := .slowChargeItem
    readings :=
      [{ param := .targets, pattern := .chargeAmount },
        { param := .amount, pattern := .chargeAmount, group := 2 }]
    abilities := [.chargeOnSlow]
    writes := [ofSeconds .chargeAmount .amount, ofParam .chargeTargets .targets]
    tooltip := .fixed
      ("When you slow, charge " ++ abilityNumber "0.targets" ++ " item " ++ abilityNumber "0" ++
        " second(s).") }

/-- Items with twice their value in a fight. -/
def combatDoubleItemValue : Entry :=
  { type := .combatDoubleItemValue
    category := .passive
    phrase := .combatDoubleItemValue
    abilities := [.doubleItemValue]
    tooltip := .rawText }

/-- Longer cooldowns for the other player. -/
def enemyCooldownIncrease : Entry :=
  { type := .enemyCooldownIncrease
    category := .passive
    phrase := .enemyCooldownIncrease
    readings := [{ param := .amount, pattern := .cooldownIncreaseAmount }]
    auras := [.enemyCooldownIncrease]
    tooltip := .rawText }

/-- Tools that reload the items beside them. A reload without an amount fills the item. -/
def toolUseReloadAdjacent : Entry :=
  { type := .toolUseReloadAdjacent
    category := .passive
    phrase := .toolUseReloadAdjacent
    abilities := [.reloadBesideTool]
    writes := [ofConstant .reloadAmount 99, ofConstant .reloadTargets 1]
    tooltip := .rawText }

end Entry

/-- The kinds of lines, in the order in which they are tried (`CATALOG`). -/
def catalog : List Entry :=
  [.cooldown, .price, .damage, .critDamage, .healTrigger, .shieldDamage, .shieldBuff,
    .weaponDamageBuff, .weaponHaste, .burn, .weaponLifesteal, .leftmostWeaponLifesteal,
    .leftmostToolMulticast, .largeWeaponDoubleDamage, .freezeReloadWeapon,
    .bothPlayersWeaponDoubleDamage, .slowChargeItem, .combatDoubleItemValue,
    .enemyCooldownIncrease, .toolUseReloadAdjacent]

/-- The entry of a kind; an unmatched line has none (`entry`). -/
def Entry.ofType? (type : FactType) : Option Entry := catalog.find? fun e => e.type = type

/-- The fact of a line: that of the first entry that recognises it. -/
def classify (text : String) : Fact :=
  match catalog.find? fun e => e.recognises text with
  | some e => e.fact text
  | none => .unmatched text

end CardText
