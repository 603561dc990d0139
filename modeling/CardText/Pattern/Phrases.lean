import CardText.Pattern.Basic

/-!
# The phrases of card texts

The patterns that card lines are recognised by and read with, from `COOLDOWN_SECONDS` to
`TOOL_USE_RELOAD_ADJACENT`. Some effects are recognised by one phrase in either case and read with a
shorter one in the case in which cards are printed.
-/

namespace CardText.Pattern

open Piece

/-- The pattern that is a text. -/
def containing (s : String) : Pattern := { pieces := phrase s }

/-- A cooldown in seconds (`COOLDOWN_SECONDS`). -/
def cooldownSeconds : Pattern :=
  { pieces := phrase "Cooldown " ++ number ++ phrase " seconds" }

/-- What a card costs, and what it is sold for (`PRICE`). -/
def price : Pattern :=
  { pieces := phrase "Buy for " ++ number ++ phrase " gold. Sell for " ++ number ++
      phrase " gold." }

/-- Damage, at the start of a text (`DEAL_DAMAGE`). -/
def dealDamage : Pattern :=
  { pieces := phrase "Deal " ++ number ++ phrase " damage.", anchored := true }

/-- The damage gained (`HEAL_GAINS_DAMAGE`). -/
def healGainsDamage : Pattern :=
  { pieces := phrase "gains " ++ number ++ phrase " damage" }

/-- A gain of shields (`SHIELD_ITEMS_GAIN`). Its number is not asked for. -/
def shieldItemsGain : Pattern :=
  { pieces := phrase "Shield items gain +" ++ [digits false] ++ phrase " Shield" }

/-- The shield gained (`SHIELD_AMOUNT`). -/
def shieldAmount : Pattern :=
  { pieces := phrase "+" ++ number ++ phrase " Shield" }

/-- The damage that weapons gain (`WEAPONS_GAIN_DAMAGE`). -/
def weaponsGainDamage : Pattern :=
  { pieces := phrase "weapons gain " ++ number ++ phrase " Damage" }

/-- The seconds of haste (`HASTE_IT_FOR`). -/
def hasteItFor : Pattern :=
  { pieces := phrase "Haste it for " ++ number ++ phrase " second" }

/-- The strength of a burn (`BURN`). -/
def burn : Pattern :=
  { pieces := phrase "Burn " ++ number }

/-- Lifesteal of weapons (`WEAPON_LIFESTEAL`). -/
def weaponLifesteal : Pattern :=
  { pieces := phrase "Your Weapons have Lifesteal", anyCase := true }

/-- Lifesteal of the leftmost weapon (`LEFTMOST_WEAPON_LIFESTEAL`). -/
def leftmostWeaponLifesteal : Pattern :=
  { pieces := phrase "Your leftmost Weapon has lifesteal", anyCase := true }

/-- More casts for the leftmost tool (`LEFTMOST_TOOL_MULTICAST`). -/
def leftmostToolMulticast : Pattern :=
  { pieces := phrase "Your leftmost Tool has +" ++ number ++ phrase " Multicast", anyCase := true }

/-- The number of further casts (`MULTICAST_AMOUNT`). -/
def multicastAmount : Pattern :=
  { pieces := phrase "+" ++ number ++ phrase " Multicast" }

/-- Twice the damage for large weapons (`LARGE_WEAPON_DOUBLE_DAMAGE`). -/
def largeWeaponDoubleDamage : Pattern :=
  { pieces := phrase "Double the damage of your Large weapons", anyCase := true }

/-- A reload by freezing (`FREEZE_RELOAD_WEAPON`). -/
def freezeReloadWeapon : Pattern :=
  { pieces := phrase "When you Freeze, Reload a Weapon " ++ number ++ phrase " ammo",
    anyCase := true }

/-- The ammunition reloaded (`RELOAD_AMMO_AMOUNT`). -/
def reloadAmmoAmount : Pattern :=
  { pieces := phrase "Reload a Weapon " ++ number ++ phrase " ammo" }

/-- Twice the damage for the weapons of both players, spelled with an apostrophe or without
(`BOTH_PLAYERS_DOUBLE_DAMAGE`). -/
def bothPlayersDoubleDamage : Pattern :=
  { pieces := phrase "Both players" ++ [apostrophe] ++ phrase " weapons have double damage",
    anyCase := true }

/-- Charging by slowing (`SLOW_CHARGE_ITEM`). -/
def slowChargeItem : Pattern :=
  { pieces := phrase "When you slow, charge " ++ number ++ phrase " item " ++ number ++
      phrase " second",
    anyCase := true }

/-- The number of items charged, and the seconds of it (`CHARGE_AMOUNT`). -/
def chargeAmount : Pattern :=
  { pieces := phrase "charge " ++ number ++ phrase " item " ++ number ++ phrase " second" }

/-- Twice the value for items in a fight (`COMBAT_DOUBLE_ITEM_VALUE`). -/
def combatDoubleItemValue : Pattern :=
  { pieces := phrase "Your items have double value during combat", anyCase := true }

/-- Longer cooldowns (`ENEMY_COOLDOWN_INCREASE`). -/
def enemyCooldownIncrease : Pattern :=
  { pieces := phrase "Enemy cooldowns are increased by " ++ number ++ phrase " second",
    anyCase := true }

/-- The seconds by which cooldowns get longer (`COOLDOWN_INCREASE_AMOUNT`). -/
def cooldownIncreaseAmount : Pattern :=
  { pieces := phrase "increased by " ++ number ++ phrase " second" }

/-- A reload beside a tool (`TOOL_USE_RELOAD_ADJACENT`). -/
def toolUseReloadAdjacent : Pattern :=
  { pieces := phrase "When you use a Tool, Reload an adjacent item", anyCase := true }

end CardText.Pattern
