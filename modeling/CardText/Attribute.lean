import CardText.OrderedMap

/-!
# Attributes of a card

The numeric slots of a card that its effects read and change (`AttributeType`). A tier's bag of
them, `Attributes`, is shown in the order of the slots: `Multicast` first, then the slots that lines
write, then those that only effects refer to.
-/

namespace CardText

/-- A numeric slot of a card (`AttributeType`). -/
inductive Attribute
  | multicast
  | cooldownMax
  | buyPrice
  | sellPrice
  | damageAmount
  | custom0
  | hasteAmount
  | hasteTargets
  | burnApplyAmount
  | reloadAmount
  | reloadTargets
  | chargeAmount
  | chargeTargets
  | damageCrit
  | shieldApplyAmount
  | lifesteal
  | ammoMax
  deriving DecidableEq

namespace Attribute

/-- All slots in their order. -/
def all : List Attribute :=
  [multicast, cooldownMax, buyPrice, sellPrice, damageAmount, custom0, hasteAmount, hasteTargets,
    burnApplyAmount, reloadAmount, reloadTargets, chargeAmount, chargeTargets, damageCrit,
    shieldApplyAmount, lifesteal, ammoMax]

/-- The name of a slot. -/
def name : Attribute → String
  | multicast => "Multicast"
  | cooldownMax => "CooldownMax"
  | buyPrice => "BuyPrice"
  | sellPrice => "SellPrice"
  | damageAmount => "DamageAmount"
  | custom0 => "Custom_0"
  | hasteAmount => "HasteAmount"
  | hasteTargets => "HasteTargets"
  | burnApplyAmount => "BurnApplyAmount"
  | reloadAmount => "ReloadAmount"
  | reloadTargets => "ReloadTargets"
  | chargeAmount => "ChargeAmount"
  | chargeTargets => "ChargeTargets"
  | damageCrit => "DamageCrit"
  | shieldApplyAmount => "ShieldApplyAmount"
  | lifesteal => "Lifesteal"
  | ammoMax => "AmmoMax"

theorem mem_all (a : Attribute) : a ∈ all := by cases a <;> decide

/-- Every slot stands in the list at its own place. -/
theorem all_getElem?_ctorIdx (a : Attribute) : all[a.ctorIdx]? = some a := by cases a <;> rfl

instance : Ranked Attribute where
  rank := Attribute.ctorIdx
  rank_injective {a b} h := by
    have ha := all_getElem?_ctorIdx a
    rw [h, all_getElem?_ctorIdx b] at ha
    exact (Option.some.inj ha).symm

end Attribute

/-- The attributes of one tier. -/
abbrev Attributes := OrderedMap Attribute Int

end CardText
