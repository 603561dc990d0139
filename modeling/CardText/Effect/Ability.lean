import CardText.Effect.Basic

/-!
# Abilities and auras

An ability (`Ability`) acts when its trigger fires, an aura (`Aura`) as long as its card is in play.
Both carry a number of their own within the card, an `EffectId`. The effects without their numbers
are `TriggeredEffect` and `LastingEffect`.
-/

namespace CardText

/-- The number of an ability or of an aura within a card: a word of 32 bits. -/
structure EffectId where
  value : UInt32
  deriving DecidableEq

namespace EffectId

/-- The number of a place in a list. Only its low 32 bits count. -/
def ofNat (n : Nat) : EffectId := ⟨UInt32.ofNat n⟩

instance : Ranked EffectId where
  rank i := i.value.toNat
  rank_injective {a b} h := by
    cases a; cases b
    exact congrArg EffectId.mk (UInt32.toNat_inj.mp h)

theorem rank_ofNat {n : Nat} (h : n < UInt32.size) : Ranked.rank (ofNat n) = n :=
  UInt32.toNat_ofNat_of_lt' h

end EffectId

/-- Something that has to hold for an effect to act: the number of the cards of a
target compares with an amount. -/
structure Prerequisite where
  subject : Target
  comparison : Comparison
  amount : Int

/-- What sets off an ability. -/
inductive Trigger
  /-- the card is used -/
  | cardFired
  | healed (subject : Target)
  | froze (subject : Target)
  | slowed (subject : Target)
  | itemUsed (subject : Target)
  /-- a fight starts, be it of one kind only -/
  | fightStarted (combat : Option String)

/-- What an ability does. -/
inductive Action
  | damage (value : Option Quantity) (target : Target)
  | burn (value : Option Quantity) (target : Target)
  /-- changes an attribute until the end of the fight -/
  | modify (slot : Attribute) (operation : Operation) (value : Quantity)
      (targetCount : Option Int) (target : Target)
  | haste (target : Target)
  | reload (target : Target)
  | charge (target : Target)

/-- Which of the abilities that one event sets off goes first. -/
inductive Priority
  | immediate
  | high
  | medium
  | low
  | lowest
  deriving DecidableEq

/-- An effect that a trigger sets off. -/
structure TriggeredEffect where
  trigger : Trigger
  action : Action
  prerequisites : Option (List Prerequisite) := none
  priority : Priority

/-- An effect that lasts (`AuraAction`): it changes an attribute of its target. -/
structure LastingEffect where
  slot : Attribute
  operation : Operation
  value : Quantity
  target : Target
  prerequisites : Option (List Prerequisite) := none

/-- A triggered effect and its number. -/
structure Ability extends TriggeredEffect where
  id : EffectId

/-- A lasting effect and its number. -/
structure Aura extends LastingEffect where
  id : EffectId

/-- The change of an attribute for all targets there are (`modify_for_the_fight`). -/
def Action.modifyAll (slot : Attribute) (operation : Operation) (value : Quantity)
    (target : Target) : Action :=
  modify slot operation value none target

/-- The effect with one more prerequisite, behind those it has (`with_prerequisite`). -/
def TriggeredEffect.requiring (e : TriggeredEffect) (p : Prerequisite) : TriggeredEffect :=
  { e with prerequisites := some (e.prerequisites.getD [] ++ [p]) }

/-- The ability of an effect under a number. -/
def TriggeredEffect.numbered (e : TriggeredEffect) (id : EffectId) : Ability :=
  { toTriggeredEffect := e, id }

/-- The aura of an effect under a number. -/
def LastingEffect.numbered (e : LastingEffect) (id : EffectId) : Aura :=
  { toLastingEffect := e, id }

end CardText
