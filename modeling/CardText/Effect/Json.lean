import CardText.Effect.Ability
import CardText.Json
import CardText.Text.Character

/-!
# Effects as JSON

Every effect, target, condition and quantity is an object that names its kind first, under `$type`.
An `EffectId` is written as a string.
-/

namespace CardText

open Json

/-- The decimal text of the number. -/
def EffectId.text (i : EffectId) : String := String.ofList (Text.decimal i.value.toNat)

/-- The number and what it is one of. -/
def EffectId.describe (i : EffectId) : String := "EffectId(" ++ i.text ++ ")"

/-- A number as the string of its digits. -/
def EffectId.toJson (i : EffectId) : Json := str i.text

/-- An attribute by its name. -/
def Attribute.toJson (a : Attribute) : Json := str a.name

/-- The name of a tag. -/
def Tag.name : Tag → String
  | weapon => "Weapon"
  | tool => "Tool"
  | shield => "Shield"

/-- The name of a size. -/
def Size.name : Size → String
  | small => "Small"
  | medium => "Medium"
  | large => "Large"

/-- The name of a zone. -/
def Zone.name : Zone → String
  | selfHand => "SelfHand"
  | selfBoard => "SelfBoard"
  | opponentHand => "OpponentHand"

/-- The name of a comparison. -/
def Comparison.name : Comparison → String
  | equal => "Equal"
  | greaterThan => "GreaterThan"

/-- The name of a change. -/
def Operation.name : Operation → String
  | add => "Add"
  | multiply => "Multiply"

/-- The name of a priority. -/
def Priority.name : Priority → String
  | immediate => "Immediate"
  | high => "High"
  | medium => "Medium"
  | low => "Low"
  | lowest => "Lowest"

/-- Having one of some tags. -/
def tagFields (tags : List Tag) : List (String × Json) :=
  [("Tags", arr (tags.map fun t => str t.name)), ("Operator", str "Any")]

mutual

/-- A condition. -/
def Condition.toJson : Condition → Json
  | .tagged tags => tagged "TCardConditionalTag" (tagFields tags)
  | .hiddenTagged tags => tagged "TCardConditionalHiddenTag" (tagFields tags)
  | .sized sizes negated =>
    tagged "TCardConditionalSize"
      [("Sizes", arr (sizes.map fun s => str s.name)), ("IsNot", bool negated)]
  | .compares slot comparison value =>
    tagged "TCardConditionalAttribute"
      [("Attribute", slot.toJson), ("ComparisonOperator", str comparison.name),
        ("ComparisonValue", value.toJson)]
  | .highest slot => tagged "TCardConditionalAttributeHighest" [("AttributeType", slot.toJson)]
  | .every cs => tagged "TCardConditionalAnd" [("Conditions", arr (Condition.listToJson cs))]
  | .either cs => tagged "TCardConditionalOr" [("Conditions", arr (Condition.listToJson cs))]

/-- The conditions of a list. -/
def Condition.listToJson : List Condition → List Json
  | [] => []
  | c :: cs => c.toJson :: Condition.listToJson cs

/-- A condition or null. -/
def Condition.optionToJson : Option Condition → Json
  | none => null
  | some c => c.toJson

/-- A quantity. -/
def Quantity.toJson : Quantity → Json
  | .fixed n => tagged "TFixedValue" [("Value", int n)]
  | .read target slot default factor =>
    tagged "TReferenceValueCardAttribute"
      [("Target", target.toJson), ("AttributeType", slot.toJson), ("DefaultValue", int default),
        ("Modifier", Quantity.factorToJson factor)]

/-- What the quantity is multiplied by. -/
def Quantity.factorToJson : Option Quantity → Json
  | none => null
  | some q => obj [("ModifyMode", str "Multiply"), ("Value", q.toJson)]

/-- A target. -/
def Target.toJson : Target → Json
  | .this c => tagged "TTargetCardSelf" [("Conditions", Condition.optionToJson c)]
  | .cards zone excludeSelf c =>
    tagged "TTargetCardSection"
      [("TargetSection", str zone.name), ("ExcludeSelf", bool excludeSelf),
        ("Conditions", Condition.optionToJson c)]
  | .opponent c =>
    tagged "TTargetPlayerRelative"
      [("TargetMode", str "Opponent"), ("Conditions", Condition.optionToJson c)]
  | .triggerSource excludeSelf c =>
    tagged "TTargetCardTriggerSource"
      [("ExcludeSelf", bool excludeSelf), ("Conditions", Condition.optionToJson c)]
  | .random excludeSelf zone c =>
    tagged "TTargetCardRandom"
      [("ExcludeSelf", bool excludeSelf), ("TargetSection", str zone.name),
        ("Conditions", Condition.optionToJson c)]
  | .leftmost zone excludeSelf c =>
    tagged "TTargetCardXMost"
      [("TargetSection", str zone.name), ("TargetMode", str "LeftMostCard"),
        ("ExcludeSelf", bool excludeSelf), ("Conditions", Condition.optionToJson c)]
  | .neighbors includeOrigin c =>
    tagged "TTargetCardPositional"
      [("Origin", str "TriggerSource"), ("TargetMode", str "Neighbor"),
        ("IncludeOrigin", bool includeOrigin), ("Conditions", Condition.optionToJson c)]

end

/-- A prerequisite. -/
def Prerequisite.toJson (p : Prerequisite) : Json :=
  tagged "TPrerequisiteCardCount"
    [("Subject", p.subject.toJson), ("Comparison", str p.comparison.name), ("Amount", int p.amount)]

/-- The prerequisites of an effect; no list is not the empty list. -/
def prerequisitesToJson : Option (List Prerequisite) → Json :=
  ofOption fun ps => arr (ps.map Prerequisite.toJson)

/-- A trigger. -/
def Trigger.toJson : Trigger → Json
  | cardFired => tagged "TTriggerOnCardFired" []
  | healed subject => tagged "TTriggerOnCardPerformedHeal" [("Subject", subject.toJson)]
  | froze subject => tagged "TTriggerOnCardPerformedFreeze" [("Subject", subject.toJson)]
  | slowed subject => tagged "TTriggerOnCardPerformedSlow" [("Subject", subject.toJson)]
  | itemUsed subject => tagged "TTriggerOnItemUsed" [("Subject", subject.toJson)]
  | fightStarted combat => tagged "TTriggerOnFightStarted" [("CombatType", ofOption str combat)]

/-- How long a change lasts: to the end of the fight. -/
def untilEndOfFight : Json :=
  tagged "TDeterminantDuration" [("DurationType", str "UntilEndOfCombat")]

/-- What an ability does. -/
def Action.toJson : Action → Json
  | damage value target =>
    tagged "TActionPlayerDamage"
      [("ReferenceValue", ofOption Quantity.toJson value), ("Target", target.toJson)]
  | burn value target =>
    tagged "TActionPlayerBurnApply"
      [("ReferenceValue", ofOption Quantity.toJson value), ("Target", target.toJson)]
  | modify slot operation value targetCount target =>
    tagged "TActionCardModifyAttribute"
      [("Value", value.toJson), ("AttributeType", slot.toJson), ("Operation", str operation.name),
        ("Duration", untilEndOfFight), ("TargetCount", ofOption int targetCount),
        ("Target", target.toJson)]
  | haste target => tagged "TActionCardHaste" [("Target", target.toJson)]
  | reload target => tagged "TActionCardReload" [("Target", target.toJson)]
  | charge target => tagged "TActionCardCharge" [("Target", target.toJson)]

/-- Effects act from the hand only. -/
def activeIn : Json := str "HandOnly"

/-- An ability with its number. -/
def Ability.toJson (a : Ability) : Json :=
  obj
    [("Id", a.id.toJson), ("Trigger", a.trigger.toJson), ("ActiveIn", activeIn),
      ("Action", a.action.toJson), ("Prerequisites", prerequisitesToJson a.prerequisites),
      ("Priority", str a.priority.name)]

/-- An aura with its number. -/
def Aura.toJson (a : Aura) : Json :=
  obj
    [("Id", a.id.toJson), ("ActiveIn", activeIn),
      ("Action", tagged "TAuraActionCardModifyAttribute"
        [("AttributeType", a.slot.toJson), ("Operation", str a.operation.name),
          ("Value", a.value.toJson), ("Target", a.target.toJson)]),
      ("Prerequisites", prerequisitesToJson a.prerequisites)]

end CardText
