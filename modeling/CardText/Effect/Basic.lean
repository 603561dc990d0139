import CardText.Attribute

/-!
# Conditions, quantities and targets

What effects are made of: conditions on cards (`CardCondition`), numbers that are fixed or read off
a card (`ActionValue`), and the cards and players that an effect acts on (`Target`). The three refer
to each other: a condition compares with a quantity, a quantity is read off a target, a target is
narrowed down by a condition.

Conditions are chained to the left: a chain that goes on grows the list of the conditions that all
have to hold, and a chain on the right side of another stays one condition of it.
-/

namespace CardText

/-- What kind of item a card is. -/
inductive Tag
  | weapon
  | tool
  | shield
  deriving DecidableEq

/-- How much room a card takes. -/
inductive Size
  | small
  | medium
  | large
  deriving DecidableEq

/-- Where cards lie (`TargetSection`). -/
inductive Zone
  | selfHand
  | selfBoard
  | opponentHand
  deriving DecidableEq

/-- How an attribute compares with a quantity. -/
inductive Comparison
  | equal
  | greaterThan
  deriving DecidableEq

/-- How an attribute changes. -/
inductive Operation
  | add
  | multiply
  deriving DecidableEq

mutual

/-- A condition on a card (`CardCondition`). -/
inductive Condition
  /-- it has one of the tags -/
  | tagged (tags : List Tag)
  /-- it has one of the tags, even hidden ones -/
  | hiddenTagged (tags : List Tag)
  /-- it has one of the sizes, or none of them -/
  | sized (sizes : List Size) (negated : Bool)
  /-- one of its attributes compares with a quantity -/
  | compares (slot : Attribute) (comparison : Comparison) (value : Quantity)
  /-- none has more of the attribute -/
  | highest (slot : Attribute)
  /-- all the conditions hold -/
  | every (conditions : List Condition)
  /-- one of the conditions holds -/
  | either (conditions : List Condition)

/-- A number that an effect uses (`ActionValue`). -/
inductive Quantity
  /-- this number -/
  | fixed (n : Int)
  /-- an attribute of a target, or a number in its absence, times a factor if there is one -/
  | read (target : Target) (slot : Attribute) (default : Int) (factor : Option Quantity)

/-- What an effect acts on. -/
inductive Target
  /-- the card of the effect -/
  | this (condition : Option Condition)
  /-- the cards of a zone -/
  | cards (zone : Zone) (excludeSelf : Bool) (condition : Option Condition)
  /-- the other player -/
  | opponent (condition : Option Condition)
  /-- the card that set off the trigger -/
  | triggerSource (excludeSelf : Bool) (condition : Option Condition)
  /-- a random card of a zone -/
  | random (excludeSelf : Bool) (zone : Zone) (condition : Option Condition)
  /-- the leftmost card of a zone -/
  | leftmost (zone : Zone) (excludeSelf : Bool) (condition : Option Condition)
  /-- the cards beside the one that set off the trigger, with that one or without it -/
  | neighbors (includeOrigin : Bool) (condition : Option Condition)

end

namespace Zone

/-- The zone as the other player sees it (`mirrored`). -/
def opposite : Zone → Zone
  | selfHand => opponentHand
  | opponentHand => selfHand
  | selfBoard => selfBoard

end Zone

namespace Condition

/-- The card has the tag. -/
def tag (t : Tag) : Condition := tagged [t]

/-- The card has the tag, even hidden (`hidden_tag`). -/
def hiddenTag (t : Tag) : Condition := hiddenTagged [t]

/-- The card has the size. -/
def size (s : Size) : Condition := sized [s] false

/-- An attribute of the card compares with a number (`attribute`). -/
def comparesWith (slot : Attribute) (comparison : Comparison) (n : Int) : Condition :=
  compares slot comparison (.fixed n)

/-- The card has a cooldown that runs (`has_cooldown`). -/
def hasCooldown : Condition := comparesWith .cooldownMax .greaterThan 0

/-- A chain with one more condition (`bitand`): a chain on the left grows, any other condition
starts one. -/
def and : Condition → Condition → Condition
  | every cs, d => every (cs ++ [d])
  | c, d => every [c, d]

instance : AndOp Condition := ⟨and⟩

end Condition

namespace Target

/-- The cards of a zone for which a condition holds (`section_where`). -/
def cardsWhere (zone : Zone) (c : Condition) : Target := cards zone false (some c)

/-- All cards of a zone (`section`). -/
def allCards (zone : Zone) : Target := cards zone false none

/-- The card of the effect itself (`this`). -/
def self : Target := this none

/-- The same cards of a zone but the effect's own card (`excluding_self`). Other targets stay as
they are. -/
def excludingSelf : Target → Target
  | cards zone _ condition => cards zone true condition
  | t => t

end Target

namespace Quantity

/-- An attribute of a target, and 0 in its absence (`reference`). -/
def attributeOf (target : Target) (slot : Attribute) : Quantity := read target slot 0 none

/-- An attribute of the card of the effect (`own_attribute`). -/
def own (slot : Attribute) : Quantity := attributeOf .self slot

/-- The quantity times a factor, in place of a factor it had (`multiplied_by`). A fixed number stays
as it is. -/
def times (q : Quantity) (factor : Int) : Quantity :=
  match q with
  | read target slot default _ => read target slot default (some (fixed factor))
  | fixed n => fixed n

end Quantity

end CardText
