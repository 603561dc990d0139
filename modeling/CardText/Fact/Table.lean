import CardText.Fact.Basic
import CardText.Tier

/-!
# The table of a card's facts

The facts of a card stand in lists by category and tier (`FactTable`), each list in the order in
which its facts came (`push`). A tier's facts are read category by category.

The questions that the passes of the compiler ask of a table are those of `FactIndex`: the first and
the last fact of a kind on a tier, presence, counts, and the only kind of a card with a single
effect. Facts that are not extracted are invisible to all of them.
-/

namespace CardText

/-- The facts of a card by category and tier. -/
structure FactTable where
  active : PerTier (List Fact)
  passive : PerTier (List Fact)
  cooldown : PerTier (List Fact)
  price : PerTier (List Fact)
  deriving DecidableEq

namespace FactTable

/-- The table without facts. -/
def empty : FactTable := ⟨.const [], .const [], .const [], .const []⟩

/-- The lists of a category. -/
def category (t : FactTable) : FactCategory → PerTier (List Fact)
  | .active => t.active
  | .passive => t.passive
  | .cooldown => t.cooldown
  | .price => t.price

/-- Puts a fact at the end of the list for its category and a tier. -/
def push (t : FactTable) (tier : Tier) (f : Fact) : FactTable :=
  match f.category with
  | .active => { t with active := t.active.modify tier (· ++ [f]) }
  | .passive => { t with passive := t.passive.modify tier (· ++ [f]) }
  | .cooldown => { t with cooldown := t.cooldown.modify tier (· ++ [f]) }
  | .price => { t with price := t.price.modify tier (· ++ [f]) }

/-- Puts facts in, one after the other. -/
def pushAll (t : FactTable) (fs : List (Tier × Fact)) : FactTable :=
  fs.foldl (fun t f => t.push f.1 f.2) t

/-- Every fact on a tier, category by category (`on_tier`). -/
def onTier (t : FactTable) (tier : Tier) : List Fact :=
  FactCategory.all.flatMap fun c => (t.category c).get tier

/-- The number of facts (`len`). -/
def size (t : FactTable) : Nat := (Tier.all.flatMap t.onTier).length

/-- Whether there is no fact (`is_empty`). -/
def isEmpty (t : FactTable) : Bool := t.size = 0

/-- A push shows at the end of its own list and in no other. -/
theorem get_category_push (t : FactTable) (tier tier' : Tier) (f : Fact) (c : FactCategory) :
    ((t.push tier f).category c).get tier' =
      if f.category = c ∧ tier = tier' then (t.category c).get tier' ++ [f]
      else (t.category c).get tier' := by
  unfold push
  cases f.category <;> cases c <;> simp [category, PerTier.get_modify]

/-! ## Presence -/

section Presence

variable (t : FactTable)

/-- The extracted facts on a tier (`extracted_on`). -/
def extractedOn (tier : Tier) : List Fact := (t.onTier tier).filter (·.extracted)

/-- The first extracted fact of a kind on a tier (`on_tier`). -/
def firstOn (type : FactType) (tier : Tier) : Option Fact :=
  (t.extractedOn tier).find? fun f => f.type = type

/-- The last extracted fact of a kind on a tier (`last_on_tier`). -/
def lastOn (type : FactType) (tier : Tier) : Option Fact :=
  ((t.extractedOn tier).filter fun f => f.type = type).getLast?

/-- Whether a tier has an extracted fact of a kind (`present_on`). -/
def presentOn (type : FactType) (tier : Tier) : Bool := (t.firstOn type tier).isSome

/-- Whether some tier has an extracted fact of a kind. -/
def contains (type : FactType) : Bool := Tier.all.any (t.presentOn type)

/-- Whether a tier has an extracted fact at all (`tier_present`). -/
def tierPresent (tier : Tier) : Bool := !(t.extractedOn tier).isEmpty

/-- The first extracted fact of a kind on the lowest tier that has one (`first`). -/
def first? (type : FactType) : Option Fact := Tier.all.findSome? (t.firstOn type)

/-- A number of the first extracted fact of a kind (`first_param`). -/
def firstParam? (type : FactType) (p : FactParam) : Option Int :=
  (t.first? type).bind fun f => f.param p

/-- The number of extracted facts of a category (`category_count`). -/
def categoryCount (c : FactCategory) : Nat :=
  (Tier.all.flatMap fun tier => ((t.category c).get tier).filter (·.extracted)).length

/-- The kinds of the extracted active facts on a tier. -/
def activeTypes (tier : Tier) : List FactType :=
  ((t.active.get tier).filter (·.extracted)).map (·.type)

/-- The only kind of a list, if its members are all of one kind. -/
def onlyType? : List FactType → Option FactType
  | [] => none
  | type :: types => if types.all (· = type) then some type else none

/-- The only kind of a card whose every tier has at most one extracted fact, all of them active and
of that kind (`sole_active_type`). -/
def soleActiveType : Option FactType :=
  if 0 < t.categoryCount .passive ∨ 0 < t.categoryCount .cooldown ∨ 0 < t.categoryCount .price then
    none
  else if Tier.all.any fun tier => 1 < (t.activeTypes tier).length then none
  else onlyType? (Tier.all.flatMap t.activeTypes)

end Presence

end FactTable

end CardText
