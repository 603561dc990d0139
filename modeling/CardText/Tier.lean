import CardText.OrderedMap

/-!
# Tiers

A card exists in up to four tiers (`Tier`). They are always shown from bronze to diamond. A
`PerTier` is a `TieredValue`: it has a value on every tier.
-/

namespace CardText

/-- The four tiers, in display order. -/
inductive Tier
  | bronze
  | silver
  | gold
  | diamond
  deriving DecidableEq

namespace Tier

/-- All tiers, in display order. -/
def all : List Tier := [bronze, silver, gold, diamond]

/-- The name of a tier. -/
def name : Tier → String
  | bronze => "Bronze"
  | silver => "Silver"
  | gold => "Gold"
  | diamond => "Diamond"

/-- The tier of that exact name (`try_from`). -/
def ofName? (s : String) : Option Tier := all.find? fun t => t.name = s

/-- What is said of a name that no tier has. -/
def invalidName (s : String) : String := "invalid tier " ++ s

instance : Ranked Tier where
  rank := Tier.ctorIdx
  rank_injective {a b} h := by cases a <;> cases b <;> first | rfl | exact absurd h (by decide)

theorem mem_all (t : Tier) : t ∈ all := by cases t <;> decide

/-- The tiers stand in the order of their ranks. -/
theorem sorted_all : all.Pairwise fun a b => Ranked.rank a < Ranked.rank b := by decide

theorem ofName?_name (t : Tier) : ofName? t.name = some t := by cases t <;> decide

theorem ofName?_eq_some_iff {s : String} {t : Tier} : ofName? s = some t ↔ s = t.name := by
  constructor
  · intro h
    have hname := List.find?_some (p := fun t : Tier => decide (t.name = s)) h
    exact (of_decide_eq_true hname).symm
  · rintro rfl
    exact ofName?_name t

end Tier

/-- A value for every tier (`TieredValue`). -/
structure PerTier (α : Type) where
  bronze : α
  silver : α
  gold : α
  diamond : α
  deriving DecidableEq

namespace PerTier

variable {α : Type}

/-- The same value on every tier. -/
def const (a : α) : PerTier α := ⟨a, a, a, a⟩

/-- The value on a tier. -/
def get (p : PerTier α) : Tier → α
  | .bronze => p.bronze
  | .silver => p.silver
  | .gold => p.gold
  | .diamond => p.diamond

/-- Changes the value on one tier. -/
def modify (p : PerTier α) (t : Tier) (f : α → α) : PerTier α :=
  match t with
  | .bronze => { p with bronze := f p.bronze }
  | .silver => { p with silver := f p.silver }
  | .gold => { p with gold := f p.gold }
  | .diamond => { p with diamond := f p.diamond }

@[simp] theorem get_const (a : α) (t : Tier) : (const a).get t = a := by cases t <;> rfl

/-- A change shows on its tier and on no other. -/
theorem get_modify (p : PerTier α) (t u : Tier) (f : α → α) :
    (p.modify t f).get u = if t = u then f (p.get u) else p.get u := by
  cases t <;> cases u <;> rfl

end PerTier

end CardText
