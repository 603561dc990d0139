import Mathlib.Data.List.Forall2
import CardText.Card.Reader
import CardText.Proofs.Card.Literal
import CardText.Proofs.OrderedMap

/-!
# The format of the text of a card

The text that `parse_input` reads is a JSON list of objects, and an object maps names of tiers to
strings. White space may stand around every part. This module says so without a reader, and it says
which card a text of this format is the text of: an object may name a tier more than once, and the
last text of every tier stays.

Results:

* `get?_lineOf`: what is put into a line member by member is the last text of every tier.
* `forall₂_keepsLast_iff`: one card only has the last texts of a list of objects.
* `lineOf_congr`: members with different names may change places.
-/

namespace CardText.Format

open Literal Reader

/-! ## Texts with the format -/

/-- White space. -/
def Blanks (w : List Char) : Prop := ∀ c ∈ w, isBlank c = true

section Lists

variable {α : Type} (Part : List Char → α → Prop)

/-- The parts of a list behind its first one, each behind a comma, and white space at the end. -/
inductive Tail : List Char → List α → Prop
  | nil {w : List Char} (hw : Blanks w) : Tail w []
  | cons {w w' s t : List Char} {a : α} {as : List α} (hw : Blanks w) (hw' : Blanks w')
      (ha : Part s a) (h : Tail t as) : Tail (w ++ ',' :: w' ++ s ++ t) (a :: as)

/-- A list of parts between brackets. -/
inductive Bracketed (opening closing : Char) : List Char → List α → Prop
  | nil {w : List Char} (hw : Blanks w) : Bracketed opening closing (opening :: w ++ [closing]) []
  | cons {w s t : List Char} {a : α} {as : List α} (hw : Blanks w) (ha : Part s a)
      (h : Tail Part t as) :
      Bracketed opening closing (opening :: w ++ s ++ t ++ [closing]) (a :: as)

end Lists

/-- A member of an object: a string for the name of a tier, a colon, and a string for a text. -/
def IsMember (s : List Char) (m : Tier × String) : Prop :=
  ∃ key w w' text, Quotes key m.1.name.toList ∧ Blanks w ∧ Blanks w' ∧ Quotes text m.2.toList ∧
    s = key ++ w ++ ':' :: w' ++ text

/-- An object, by its members in order. -/
def IsObject : List Char → List (Tier × String) → Prop := Bracketed IsMember '{' '}'

/-- A list of objects with nothing but white space around it, by the members of the objects. -/
def IsCard (s : List Char) (objects : List (List (Tier × String))) : Prop :=
  ∃ w t w', Blanks w ∧ Bracketed IsObject '[' ']' t objects ∧ Blanks w' ∧ s = w ++ t ++ w'

/-! ## The texts that stay -/

/-- The texts that the members give a tier, in order. -/
def textsOf (ms : List (Tier × String)) (tier : Tier) : List String :=
  (ms.filter fun m => m.1 = tier).map (·.2)

/-- Of every tier, the line has the last text that the members give it. -/
def KeepsLast (line : Line) (ms : List (Tier × String)) : Prop :=
  ∀ tier, line.get? tier = (textsOf ms tier).getLast?

/-- Member by member put into a line. -/
def lineOf (ms : List (Tier × String)) : Line := OrderedMap.ofList ms

theorem getLast?_textsOf_cons (m : Tier × String) (ms : List (Tier × String)) (tier : Tier) :
    (textsOf (m :: ms) tier).getLast? =
      (textsOf ms tier).getLast?.or (if m.1 = tier then some m.2 else none) := by
  unfold textsOf
  by_cases h : m.1 = tier
  · rw [List.filter_cons_of_pos (by simpa using h), List.map_cons, List.getLast?_cons, if_pos h]
    cases ((ms.filter fun m => m.1 = tier).map (·.2)).getLast? <;> rfl
  · rw [List.filter_cons_of_neg (by simpa using h), if_neg h, Option.or_none]

theorem get?_insertAll_members : ∀ (ms : List (Tier × String)) (line : Line) (tier : Tier),
    (line.insertAll ms).get? tier = (textsOf ms tier).getLast?.or (line.get? tier)
  | [], _, _ => rfl
  | m :: ms, line, tier => by
    show ((line.insert m.1 m.2).insertAll ms).get? tier = _
    rw [get?_insertAll_members ms, getLast?_textsOf_cons, OrderedMap.get?_insert, Option.or_assoc]
    by_cases h : m.1 = tier
    · rw [if_pos (congrArg Ranked.rank h), if_pos h]
      rfl
    · rw [if_neg fun hr => h (Ranked.rank_injective hr), if_neg h]
      rfl

theorem get?_lineOf (ms : List (Tier × String)) (tier : Tier) :
    (lineOf ms).get? tier = (textsOf ms tier).getLast? := by
  rw [lineOf, OrderedMap.ofList, get?_insertAll_members, OrderedMap.get?_empty, Option.or_none]

theorem keepsLast_iff {line : Line} {ms : List (Tier × String)} :
    KeepsLast line ms ↔ line = lineOf ms := by
  constructor
  · intro h
    exact OrderedMap.ext_get? fun tier => (h tier).trans (get?_lineOf ms tier).symm
  · rintro rfl
    exact get?_lineOf ms

/-- **One card only has the last texts of a list of objects.** -/
theorem forall₂_keepsLast_iff {card : Card} {objects : List (List (Tier × String))} :
    List.Forall₂ KeepsLast card objects ↔ card = objects.map lineOf := by
  constructor
  · intro h
    induction h with
    | nil => rfl
    | cons hline _ ih => rw [keepsLast_iff.mp hline, ih, List.map_cons]
  · rintro rfl
    induction objects with
    | nil => exact .nil
    | cons ms objects ih => exact .cons (get?_lineOf ms) ih

/-- Members with different names may change places. -/
theorem lineOf_congr {ms ms' : List (Tier × String)} (h : textsOf ms = textsOf ms') :
    lineOf ms = lineOf ms' :=
  OrderedMap.ext_get? fun tier => by rw [get?_lineOf, get?_lineOf, h]

theorem map_lineOf_congr {objects objects' : List (List (Tier × String))}
    (h : List.Forall₂ (fun ms ms' => textsOf ms = textsOf ms') objects objects') :
    objects.map lineOf = objects'.map lineOf := by
  induction h with
  | nil => rfl
  | cons hms _ ih => rw [List.map_cons, List.map_cons, lineOf_congr hms, ih]

end CardText.Format
