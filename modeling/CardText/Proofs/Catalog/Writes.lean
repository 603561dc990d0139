import CardText.Document.Compile
import CardText.Proofs.Catalog.Kinds

/-!
# What the entries of the catalog write

Every entry that a tier has a fact of (`tier_fact`) sets its attributes, one entry after the other.
Several entries set the same attribute, so the order of the catalog decides what a tier ends up
with.

Results:

* `get?_write`: an entry changes the attributes that it gives a number, and no other.
* **`get?_statedAttributes`**: the last entry that gives an attribute a number decides it.
-/

namespace CardText

namespace AttributeWrite

@[simp] theorem value?_ofParam (slot : Attribute) (p : FactParam) (f : Fact) :
    (ofParam slot p).value? f = f.param p :=
  Option.bind_fun_some (f.param p)

@[simp] theorem value?_ofSeconds (slot : Attribute) (p : FactParam) (f : Fact) :
    (ofSeconds slot p).value? f = (f.param p).bind millis? := rfl

@[simp] theorem value?_ofConstant (slot : Attribute) (n : Int) (f : Fact) :
    (ofConstant slot n).value? f = some n := rfl

theorem get?_apply (w : AttributeWrite) (f : Fact) (bag : Attributes) (a : Attribute) :
    (w.apply f bag).get? a =
      (if w.slot = a then w.value? f else none).or (bag.get? a) := by
  unfold apply
  by_cases h : w.slot = a
  · cases hv : w.value? f with
    | none => simp [h]
    | some n => simp [OrderedMap.get?_insert, h]
  · have hr : Ranked.rank w.slot ≠ Ranked.rank a := fun hr => h (Ranked.rank_injective hr)
    cases hv : w.value? f with
    | none => simp [h]
    | some n => simp [OrderedMap.get?_insert, h, hr]

theorem find?_slot_eq_none {ws : List AttributeWrite} {a : Attribute}
    (h : a ∉ ws.map (·.slot)) : ws.find? (·.slot = a) = none := by
  refine List.find?_eq_none.mpr fun w hw hwa => h ?_
  have hwa : w.slot = a := of_decide_eq_true hwa
  exact List.mem_map.mpr ⟨w, hw, hwa⟩

end AttributeWrite

namespace Entry

/-- The attributes that an entry may set. -/
def slots (e : Entry) : List Attribute := e.writes.map (·.slot)

/-- The number that an entry gives an attribute from a fact. -/
def number? (e : Entry) (f : Fact) (a : Attribute) : Option Int :=
  (e.writes.find? (·.slot = a)).bind (·.value? f)

/-- No entry of the catalog sets an attribute twice. -/
theorem nodup_slots_of_mem_catalog : ∀ e ∈ catalog, e.slots.Nodup := by decide

theorem get?_foldl_apply (f : Fact) (a : Attribute) :
    ∀ (ws : List AttributeWrite) (bag : Attributes), (ws.map (·.slot)).Nodup →
      (ws.foldl (fun bag w => w.apply f bag) bag).get? a =
        ((ws.find? (·.slot = a)).bind (·.value? f)).or (bag.get? a)
  | [], _, _ => rfl
  | w :: ws, bag, hnd => by
    rw [List.map_cons, List.nodup_cons] at hnd
    obtain ⟨hw, hws⟩ := hnd
    rw [List.foldl_cons, get?_foldl_apply f a ws _ hws, AttributeWrite.get?_apply]
    by_cases h : w.slot = a
    · -- no later write sets it again, so the value of this one stays
      have hnone : ws.find? (·.slot = a) = none := AttributeWrite.find?_slot_eq_none (h ▸ hw)
      rw [hnone, List.find?_cons_of_pos (by simpa using h), if_pos h]
      rfl
    · rw [List.find?_cons_of_neg (by simpa using h), if_neg h]
      rfl

/-- **An entry changes the attributes that it gives a number, and no other.** -/
theorem get?_write {e : Entry} (he : e ∈ catalog) (f : Fact) (bag : Attributes) (a : Attribute) :
    (e.write f bag).get? a = (e.number? f a).or (bag.get? a) :=
  get?_foldl_apply f a e.writes bag (nodup_slots_of_mem_catalog e he)

/-- What an entry puts into an empty bag is all that it gives. -/
theorem get?_write_empty {e : Entry} (he : e ∈ catalog) (f : Fact) (a : Attribute) :
    (e.write f .empty).get? a = e.number? f a := by
  rw [get?_write he, OrderedMap.get?_empty, Option.or_none]

theorem number?_eq_none_of_not_mem {e : Entry} {a : Attribute} (h : a ∉ e.slots) (f : Fact) :
    e.number? f a = none := by
  unfold number?
  rw [AttributeWrite.find?_slot_eq_none h]
  rfl

end Entry

namespace FactTable

/-- The number that an entry gives an attribute of a tier, if the tier has a fact of its kind. -/
def numberOn? (t : FactTable) (tier : Tier) (a : Attribute) (e : Entry) : Option Int :=
  (e.tierFact? t tier).bind fun f => e.number? f a

/-- One entry sets its attributes from the tier's fact of its kind. -/
def writeOn (t : FactTable) (tier : Tier) (bag : Attributes) (e : Entry) : Attributes :=
  match e.tierFact? t tier with
  | some f => e.write f bag
  | none => bag

variable (t : FactTable) (tier : Tier) (a : Attribute)

theorem get?_writeOn {e : Entry} (he : e ∈ catalog) (bag : Attributes) :
    (t.writeOn tier bag e).get? a = (t.numberOn? tier a e).or (bag.get? a) := by
  unfold writeOn numberOn?
  cases e.tierFact? t tier with
  | none => rfl
  | some f => exact Entry.get?_write he f bag a

theorem get?_foldl_writeOn :
    ∀ (entries : List Entry) (bag : Attributes), (∀ e ∈ entries, e ∈ catalog) →
      (entries.foldl (t.writeOn tier) bag).get? a =
        (entries.reverse.findSome? (t.numberOn? tier a)).or (bag.get? a)
  | [], _, _ => rfl
  | e :: entries, bag, hmem => by
    obtain ⟨he, hentries⟩ := List.forall_mem_cons.mp hmem
    -- what `entries` give stands before what `e` gives, since they write after it
    rw [List.foldl_cons, get?_foldl_writeOn entries _ hentries, get?_writeOn t tier a he,
      List.reverse_cons, List.findSome?_append, Option.or_assoc]
    cases h : t.numberOn? tier a e <;> simp [h]

/-- **The last entry that gives an attribute a number decides it.** -/
theorem get?_statedAttributes :
    (t.statedAttributes tier).get? a = catalog.reverse.findSome? (t.numberOn? tier a) := by
  show (catalog.foldl (t.writeOn tier) .empty).get? a = _
  rw [get?_foldl_writeOn t tier a catalog .empty fun e he => he, OrderedMap.get?_empty,
    Option.or_none]

end FactTable

end CardText
