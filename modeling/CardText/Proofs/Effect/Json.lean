import Mathlib.Data.List.Nodup
import CardText.Effect.Json
import CardText.Proofs.Text.Decimal

/-!
# Effects are told by their JSON values

No two conditions, quantities, targets, triggers, actions, abilities or auras are written as the
same JSON value. Every constructor has a name of its own, every field stands in its place, and what
is absent is written as null, which nothing present is written as.

Results:

* `Condition.toJson_injective`, `Quantity.toJson_injective`, `Target.toJson_injective`: by a common
  induction, as the three refer to each other.
* `Trigger.toJson_injective`, `Action.toJson_injective`, `prerequisitesToJson_injective`.
* **`Ability.toJson_injective`**, **`Aura.toJson_injective`**.
-/

namespace CardText

open Json

/-! ## Names -/

theorem Attribute.name_injective : Function.Injective Attribute.name := fun a b h =>
  List.inj_on_of_nodup_map (f := Attribute.name) (by decide) (Attribute.mem_all a)
    (Attribute.mem_all b) h

theorem Tag.name_injective : Function.Injective Tag.name := by
  intro a b h
  cases a <;> cases b <;> first | rfl | exact absurd h (by decide)

theorem Size.name_injective : Function.Injective Size.name := by
  intro a b h
  cases a <;> cases b <;> first | rfl | exact absurd h (by decide)

theorem Zone.name_injective : Function.Injective Zone.name := by
  intro a b h
  cases a <;> cases b <;> first | rfl | exact absurd h (by decide)

theorem Comparison.name_injective : Function.Injective Comparison.name := by
  intro a b h
  cases a <;> cases b <;> first | rfl | exact absurd h (by decide)

theorem Operation.name_injective : Function.Injective Operation.name := by
  intro a b h
  cases a <;> cases b <;> first | rfl | exact absurd h (by decide)

theorem Priority.name_injective : Function.Injective Priority.name := by
  intro a b h
  cases a <;> cases b <;> first | rfl | exact absurd h (by decide)

theorem EffectId.text_injective : Function.Injective EffectId.text := by
  intro i j h
  have hvalue := Text.decimal_injective (String.ofList_injective h)
  cases i
  cases j
  exact congrArg EffectId.mk (UInt32.toNat_inj.mp hvalue)

/-! ## Parts of objects -/

/-- What is absent is not written as anything that is present. -/
theorem Json.ofOption_injective {α : Type} {f : α → Json} (hf : Function.Injective f)
    (hnull : ∀ a, f a ≠ null) : Function.Injective (ofOption f) := by
  intro a b h
  cases a with
  | none =>
    cases b with
    | none => rfl
    | some b => exact absurd h.symm (hnull b)
  | some a =>
    cases b with
    | none => exact absurd h (hnull a)
    | some b => exact congrArg some (hf h)

/-- Lists of different items are written as different lists. -/
theorem Json.arr_map_injective {α : Type} {f : α → Json} (hf : Function.Injective f) :
    Function.Injective fun as : List α => arr (as.map f) := fun _ _ h =>
  (List.map_inj_right fun _ _ h => hf h).mp (Json.arr.inj h)

theorem Json.str_injective {α : Type} {name : α → String} (h : Function.Injective name) :
    Function.Injective fun a => str (name a) := fun _ _ heq => h (Json.str.inj heq)

/-- A field of an object and the fields behind it are told by their values. -/
theorem Json.field_inj {k : String} {v v' : Json} {fs fs' : List (String × Json)} :
    (k, v) :: fs = (k, v') :: fs' ↔ v = v' ∧ fs = fs' := by
  rw [List.cons.injEq, Prod.mk.injEq, eq_self, true_and]

theorem tagFields_injective : Function.Injective tagFields := by
  intro tags tags' h
  simp only [tagFields, field_inj, and_true] at h
  exact arr_map_injective (str_injective Tag.name_injective) h

@[simp] theorem tagged_inj {kind kind' : String} {fields fields' : List (String × Json)} :
    tagged kind fields = tagged kind' fields' ↔ kind = kind' ∧ fields = fields' := by
  simp [tagged]

theorem tagged_ne_null (kind : String) (fields : List (String × Json)) :
    tagged kind fields ≠ null := by
  simp [tagged]

/-! ## Conditions, quantities and targets -/

theorem Condition.toJson_ne_null (c : Condition) : c.toJson ≠ null := by
  cases c <;> rw [Condition.toJson] <;> exact tagged_ne_null _ _

theorem Quantity.toJson_ne_null (q : Quantity) : q.toJson ≠ null := by
  cases q <;> rw [Quantity.toJson] <;> exact tagged_ne_null _ _

theorem Quantity.factorToJson_eq_null_iff {factor : Option Quantity} :
    Quantity.factorToJson factor = null ↔ factor = none := by
  cases factor <;> simp [Quantity.factorToJson]

mutual

/-- **The JSON of a condition tells the condition.** -/
theorem Condition.eq_of_toJson : ∀ c d : Condition, c.toJson = d.toJson → c = d
  | .tagged tags, d, h => by
    cases d with
    | tagged tags' =>
      simp only [Condition.toJson, tagged_inj, true_and] at h
      rw [tagFields_injective h]
    | _ => simp [Condition.toJson] at h
  | .hiddenTagged tags, d, h => by
    cases d with
    | hiddenTagged tags' =>
      simp only [Condition.toJson, tagged_inj, true_and] at h
      rw [tagFields_injective h]
    | _ => simp [Condition.toJson] at h
  | .sized sizes negated, d, h => by
    cases d with
    | sized sizes' negated' =>
      simp only [Condition.toJson, tagged_inj, field_inj, Json.bool.injEq, true_and, and_true] at h
      obtain ⟨hsizes, rfl⟩ := h
      rw [arr_map_injective (str_injective Size.name_injective) hsizes]
    | _ => simp [Condition.toJson] at h
  | .compares slot comparison value, d, h => by
    cases d with
    | compares slot' comparison' value' =>
      simp only [Condition.toJson, tagged_inj, field_inj, true_and, and_true] at h
      obtain ⟨hslot, hcomparison, hvalue⟩ := h
      rw [str_injective Attribute.name_injective hslot,
        str_injective Comparison.name_injective hcomparison, Quantity.eq_of_toJson _ _ hvalue]
    | _ => simp [Condition.toJson] at h
  | .highest slot, d, h => by
    cases d with
    | highest slot' =>
      simp only [Condition.toJson, tagged_inj, field_inj, true_and, and_true] at h
      rw [str_injective Attribute.name_injective h]
    | _ => simp [Condition.toJson] at h
  | .every cs, d, h => by
    cases d with
    | every ds =>
      simp only [Condition.toJson, tagged_inj, field_inj, Json.arr.injEq, true_and, and_true] at h
      rw [Condition.eq_of_listToJson cs ds h]
    | _ => simp [Condition.toJson] at h
  | .either cs, d, h => by
    cases d with
    | either ds =>
      simp only [Condition.toJson, tagged_inj, field_inj, Json.arr.injEq, true_and, and_true] at h
      rw [Condition.eq_of_listToJson cs ds h]
    | _ => simp [Condition.toJson] at h

theorem Condition.eq_of_listToJson : ∀ cs ds : List Condition,
    Condition.listToJson cs = Condition.listToJson ds → cs = ds
  | [], [], _ => rfl
  | [], d :: ds, h => by simp [Condition.listToJson] at h
  | c :: cs, [], h => by simp [Condition.listToJson] at h
  | c :: cs, d :: ds, h => by
    simp only [Condition.listToJson, List.cons.injEq] at h
    rw [Condition.eq_of_toJson c d h.1, Condition.eq_of_listToJson cs ds h.2]

theorem Condition.eq_of_optionToJson : ∀ c d : Option Condition,
    Condition.optionToJson c = Condition.optionToJson d → c = d
  | none, none, _ => rfl
  | none, some d, h => absurd h.symm d.toJson_ne_null
  | some c, none, h => absurd h c.toJson_ne_null
  | some c, some d, h => congrArg some (Condition.eq_of_toJson c d h)

/-- **The JSON of a quantity tells the quantity.** -/
theorem Quantity.eq_of_toJson : ∀ q q' : Quantity, q.toJson = q'.toJson → q = q'
  | .fixed n, q', h => by
    cases q' with
    | fixed n' =>
      simp only [Quantity.toJson, tagged_inj, field_inj, Json.int.injEq, true_and, and_true] at h
      rw [h]
    | _ => simp [Quantity.toJson] at h
  | .read target slot default factor, q', h => by
    cases q' with
    | read target' slot' default' factor' =>
      simp only [Quantity.toJson, tagged_inj, field_inj, Json.int.injEq, true_and, and_true] at h
      obtain ⟨htarget, hslot, rfl, hfactor⟩ := h
      rw [Target.eq_of_toJson _ _ htarget, str_injective Attribute.name_injective hslot,
        Quantity.eq_of_factorToJson _ _ hfactor]
    | _ => simp [Quantity.toJson] at h

theorem Quantity.eq_of_factorToJson : ∀ q q' : Option Quantity,
    Quantity.factorToJson q = Quantity.factorToJson q' → q = q'
  | none, q', h => (Quantity.factorToJson_eq_null_iff.mp h.symm).symm
  | some q, none, h => Quantity.factorToJson_eq_null_iff.mp h
  | some q, some q', h => by
    simp only [Quantity.factorToJson, Json.obj.injEq, field_inj, true_and, and_true] at h
    rw [Quantity.eq_of_toJson q q' h]

/-- **The JSON of a target tells the target.** -/
theorem Target.eq_of_toJson : ∀ t u : Target, t.toJson = u.toJson → t = u
  | .this c, u, h => by
    cases u with
    | this d =>
      simp only [Target.toJson, tagged_inj, field_inj, true_and, and_true] at h
      rw [Condition.eq_of_optionToJson c d h]
    | _ => simp [Target.toJson] at h
  | .cards zone excludeSelf c, u, h => by
    cases u with
    | cards zone' excludeSelf' d =>
      simp only [Target.toJson, tagged_inj, field_inj, Json.bool.injEq, true_and, and_true] at h
      obtain ⟨hzone, rfl, hc⟩ := h
      rw [str_injective Zone.name_injective hzone, Condition.eq_of_optionToJson c d hc]
    | _ => simp [Target.toJson] at h
  | .opponent c, u, h => by
    cases u with
    | opponent d =>
      simp only [Target.toJson, tagged_inj, field_inj, true_and, and_true] at h
      rw [Condition.eq_of_optionToJson c d h]
    | _ => simp [Target.toJson] at h
  | .triggerSource excludeSelf c, u, h => by
    cases u with
    | triggerSource excludeSelf' d =>
      simp only [Target.toJson, tagged_inj, field_inj, Json.bool.injEq, true_and, and_true] at h
      obtain ⟨rfl, hc⟩ := h
      rw [Condition.eq_of_optionToJson c d hc]
    | _ => simp [Target.toJson] at h
  | .random excludeSelf zone c, u, h => by
    cases u with
    | random excludeSelf' zone' d =>
      simp only [Target.toJson, tagged_inj, field_inj, Json.bool.injEq, true_and, and_true] at h
      obtain ⟨rfl, hzone, hc⟩ := h
      rw [str_injective Zone.name_injective hzone, Condition.eq_of_optionToJson c d hc]
    | _ => simp [Target.toJson] at h
  | .leftmost zone excludeSelf c, u, h => by
    cases u with
    | leftmost zone' excludeSelf' d =>
      simp only [Target.toJson, tagged_inj, field_inj, Json.bool.injEq, true_and, and_true] at h
      obtain ⟨hzone, rfl, hc⟩ := h
      rw [str_injective Zone.name_injective hzone, Condition.eq_of_optionToJson c d hc]
    | _ => simp [Target.toJson] at h
  | .neighbors includeOrigin c, u, h => by
    cases u with
    | neighbors includeOrigin' d =>
      simp only [Target.toJson, tagged_inj, field_inj, Json.bool.injEq, true_and, and_true] at h
      obtain ⟨rfl, hc⟩ := h
      rw [Condition.eq_of_optionToJson c d hc]
    | _ => simp [Target.toJson] at h

end

theorem Condition.toJson_injective : Function.Injective Condition.toJson :=
  fun c d => Condition.eq_of_toJson c d

theorem Quantity.toJson_injective : Function.Injective Quantity.toJson :=
  fun q q' => Quantity.eq_of_toJson q q'

theorem Target.toJson_injective : Function.Injective Target.toJson :=
  fun t u => Target.eq_of_toJson t u

/-! ## Triggers, actions and effects -/

theorem Prerequisite.toJson_injective : Function.Injective Prerequisite.toJson := by
  intro p p' h
  obtain ⟨subject, comparison, amount⟩ := p
  obtain ⟨subject', comparison', amount'⟩ := p'
  simp only [Prerequisite.toJson, tagged_inj, field_inj, Json.int.injEq, true_and, and_true] at h
  obtain ⟨hsubject, hcomparison, rfl⟩ := h
  rw [Target.toJson_injective hsubject, str_injective Comparison.name_injective hcomparison]

/-- No prerequisites and an empty list of them are not the same text. -/
theorem prerequisitesToJson_injective : Function.Injective prerequisitesToJson :=
  ofOption_injective (arr_map_injective Prerequisite.toJson_injective) fun _ => Json.noConfusion

theorem Trigger.toJson_injective : Function.Injective Trigger.toJson := by
  intro t u h
  cases t with
  | cardFired =>
    cases u with
    | cardFired => rfl
    | _ => simp [Trigger.toJson] at h
  | fightStarted combat =>
    cases u with
    | fightStarted combat' =>
      simp only [Trigger.toJson, tagged_inj, field_inj, true_and, and_true] at h
      rw [ofOption_injective (fun _ _ => Json.str.inj) (fun _ => Json.noConfusion) h]
    | _ => simp [Trigger.toJson] at h
  | _ =>
    -- every other trigger has the subject as its only field
    cases u <;> simp [Trigger.toJson] at h
    rw [Target.toJson_injective h]

theorem Action.toJson_injective : Function.Injective Action.toJson := by
  intro a b h
  have hvalue := ofOption_injective Quantity.toJson_injective Quantity.toJson_ne_null
  cases a with
  | damage value target =>
    cases b with
    | damage value' target' =>
      simp only [Action.toJson, tagged_inj, field_inj, true_and, and_true] at h
      rw [hvalue h.1, Target.toJson_injective h.2]
    | _ => simp [Action.toJson] at h
  | burn value target =>
    cases b with
    | burn value' target' =>
      simp only [Action.toJson, tagged_inj, field_inj, true_and, and_true] at h
      rw [hvalue h.1, Target.toJson_injective h.2]
    | _ => simp [Action.toJson] at h
  | modify slot operation value targetCount target =>
    cases b with
    | modify slot' operation' value' targetCount' target' =>
      simp only [Action.toJson, tagged_inj, field_inj, true_and, and_true] at h
      obtain ⟨hvalue, hslot, hoperation, hcount, htarget⟩ := h
      rw [Quantity.toJson_injective hvalue, str_injective Attribute.name_injective hslot,
        str_injective Operation.name_injective hoperation,
        ofOption_injective (fun _ _ => Json.int.inj) (fun _ => Json.noConfusion) hcount,
        Target.toJson_injective htarget]
    | _ => simp [Action.toJson] at h
  | _ =>
    -- every other action has the target as its only field
    cases b <;> simp [Action.toJson] at h
    rw [Target.toJson_injective h]

/-- **The JSON of an ability tells the ability.** -/
theorem Ability.toJson_injective : Function.Injective Ability.toJson := by
  intro a b h
  obtain ⟨⟨trigger, action, prerequisites, priority⟩, id⟩ := a
  obtain ⟨⟨trigger', action', prerequisites', priority'⟩, id'⟩ := b
  simp only [Ability.toJson, Json.obj.injEq, field_inj, true_and, and_true] at h
  obtain ⟨hid, htrigger, haction, hprerequisites, hpriority⟩ := h
  rw [str_injective EffectId.text_injective hid, Trigger.toJson_injective htrigger,
    Action.toJson_injective haction, prerequisitesToJson_injective hprerequisites,
    str_injective Priority.name_injective hpriority]

/-- **The JSON of an aura tells the aura.** -/
theorem Aura.toJson_injective : Function.Injective Aura.toJson := by
  intro a b h
  obtain ⟨⟨slot, operation, value, target, prerequisites⟩, id⟩ := a
  obtain ⟨⟨slot', operation', value', target', prerequisites'⟩, id'⟩ := b
  simp only [Aura.toJson, tagged_inj, Json.obj.injEq, field_inj, true_and, and_true] at h
  obtain ⟨hid, ⟨hslot, hoperation, hvalue, htarget⟩, hprerequisites⟩ := h
  rw [str_injective EffectId.text_injective hid, str_injective Attribute.name_injective hslot,
    str_injective Operation.name_injective hoperation, Quantity.toJson_injective hvalue,
    Target.toJson_injective htarget, prerequisitesToJson_injective hprerequisites]

end CardText
