import CardText.Proofs.Catalog.Kinds
import CardText.Proofs.OrderedMap

/-!
# The range and the unit of the numbers in a fact

A number starts as a run of digits, so it has no sign, and it is taken only if a signed word of 64
bits holds it (`capture_number`). Seconds are multiplied into milliseconds (`seconds_to_millis`),
and the product is given up where no word holds it. So a number that was read is in range wherever
it goes, and one that stands in milliseconds is a whole number of seconds.

Results:

* `InRange.of_capture`, `InRange.of_convert`: the two places where a number may be given up.
* `millis?_of_inRange`: when the milliseconds of what was read fit.
* `exists_reading_of_param`: a parameter of a fact is what a reading of its entry found.
* `param_fact_of_mem`: and what a reading of the entry finds is the parameter of the fact.
* **`wellFormed_classify`**: every classified line is well formed (`Fact.WellFormed`).
-/

namespace CardText

/-- A number without a sign that a signed word of 64 bits holds. -/
def InRange (n : Int) : Prop := 0 ≤ n ∧ n ≤ Text.maxNumber

instance (n : Int) : Decidable (InRange n) :=
  inferInstanceAs (Decidable (0 ≤ n ∧ n ≤ (Text.maxNumber : Int)))

/-- A number of milliseconds that was stated in seconds. -/
def WholeSeconds (n : Int) : Prop := 1000 ∣ n

instance (n : Int) : Decidable (WholeSeconds n) := inferInstanceAs (Decidable ((1000 : Int) ∣ n))

/-! ## From digits to numbers -/

namespace InRange

variable {n s : Int}

theorem of_number? : ∀ {cs : List Char}, Text.number? cs = some n → InRange n
  | [], h => absurd h (by simp [Text.number?])
  | c :: cs, h => by
    obtain ⟨m, -, hm⟩ := Option.bind_eq_some_iff.mp h
    obtain ⟨hle, hn⟩ := Option.ite_none_right_eq_some.mp hm
    obtain rfl := Option.some.inj hn
    exact ⟨Int.natCast_nonneg m, Int.ofNat_le.mpr hle⟩

/-- A group of a match gives a number in range or none. -/
theorem of_group {m : Match} : ∀ {group : Nat}, m.number? group = some n → InRange n
  | 0, h => of_number? h
  | _ + 1, h => by
    obtain ⟨run, -, hrun⟩ := Option.bind_eq_some_iff.mp h
    exact of_number? hrun

theorem of_capture {p : Pattern} {group : Nat} {text : String}
    (h : p.capture group text = some n) : InRange n := by
  obtain ⟨m, -, hm⟩ := Option.bind_eq_some_iff.mp h
  exact of_group hm

end InRange

/-! ## From seconds to milliseconds -/

theorem millis?_eq_some_iff {s n : Int} : millis? s = some n ↔ fits n = true ∧ n = s * 1000 := by
  unfold millis?
  rw [Option.ite_none_right_eq_some, Option.some.injEq]
  constructor
  · rintro ⟨hf, rfl⟩
    exact ⟨hf, rfl⟩
  · rintro ⟨hf, rfl⟩
    exact ⟨hf, rfl⟩

theorem WholeSeconds.of_millis? {s n : Int} (h : millis? s = some n) : WholeSeconds n := by
  obtain ⟨-, rfl⟩ := millis?_eq_some_iff.mp h
  exact Int.dvd_mul_left s 1000

/-- The product of a number in range is in range, or it is given up. -/
theorem InRange.of_millis? {s n : Int} (hs : InRange s) (h : millis? s = some n) : InRange n := by
  obtain ⟨hf, rfl⟩ := millis?_eq_some_iff.mp h
  rw [fits, Bool.and_eq_true, decide_eq_true_eq, decide_eq_true_eq] at hf
  exact ⟨Int.mul_nonneg hs.1 (by decide), hf.2⟩

/-- The milliseconds of a number of seconds that was read are a thousand times as many, if that
fits. -/
theorem millis?_of_inRange {n : Int} (h : InRange n) :
    millis? n = if 1000 * n ≤ Text.maxNumber then some (1000 * n) else none := by
  have hfits : fits (1000 * n) = true ↔ 1000 * n ≤ Text.maxNumber := by
    have hn := h.1
    simp only [fits, Bool.and_eq_true, decide_eq_true_eq, Text.maxNumber]
    omega
  simp only [millis?, Int.mul_comm n 1000, hfits]

/-- The greatest number of seconds that is kept, and the one behind it. -/
example : millis? 9223372036854775 = some 9223372036854775000 ∧
    millis? 9223372036854776 = none := by decide

theorem InRange.of_convert {m : Measure} {s n : Int} (hs : InRange s)
    (h : m.convert s = some n) : InRange n := by
  cases m with
  | count =>
    obtain rfl := Option.some.inj h
    exact hs
  | seconds => exact hs.of_millis? h

/-! ## From readings to facts -/

theorem InRange.of_reading {r : Reading} {text : String} {n : Int}
    (h : r.value? text = some n) : InRange n := by
  obtain ⟨s, hs, hn⟩ := Option.bind_eq_some_iff.mp h
  exact (InRange.of_capture hs).of_convert hn

theorem WholeSeconds.of_reading {r : Reading} (hr : r.measure = .seconds) {text : String} {n : Int}
    (h : r.value? text = some n) : WholeSeconds n := by
  obtain ⟨s, -, hn⟩ := Option.bind_eq_some_iff.mp h
  rw [hr] at hn
  exact WholeSeconds.of_millis? hn

namespace Entry

variable {e : Entry} {text : String} {p : FactParam}

/-- The readings of an entry are for different parameters. -/
theorem nodup_params_of_mem_catalog : ∀ e ∈ catalog, (e.readings.map (·.param)).Nodup := by decide

/-- A parameter of a fact is what a reading of its entry found in the text. -/
theorem exists_reading_of_param {n : Int} (h : (e.fact text).param p = some n) :
    ∃ r ∈ e.readings, r.param = p ∧ r.value? text = some n := by
  obtain ⟨r, hr, hv⟩ := List.mem_filterMap.mp (OrderedMap.mem_of_get?_ofList h)
  obtain ⟨m, hm, hpair⟩ := Option.map_eq_some_iff.mp hv
  obtain ⟨hp, rfl⟩ := Prod.mk.inj hpair
  exact ⟨r, hr, hp, hm⟩

/-- What readings find stands in their order, each under its parameter. -/
theorem sublist_params_found (text : String) : ∀ readings : List Reading,
    List.Sublist ((readings.filterMap fun r => (r.value? text).map fun n => (r.param, n)).map (·.1))
      (readings.map (·.param))
  | [] => .slnil
  | r :: readings => by
    rw [List.filterMap_cons]
    cases r.value? text with
    | none => exact (sublist_params_found text readings).cons _
    | some n => exact (sublist_params_found text readings).cons_cons _

/-- **A fact has the numbers that its entry's readings find**, and no others. -/
theorem param_fact_of_mem (he : e ∈ catalog) {r : Reading} (hr : r ∈ e.readings) :
    (e.fact text).param r.param = r.value? text := by
  cases hv : r.value? text with
  | none =>
    -- no other reading is for the same parameter
    rw [Option.eq_none_iff_forall_ne_some]
    intro n hn
    obtain ⟨r', hr', hparam, hv'⟩ := exists_reading_of_param hn
    obtain rfl := List.inj_on_of_nodup_map (nodup_params_of_mem_catalog e he) hr' hr hparam
    rw [hv] at hv'
    cases hv'
  | some n =>
    refine OrderedMap.get?_ofList_of_mem ?_ (List.mem_filterMap.mpr ⟨r, hr, by rw [hv]; rfl⟩)
    exact (nodup_params_of_mem_catalog e he).sublist (sublist_params_found text e.readings)

theorem extracted_fact_iff :
    (e.fact text).extracted = true ↔ ∀ p ∈ e.required, ∃ n, (e.fact text).param p = some n := by
  show e.required.all (e.params text).contains = true ↔ _
  rw [List.all_eq_true]
  exact forall₂_congr fun p _ => Option.isSome_iff_exists

end Entry

/-! ## Classified lines -/

/-- What a fact has to be that a text is classified as. -/
structure Fact.WellFormed (f : Fact) (text : String) : Prop where
  text : f.text = text
  unmatched : f.type = .unmatched →
    f.category = .passive ∧ f.params = .empty ∧ f.extracted = true
  /-- a recognised fact has the category of its entry, only numbers that the entry asks for, and it
  is extracted exactly if all of them are there -/
  recognised : f.type ≠ .unmatched → ∃ e, Entry.ofType? f.type = some e ∧
    f.category = e.category ∧ (∀ p n, f.param p = some n → p ∈ e.required) ∧
    (f.extracted = true ↔ ∀ p ∈ e.required, ∃ n, f.param p = some n)
  inRange : ∀ p n, f.param p = some n → InRange n
  cooldown : f.type = .cooldown → ∀ n, f.amount = some n → WholeSeconds n

namespace Fact

theorem wellFormed_unmatched (text : String) : (unmatched text).WellFormed text where
  text := rfl
  unmatched _ := ⟨rfl, rfl, rfl⟩
  recognised h := absurd rfl h
  inRange _ _ h := absurd h (by simp [param, unmatched])
  cooldown h := absurd h (by simp [unmatched])

/-- The readings of cooldowns are in seconds. -/
theorem measure_of_cooldown :
    ∀ e ∈ catalog, e.type = .cooldown → ∀ r ∈ e.readings, r.measure = .seconds := by
  decide

theorem wellFormed_fact {e : Entry} (he : e ∈ catalog) (text : String) :
    (e.fact text).WellFormed text where
  text := rfl
  unmatched h := absurd h (type_ne_unmatched_of_mem_catalog e he)
  recognised _ := by
    refine ⟨e, Entry.ofType?_eq_some he, rfl, fun p n h => ?_, Entry.extracted_fact_iff⟩
    obtain ⟨r, hr, rfl, -⟩ := Entry.exists_reading_of_param h
    exact List.mem_map_of_mem hr
  inRange p n h := by
    obtain ⟨r, -, -, hv⟩ := Entry.exists_reading_of_param h
    exact .of_reading hv
  cooldown htype n h := by
    obtain ⟨r, hr, -, hv⟩ := Entry.exists_reading_of_param h
    exact .of_reading (measure_of_cooldown e he htype r hr) hv

end Fact

/-- **Every classified line is well formed.** -/
theorem wellFormed_classify (text : String) : (classify text).WellFormed text := by
  unfold classify
  split
  · rename_i e he
    exact Fact.wellFormed_fact (List.mem_of_find?_eq_some he) text
  · exact Fact.wellFormed_unmatched text

end CardText
