import CardText.Text.Character
import Mathlib.Data.Nat.Digits.Defs
import Mathlib.Tactic.Ring

/-!
# Decimal numbers read back

A number's digits spell the number, so no two numbers have the same digits. Where something else
than a digit follows, a text tells where the number ends.

Results:

* `number?_eq_some_iff`: which number a run of digits spells, by what its digits are worth.
* `natFrom?_decimal`: the digits of a number spell it.
* `number?_decimal`: so it is read from them, if it fits in a word.
* `decimal_append_inj`, `signedDecimal_append_inj`: a text that starts with a number starts with
  no other.
-/

namespace CardText.Text

/-! ## Runs of digits -/

/-- The number that a run of the characters `0` to `9` denotes. -/
def value (run : List Char) : Nat := Nat.ofDigits 10 (run.reverse.map fun c => c.toNat - '0'.toNat)

/-- The run denotes the number: it has no other characters than `0` to `9`, and the number is one
that a signed word of 64 bits holds. -/
def Denotes (run : List Char) (n : Int) : Prop :=
  (∀ c ∈ run, '0' ≤ c ∧ c ≤ '9') ∧ n = value run ∧ value run ≤ maxNumber

theorem value_cons (c : Char) (run : List Char) :
    value (c :: run) = value run + 10 ^ run.length * (c.toNat - '0'.toNat) := by
  simp [value, Nat.ofDigits_append]

/-- What has been read counts as much as its place says, and the rest of the run for itself. -/
theorem natFrom?_eq_some_iff : ∀ {run : List Char} {m n : Nat}, natFrom? m run = some n ↔
    (∀ c ∈ run, '0' ≤ c ∧ c ≤ '9') ∧ n = 10 ^ run.length * m + value run
  | [], m, n => by simp [natFrom?, value, eq_comm]
  | c :: run, m, n => by
    simp only [natFrom?, List.forall_mem_cons, value_cons, List.length_cons]
    unfold digitValue?
    split_ifs with hc
    · rw [Option.bind_some, natFrom?_eq_some_iff, and_iff_right hc]
      refine and_congr_right fun _ => ?_
      rw [show 10 ^ run.length * (10 * m + (c.toNat - '0'.toNat)) + value run =
        10 ^ (run.length + 1) * m + (value run + 10 ^ run.length * (c.toNat - '0'.toNat)) by ring]
    · simp [hc]

/-- **Which number a run of digits spells.** -/
theorem number?_eq_some_iff {run : List Char} (hne : run ≠ []) {n : Int} :
    number? run = some n ↔ Denotes run n := by
  obtain ⟨c, cs, rfl⟩ := List.exists_cons_of_ne_nil hne
  show (natFrom? 0 (c :: cs)).bind (fun k => if k ≤ maxNumber then some (k : Int) else none) = _ ↔ _
  simp only [Option.bind_eq_some_iff, natFrom?_eq_some_iff, Nat.mul_zero, Nat.zero_add,
    Option.ite_none_right_eq_some, Option.some.injEq]
  constructor
  · rintro ⟨k, ⟨hall, rfl⟩, hle, rfl⟩
    exact ⟨hall, rfl, hle⟩
  · rintro ⟨hall, rfl, hle⟩
    exact ⟨_, ⟨hall, rfl⟩, hle, rfl⟩

/-! ## Natural numbers -/

/-- Every character of a number that is read is a numeral. -/
theorem isSome_digitValue?_of_natFrom? : ∀ {run : List Char} {m n : Nat},
    natFrom? m run = some n → ∀ c ∈ run, (digitValue? c).isSome = true
  | [], _, _, _ => fun _ h => absurd h List.not_mem_nil
  | c :: run, m, n, h => by
    simp only [natFrom?] at h
    obtain ⟨d, hd, h⟩ := Option.bind_eq_some_iff.mp h
    refine List.forall_mem_cons.mpr ⟨?_, isSome_digitValue?_of_natFrom? h⟩
    rw [hd]
    rfl

theorem natFrom?_append : ∀ (xs ys : List Char) (m : Nat),
    natFrom? m (xs ++ ys) = (natFrom? m xs).bind fun n => natFrom? n ys
  | [], _, _ => rfl
  | c :: xs, ys, m => by
    simp only [List.cons_append, natFrom?, Option.bind_assoc]
    refine congrArg _ (funext fun d => ?_)
    exact natFrom?_append xs ys _

theorem digitValue?_digitChar : ∀ d < 10, digitValue? (Nat.digitChar d) = some d := by
  decide

/-- **The digits of a number spell it.** -/
theorem natFrom?_decimal (n : Nat) : natFrom? 0 (decimal n) = some n := by
  induction n using Nat.strongRecOn with
  | ind n ih =>
    rw [decimal]
    split
    · rename_i hn
      simp [natFrom?, digitValue?_digitChar n hn]
    · rename_i hn
      have hrest := ih (n / 10) (by omega)
      have hlast := digitValue?_digitChar (n % 10) (Nat.mod_lt _ (by decide))
      rw [natFrom?_append, hrest, Option.bind_some]
      simp only [natFrom?, hlast, Option.bind_some, Option.some.injEq]
      omega

theorem decimal_ne_nil (n : Nat) : decimal n ≠ [] := by
  rw [decimal]
  split <;> simp

/-- A number that a signed word of 64 bits holds is read from its digits. -/
theorem number?_decimal {n : Nat} (h : n ≤ maxNumber) : number? (decimal n) = some (n : Int) := by
  obtain ⟨c, cs, hn⟩ := List.exists_cons_of_ne_nil (decimal_ne_nil n)
  have hread := natFrom?_decimal n
  rw [hn] at hread ⊢
  show (natFrom? 0 (c :: cs)).bind (fun k => if k ≤ maxNumber then some (k : Int) else none) = _
  rw [hread, Option.bind_some, if_pos h]

theorem isDigit_of_mem_decimal {n : Nat} {c : Char} (h : c ∈ decimal n) : isDigit c = true := by
  obtain ⟨d, hd⟩ := Option.isSome_iff_exists.mp
    (isSome_digitValue?_of_natFrom? (natFrom?_decimal n) c h)
  exact isDigit_of_digitValue? hd

/-- The digits of a number are numerals. -/
theorem exists_digitChar_of_mem_decimal {n : Nat} {c : Char} (h : c ∈ decimal n) :
    ∃ d < 10, c = Nat.digitChar d := by
  induction n using Nat.strongRecOn with
  | ind n ih =>
    rw [decimal] at h
    split at h
    · rename_i hn
      exact ⟨n, hn, List.mem_singleton.mp h⟩
    · rename_i hn
      rcases List.mem_append.mp h with h | h
      · exact ih (n / 10) (by omega) h
      · exact ⟨n % 10, Nat.mod_lt _ (by decide), List.mem_singleton.mp h⟩

theorem decimal_injective : Function.Injective decimal := by
  intro m n h
  have hm := natFrom?_decimal m
  rw [h, natFrom?_decimal] at hm
  exact (Option.some.inj hm).symm

/-- What stands here ends a number. -/
def EndsNumber (rest : List Char) : Prop := ∀ c ∈ rest.head?, digitValue? c = none

theorem endsNumber_nil : EndsNumber [] := fun _ h => by simp at h

theorem endsNumber_cons {c : Char} (h : digitValue? c = none) (rest : List Char) :
    EndsNumber (c :: rest) := by
  intro d hd
  obtain rfl : c = d := by simpa using hd
  exact h

/-- The digits of a number are those that a text starts with. -/
theorem takeWhile_decimal_append {rest : List Char} (h : EndsNumber rest) (n : Nat) :
    (decimal n ++ rest).takeWhile (fun c => (digitValue? c).isSome) = decimal n := by
  have hrest : rest.takeWhile (fun c => (digitValue? c).isSome) = [] := by
    cases rest with
    | nil => rfl
    | cons c rest => rw [List.takeWhile_cons_of_neg (by simp [h c rfl])]
  rw [List.takeWhile_append_of_pos (isSome_digitValue?_of_natFrom? (natFrom?_decimal n)), hrest,
    List.append_nil]

/-- **A text starts with one number only.** -/
theorem decimal_append_inj {m n : Nat} {r s : List Char} (h : decimal m ++ r = decimal n ++ s)
    (hr : EndsNumber r) (hs : EndsNumber s) : m = n ∧ r = s := by
  have hdigits := congrArg (List.takeWhile fun c => (digitValue? c).isSome) h
  rw [takeWhile_decimal_append hr, takeWhile_decimal_append hs] at hdigits
  obtain rfl := decimal_injective hdigits
  exact ⟨rfl, List.append_cancel_left h⟩

/-! ## Integers -/

theorem exists_numeral_of_decimal (n : Nat) :
    ∃ c rest, decimal n = c :: rest ∧ (digitValue? c).isSome = true := by
  have hall := isSome_digitValue?_of_natFrom? (natFrom?_decimal n)
  cases h : decimal n with
  | nil => exact absurd h (decimal_ne_nil n)
  | cons c rest => exact ⟨c, rest, rfl, hall c (h ▸ List.mem_cons_self)⟩

/-- No number starts with a sign. -/
theorem decimal_append_ne_sign {n : Nat} {r s : List Char} : decimal n ++ r ≠ '-' :: s := by
  obtain ⟨c, rest, hn, hc⟩ := exists_numeral_of_decimal n
  intro h
  rw [hn] at h
  obtain rfl := (List.cons.inj h).1
  exact absurd hc (by decide)

theorem signedDecimal_append_inj : ∀ {m n : Int} {r s : List Char},
    signedDecimal m ++ r = signedDecimal n ++ s → EndsNumber r → EndsNumber s → m = n ∧ r = s
  | .ofNat m, .ofNat n, r, s, h, hr, hs => by
    obtain ⟨rfl, rfl⟩ := decimal_append_inj h hr hs
    exact ⟨rfl, rfl⟩
  | .ofNat m, .negSucc n, r, s, h, _, _ => absurd h decimal_append_ne_sign
  | .negSucc m, .ofNat n, r, s, h, _, _ => absurd h.symm decimal_append_ne_sign
  | .negSucc m, .negSucc n, r, s, h, hr, hs => by
    obtain ⟨hmn, rfl⟩ := decimal_append_inj (List.cons.inj h).2 hr hs
    obtain rfl := Nat.succ.inj hmn
    exact ⟨rfl, rfl⟩

end CardText.Text
