/-!
# Letters, digits and blanks

The classes of characters that the texts of a card, its settings and its log are read by.

* A character is blank if it is white space in some script: the controls that move to another
  place, the spaces of every width, and the separators of lines and paragraphs.
* Letters that differ in case only are told by simple case folding, as far as it reaches the letters
  `a` to `z`: the capitals, and the two characters outside of them that fold to one of these
  letters, the long s (U+017F) and the Kelvin sign (U+212A).
* A digit is any character that some script uses as a decimal digit: Arabic-Indic, fullwidth or
  mathematical digits count as well as `0` to `9`. Every script has its ten digits in a row, so the
  class is given by the zeros alone. A run of digits spells a number only when all of them are `0`
  to `9` and the number fits into a signed word of 64 bits, as in `capture_number`. Leading zeros
  are fine.
* Hexadecimal digits are written in lower case and read in either case.

Results:

* `isDigit_of_digitValue?`: every character from `0` to `9` is a digit.
* **`sameFolded_iff`**: which characters are the same letter.
-/

namespace CardText.Text

/-! ## Blanks -/

/-- The ranges of the code points of blank characters, both ends included, in increasing order. -/
def blankRanges : List (Nat × Nat) :=
  [(0x09, 0x0D), (0x20, 0x20), (0x85, 0x85), (0xA0, 0xA0), (0x1680, 0x1680), (0x2000, 0x200A),
    (0x2028, 0x2029), (0x202F, 0x202F), (0x205F, 0x205F), (0x3000, 0x3000)]

/-- Whether a character is blank. -/
def isBlank (c : Char) : Bool := blankRanges.any fun r => r.1 ≤ c.toNat && c.toNat ≤ r.2

/-! ## Letters -/

/-- The letter `a` to `z` that a character folds to, or the character itself. -/
def fold (c : Char) : Char :=
  if 'A' ≤ c ∧ c ≤ 'Z' then Char.ofNat (c.toNat + 32)
  else if c = 'ſ' then 's'
  else if c = '\u212a' then 'k'
  else c

/-- Whether two characters are the same letter, be it in either case. -/
def sameFolded (a b : Char) : Bool := fold a = fold b

theorem sameFolded_self (c : Char) : sameFolded c c = true := by simp [sameFolded]

/-- What holds of the code points of the capitals holds of the capitals. -/
theorem forall_capital {P : Char → Prop} (h : ∀ n < 91, 65 ≤ n → P (Char.ofNat n)) {c : Char}
    (hc : 'A' ≤ c ∧ c ≤ 'Z') : P c := by
  have hlow : 65 ≤ c.toNat := hc.1
  have hhigh : c.toNat ≤ 90 := hc.2
  have hP := h c.toNat (by omega) hlow
  rwa [Char.ofNat_toNat] at hP

/-- Folding leaves a character as it is that is no capital, no long s and no Kelvin sign. -/
theorem fold_of_not_capital {c : Char} (hc : ¬ ('A' ≤ c ∧ c ≤ 'Z')) (hs : c ≠ 'ſ')
    (hk : c ≠ '\u212a') : fold c = c := by
  rw [fold, if_neg hc, if_neg hs, if_neg hk]

theorem toLower_of_not_capital {c : Char} (hc : ¬ ('A' ≤ c ∧ c ≤ 'Z')) : c.toLower = c :=
  dif_neg hc

/-- A letter folds as its small letter does. -/
theorem fold_toLower (c : Char) : fold c.toLower = fold c := by
  by_cases hc : 'A' ≤ c ∧ c ≤ 'Z'
  · refine forall_capital (P := fun c => fold c.toLower = fold c) ?_ hc
    decide
  · rw [toLower_of_not_capital hc]

/-- Besides `s`, `k` and their like, a character folds to its small letter. -/
theorem fold_eq_toLower {c : Char} (hs : c ≠ 'ſ') (hk : c ≠ '\u212a') : fold c = c.toLower := by
  by_cases hc : 'A' ≤ c ∧ c ≤ 'Z'
  · refine forall_capital (P := fun c => fold c = c.toLower) ?_ hc
    decide
  · rw [fold_of_not_capital hc hs hk, toLower_of_not_capital hc]

/-- The letter `s` in either case, and the long one. -/
def likeS : List Char := ['s', 'S', 'ſ']

/-- The letter `k` in either case, and the Kelvin sign. -/
def likeK : List Char := ['k', 'K', '\u212a']

/-- A character that folds to a letter is one of its like if these are the letter, its capital, and
those of the two other characters that fold to it. -/
theorem mem_of_fold_eq {c d : Char} {like : List Char} (hd : d ∈ like)
    (hcapital : ∀ n < 91, 65 ≤ n → (Char.ofNat n).toLower = d → Char.ofNat n ∈ like)
    (hs : fold 'ſ' = d → 'ſ' ∈ like) (hk : fold '\u212a' = d → '\u212a' ∈ like)
    (h : fold c = d) : c ∈ like := by
  by_cases hcs : c = 'ſ'
  · subst hcs
    exact hs h
  by_cases hck : c = '\u212a'
  · subst hck
    exact hk h
  rw [fold_eq_toLower hcs hck] at h
  by_cases hc : 'A' ≤ c ∧ c ≤ 'Z'
  · exact forall_capital (P := fun c => c.toLower = d → c ∈ like) hcapital hc h
  · rw [toLower_of_not_capital hc] at h
    exact h ▸ hd

theorem fold_eq_s_iff {c : Char} : fold c = 's' ↔ c ∈ likeS := by
  constructor
  · exact mem_of_fold_eq (by decide) (by decide) (by decide) (by decide)
  · intro h
    simp only [likeS, List.mem_cons, List.not_mem_nil, or_false] at h
    rcases h with rfl | rfl | rfl <;> rfl

theorem fold_eq_k_iff {c : Char} : fold c = 'k' ↔ c ∈ likeK := by
  constructor
  · exact mem_of_fold_eq (by decide) (by decide) (by decide) (by decide)
  · intro h
    simp only [likeK, List.mem_cons, List.not_mem_nil, or_false] at h
    rcases h with rfl | rfl | rfl <;> rfl

/-- **Which characters are the same letter**: those that differ in case only, the long s and the
letter s, and the Kelvin sign and the letter k. -/
theorem sameFolded_iff {a b : Char} :
    sameFolded a b = true ↔
      a.toLower = b.toLower ∨ (a ∈ likeS ∧ b ∈ likeS) ∨ (a ∈ likeK ∧ b ∈ likeK) := by
  unfold sameFolded
  rw [decide_eq_true_eq]
  constructor
  · intro h
    by_cases hs : fold a = 's'
    · exact Or.inr (Or.inl ⟨fold_eq_s_iff.mp hs, fold_eq_s_iff.mp (h.symm.trans hs)⟩)
    by_cases hk : fold a = 'k'
    · exact Or.inr (Or.inr ⟨fold_eq_k_iff.mp hk, fold_eq_k_iff.mp (h.symm.trans hk)⟩)
    have hplain : ∀ {c}, fold c = fold a → fold c = c.toLower := by
      intro c hc
      refine fold_eq_toLower ?_ ?_
      · rintro rfl
        exact hs hc.symm
      · rintro rfl
        exact hk hc.symm
    exact Or.inl ((hplain rfl).symm.trans (h.trans (hplain h.symm)))
  · rintro (h | ⟨ha, hb⟩ | ⟨ha, hb⟩)
    · rw [← fold_toLower, h, fold_toLower]
    · rw [fold_eq_s_iff.mpr ha, fold_eq_s_iff.mpr hb]
    · rw [fold_eq_k_iff.mpr ha, fold_eq_k_iff.mpr hb]

/-! ## Decimal digits -/

/-- The code points of the characters for zero, in increasing order. -/
def digitZeros : List Nat :=
  [0x30, 0x660, 0x6F0, 0x7C0, 0x966, 0x9E6, 0xA66, 0xAE6, 0xB66, 0xBE6, 0xC66, 0xCE6, 0xD66,
    0xDE6, 0xE50, 0xED0, 0xF20, 0x1040, 0x1090, 0x17E0, 0x1810, 0x1946, 0x19D0, 0x1A80, 0x1A90,
    0x1B50, 0x1BB0, 0x1C40, 0x1C50, 0xA620, 0xA8D0, 0xA900, 0xA9D0, 0xA9F0, 0xAA50, 0xABF0,
    0xFF10, 0x104A0, 0x10D30, 0x10D40, 0x11066, 0x110F0, 0x11136, 0x111D0, 0x112F0, 0x11450,
    0x114D0, 0x11650, 0x116C0, 0x116D0, 0x116DA, 0x11730, 0x118E0, 0x11950, 0x11BF0, 0x11C50,
    0x11D50, 0x11DA0, 0x11F50, 0x16130, 0x16A60, 0x16AC0, 0x16B50, 0x16D70, 0x1CCF0, 0x1D7CE,
    0x1D7D8, 0x1D7E2, 0x1D7EC, 0x1D7F6, 0x1E140, 0x1E2F0, 0x1E4F0, 0x1E5F1, 0x1E950, 0x1FBF0]

/-- Whether a character is a decimal digit of some script. -/
def isDigit (c : Char) : Bool :=
  digitZeros.any fun z => z ≤ c.toNat && c.toNat < z + 10

/-- The value of a character from `0` to `9`. -/
def digitValue? (c : Char) : Option Nat :=
  if '0' ≤ c ∧ c ≤ '9' then some (c.toNat - '0'.toNat) else none

/-- The greatest number a signed word of 64 bits holds. -/
def maxNumber : Nat := 0x7FFFFFFFFFFFFFFF

/-- The number that the characters from `0` to `9` spell after what has been read. -/
def natFrom? : Nat → List Char → Option Nat
  | n, [] => some n
  | n, c :: cs => (digitValue? c).bind fun d => natFrom? (10 * n + d) cs

/-- The number that a text spells: at least one digit, only `0` to `9`, and at most
`maxNumber`. -/
def number? : List Char → Option Int
  | [] => none
  | cs => (natFrom? 0 cs).bind fun n => if n ≤ maxNumber then some (n : Int) else none

/-- The decimal digits of a number, without leading zeros. -/
def decimal (n : Nat) : List Char :=
  if n < 10 then [Nat.digitChar n] else decimal (n / 10) ++ [Nat.digitChar (n % 10)]
termination_by n

/-- The decimal text of an integer. -/
def signedDecimal : Int → List Char
  | .ofNat n => decimal n
  | .negSucc n => '-' :: decimal (n + 1)

/-- Every character from `0` to `9` is a digit. -/
theorem isDigit_of_digitValue? {c : Char} {d : Nat} (h : digitValue? c = some d) :
    isDigit c = true := by
  unfold digitValue? at h
  split at h
  · rename_i hc
    have h0 : 48 ≤ c.toNat := hc.1
    have h9 : c.toNat ≤ 57 := hc.2
    have : (decide (0x30 ≤ c.toNat) && decide (c.toNat < 0x30 + 10)) = true := by
      simp only [Bool.and_eq_true, decide_eq_true_eq]
      omega
    simp only [isDigit, digitZeros, List.any_cons, this, Bool.true_or]
  · exact absurd h (by simp)

/-! ## Hexadecimal digits -/

/-- The digits of a number to the base 16, in lower case and without leading zeros. -/
def hexadecimal (n : Nat) : List Char :=
  if n < 16 then [Nat.digitChar n] else hexadecimal (n / 16) ++ [Nat.digitChar (n % 16)]
termination_by n

/-- The value of a hexadecimal digit, in either case. -/
def hexValue? (c : Char) : Option Nat :=
  if '0' ≤ c ∧ c ≤ '9' then some (c.toNat - '0'.toNat)
  else if 'a' ≤ c ∧ c ≤ 'f' then some (c.toNat - 'a'.toNat + 10)
  else if 'A' ≤ c ∧ c ≤ 'F' then some (c.toNat - 'A'.toNat + 10)
  else none

/-- The number that hexadecimal digits spell after what has been read. -/
def hexFrom? : Nat → List Char → Option Nat
  | n, [] => some n
  | n, c :: cs => (hexValue? c).bind fun d => hexFrom? (16 * n + d) cs

end CardText.Text
