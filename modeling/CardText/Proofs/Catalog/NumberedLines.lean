import CardText.Proofs.Catalog.Range
import CardText.Proofs.Catalog.Recognition
import CardText.Proofs.Pattern.Apart

/-!
# Numbered lines read back

Cards print twelve kinds of lines with numbers, each in one wording. Whatever numbers are filled in,
such a line is recognised as what it is (`classify`), and its numbers are those that were filled in:
no entry before its own finds its phrase in the wording, and the phrase that the numbers are read
with does not occur before its place.

Results:

* `spelled_text`: a line is spelled by its words.
* `recognises_text`, `recognises_eq_false_of_earlier`: which entries recognise it.
* `capture_text`: which numbers are captured in it.
* **`classify_text`**: a line is classified as the fact that it was made from.
-/

namespace CardText

open Pattern Piece

/-- The lines with numbers, as cards print them. -/
inductive Wording
  | cooldown
  | price
  | damage
  | healTrigger
  | shieldBuff
  | weaponDamageBuff
  | weaponHaste
  | burn
  | leftmostToolMulticast
  | freezeReloadWeapon
  | slowChargeItem
  | enemyCooldownIncrease
  deriving DecidableEq

namespace Wording

/-! ## Lines and their facts -/

/-- The kind of a line. -/
def type : Wording → FactType
  | cooldown => .cooldown
  | price => .price
  | damage => .damage
  | healTrigger => .healTrigger
  | shieldBuff => .shieldBuff
  | weaponDamageBuff => .weaponDamageBuff
  | weaponHaste => .weaponHaste
  | burn => .burn
  | leftmostToolMulticast => .leftmostToolMulticast
  | freezeReloadWeapon => .freezeReloadWeapon
  | slowChargeItem => .slowChargeItem
  | enemyCooldownIncrease => .enemyCooldownIncrease

/-- The words of a line, with a place for each number. -/
def words : Wording → List Piece
  | cooldown => phrase "Cooldown " ++ number ++ phrase " seconds"
  | price => phrase "Buy for " ++ number ++ phrase " gold. Sell for " ++ number ++ phrase " gold."
  | damage => phrase "Deal " ++ number ++ phrase " damage."
  | healTrigger => phrase "When you heal, this gains " ++ number ++ phrase " damage for the fight."
  | shieldBuff =>
    phrase "Your Shield items gain +" ++ number ++ phrase " Shield for the fight."
  | weaponDamageBuff =>
    phrase "When you use a weapon, your weapons gain " ++ number ++ phrase " Damage for the fight."
  | weaponHaste => phrase "When you use a Weapon, Haste it for " ++ number ++ phrase " second(s)."
  | burn => phrase "The first time you use a Large item each fight, Burn " ++ number ++ phrase "."
  | leftmostToolMulticast => phrase "Your leftmost Tool has +" ++ number ++ phrase " Multicast."
  | freezeReloadWeapon => phrase "When you Freeze, Reload a Weapon " ++ number ++ phrase " ammo."
  | slowChargeItem =>
    phrase "When you slow, charge " ++ number ++ phrase " item " ++ number ++ phrase " second(s)."
  | enemyCooldownIncrease =>
    phrase "Enemy cooldowns are increased by " ++ number ++ phrase " seconds."

/-- Words with numbers in their places, in decimal. -/
def fill : List Piece → List Nat → List Char
  | .char c :: ps, ns => c :: fill ps ns
  | .digits _ :: ps, n :: ns => Text.decimal n ++ fill ps ns
  | _, _ => []

/-- The numbers of a line from left to right: a card is bought for `n` and sold for `m`, `m` items
are charged for `n` seconds, and the other lines state `n` only. -/
def numbers (w : Wording) (n m : Nat) : List Nat :=
  match w with
  | price => [n, m]
  | slowChargeItem => [m, n]
  | _ => [n]

/-- The line with its numbers. -/
def text (w : Wording) (n m : Nat) : String := .ofList (fill w.words (w.numbers n m))

/-- The milliseconds of seconds, if a signed word of 64 bits holds them. -/
def inMillis {κ : Type} (k : κ) (n : Nat) : List (κ × Int) :=
  if 1000 * n ≤ Text.maxNumber then [(k, 1000 * n)] else []

/-- The parameters that a line states. -/
def params (w : Wording) (n m : Nat) : List (FactParam × Int) :=
  match w with
  | cooldown => inMillis .amount n
  | price => [(.buyPrice, n), (.sellPrice, m)]
  | slowChargeItem => [(.targets, m), (.amount, n)]
  | _ => [(.amount, n)]

/-- The fact of a line. It is extracted unless it is a cooldown of more milliseconds than a word
holds. -/
def fact (w : Wording) (n m : Nat) : Fact where
  category := w.type.category
  type := w.type
  text := w.text n m
  params := .ofList (w.params n m)
  extracted := w ≠ .cooldown ∨ 1000 * n ≤ Text.maxNumber

/-! ## The phrases of a line -/

/-- The entry of the catalog for a line. -/
def entry : Wording → Entry
  | cooldown => .cooldown
  | price => .price
  | damage => .damage
  | healTrigger => .healTrigger
  | shieldBuff => .shieldBuff
  | weaponDamageBuff => .weaponDamageBuff
  | weaponHaste => .weaponHaste
  | burn => .burn
  | leftmostToolMulticast => .leftmostToolMulticast
  | freezeReloadWeapon => .freezeReloadWeapon
  | slowChargeItem => .slowChargeItem
  | enemyCooldownIncrease => .enemyCooldownIncrease

/-- The phrase that the numbers of a line are read with. -/
def reader : Wording → Pattern
  | cooldown => .cooldownSeconds
  | price => .price
  | damage => .dealDamage
  | healTrigger => .healGainsDamage
  | shieldBuff => .shieldAmount
  | weaponDamageBuff => .weaponsGainDamage
  | weaponHaste => .hasteItFor
  | burn => .burn
  | leftmostToolMulticast => .multicastAmount
  | freezeReloadWeapon => .reloadAmmoAmount
  | slowChargeItem => .chargeAmount
  | enemyCooldownIncrease => .cooldownIncreaseAmount

/-- The words before that phrase. -/
def lead : Wording → String
  | cooldown | price | damage => ""
  | healTrigger => "When you heal, this "
  | shieldBuff => "Your Shield items gain "
  | weaponDamageBuff => "When you use a weapon, your "
  | weaponHaste => "When you use a Weapon, "
  | burn => "The first time you use a Large item each fight, "
  | leftmostToolMulticast => "Your leftmost Tool has "
  | freezeReloadWeapon => "When you Freeze, "
  | slowChargeItem => "When you slow, "
  | enemyCooldownIncrease => "Enemy cooldowns are "

/-- The words behind it. -/
def post : Wording → String
  | cooldown | price | damage => ""
  | healTrigger | shieldBuff | weaponDamageBuff => " for the fight."
  | weaponHaste | slowChargeItem => "(s)."
  | burn | leftmostToolMulticast | freezeReloadWeapon => "."
  | enemyCooldownIncrease => "s."

theorem type_entry (w : Wording) : w.entry.type = w.type := by cases w <;> rfl

theorem entry_mem_catalog (w : Wording) : w.entry ∈ catalog := by cases w <;> simp [entry, catalog]

theorem words_eq (w : Wording) :
    w.words = w.lead.toList.map .char ++ (w.reader.pieces ++ w.post.toList.map .char) := by
  cases w <;> decide +kernel

/-- The phrase stands in the printed case and asks for all of its numbers. If it has to start the
line, it does, and if it ends in a number, something else than a digit follows. -/
theorem reader_facts (w : Wording) : w.reader ∈ phrases ∧ w.reader.anyCase = false ∧
    w.reader.pieces.map Piece.asked = w.reader.pieces ∧
    (w.reader.anchored = true → w.lead.toList = []) ∧
    (endsInRun w.reader.pieces = true →
      startsOff Text.isDigit (w.post.toList.map .char) = true) := by
  cases w <;> decide

/-- It has no place in the words before it. -/
theorem avoids_lead (w : Wording) :
    avoids false false w.reader.pieces w.reader.pieces (w.lead.toList.map .char) = true := by
  cases w <;> decide

/-- Each number of an entry is read with that phrase. -/
theorem pattern_of_mem_readings (w : Wording) :
    ∀ r ∈ w.entry.readings, r.pattern = w.reader ∧ 0 < r.group := by
  cases w <;> decide

/-- The phrase of the entry is among the words of the line. -/
theorem phrase_entry (w : Wording) :
    w.entry.phrase.pieces.map Piece.asked <:+: w.words.map Piece.asked ∧
      (w.entry.phrase.anchored = true →
        w.entry.phrase.pieces.map Piece.asked <+: w.words.map Piece.asked) := by
  cases w <;> decide +kernel

/-- The phrase of an earlier entry is not, whatever the numbers are. -/
theorem avoids_words (w : Wording) : ∀ e ∈ catalog.takeWhile (·.type ≠ w.type),
    avoids e.phrase.anyCase false e.phrase.pieces [] w.words = true := by
  cases w <;> decide +kernel

/-! ## Spelling -/

/-- How many numbers are asked for. -/
def holes : List Piece → Nat
  | [] => 0
  | .digits _ :: ps => holes ps + 1
  | .char _ :: ps => holes ps
  | .apostrophe :: ps => holes ps

/-- Words are spelled by the text that they become, whatever numbers are filled in. -/
theorem spelled_fill : ∀ {ps : List Piece} {ns : List Nat}, .apostrophe ∉ ps →
    holes ps = ns.length → Spelled false ps (fill ps ns) (ns.map Text.decimal)
  | [], [], _, _ => .nil
  | [], _ :: _, _, h => absurd h (by simp [holes])
  | .char c :: ps, ns, hps, h =>
    .char (decide_eq_true rfl) (spelled_fill (List.not_mem_of_not_mem_cons hps) h)
  | .apostrophe :: _, _, hps, _ => absurd List.mem_cons_self hps
  | .digits _ :: ps, [], _, h => absurd h (by simp [holes])
  | .digits _ :: ps, n :: ns, hps, h =>
    .digits (Text.decimal_ne_nil n) (fun _ => Text.isDigit_of_mem_decimal)
      (spelled_fill (List.not_mem_of_not_mem_cons hps) (Nat.succ.inj h))

variable (w : Wording) (n m : Nat)

/-- **A line is spelled by its words.** -/
theorem spelled_text :
    Spelled false w.words (w.text n m).toList ((w.numbers n m).map Text.decimal) := by
  have hplain : .apostrophe ∉ w.words := by cases w <;> decide
  have hholes : holes w.words = (w.numbers n m).length := by cases w <;> rfl
  rw [text, String.toList_ofList]
  exact spelled_fill hplain hholes

/-! ## Recognition -/

theorem recognises_text : w.entry.recognises (w.text n m) = true :=
  isMatch_of_infix (sharp_of_mem_catalog _ w.entry_mem_catalog).1 w.phrase_entry.1 w.phrase_entry.2
    (w.spelled_text n m)

/-- No earlier entry recognises a line. -/
theorem recognises_eq_false_of_earlier {e : Entry} (he : e ∈ catalog.takeWhile (·.type ≠ w.type)) :
    e.recognises (w.text n m) = false := by
  obtain ⟨hsharp, hstart⟩ := sharp_of_mem_catalog e ((List.takeWhile_sublist _).mem he)
  exact isMatch_eq_false hsharp hstart (w.avoids_words e he) (w.spelled_text n m)

/-! ## Numbers -/

variable {w n m}

theorem le_of_mem_numbers (hn : n ≤ Text.maxNumber) (hm : m ≤ Text.maxNumber) :
    ∀ k ∈ w.numbers n m, k ≤ Text.maxNumber := by
  cases w <;> simp [numbers, hn, hm]

/-- **The numbers that are captured** are those that were filled in. -/
theorem capture_text (hn : n ≤ Text.maxNumber) (hm : m ≤ Text.maxNumber) (g : Nat) :
    w.reader.capture (g + 1) (w.text n m) = (w.numbers n m)[g]?.map Int.ofNat := by
  obtain ⟨hphrase, hcase, hasked, hanchored, hpost⟩ := w.reader_facts
  have hsharp := sharp_of_mem_phrases _ hphrase
  have hspelled := w.spelled_text n m
  rw [w.words_eq] at hspelled
  obtain ⟨x, hx, hruns⟩ :=
    exists_isFirst_of_wording hsharp hcase hanchored w.avoids_lead hpost hspelled
  have hgroups : x.groups = (w.numbers n m).map Text.decimal := by
    rw [Split.groups, ← hruns, ← hasked]
    exact x.spelled.captured_asked
  rw [capture_eq_of_isFirst hsharp hx, hgroups, List.getElem?_map]
  cases hk : (w.numbers n m)[g]? with
  | none => rfl
  | some k =>
    have hle := le_of_mem_numbers hn hm k (List.mem_of_getElem? hk)
    exact Text.number?_decimal hle

theorem value?_text (hn : n ≤ Text.maxNumber) (hm : m ≤ Text.maxNumber) {r : Reading}
    (hr : r ∈ w.entry.readings) : r.value? (w.text n m) =
      ((w.numbers n m)[r.group - 1]?.map Int.ofNat).bind r.measure.convert := by
  obtain ⟨hpattern, hgroup⟩ := w.pattern_of_mem_readings r hr
  rw [Reading.value?, hpattern, ← Nat.sub_add_cancel hgroup, capture_text hn hm]
  rfl

/-! ## Facts -/

theorem inMillis_eq {κ : Type} (k : κ) (hn : n ≤ Text.maxNumber) :
    inMillis k n = ((millis? n).map fun v => (k, v)).toList := by
  rw [inMillis, millis?_of_inRange ⟨Int.natCast_nonneg n, Int.ofNat_le.mpr hn⟩]
  by_cases hfit : 1000 * n ≤ Text.maxNumber
  · rw [if_pos hfit, if_pos (by omega)]
    rfl
  · rw [if_neg hfit, if_neg (by omega)]
    rfl

/-- The parameters that the entry reads are those that the line states. -/
theorem params_text (hn : n ≤ Text.maxNumber) (hm : m ≤ Text.maxNumber) :
    w.entry.params (w.text n m) = .ofList (w.params n m) := by
  have hread : w.entry.params (w.text n m) = .ofList (w.entry.readings.filterMap fun r =>
      (((w.numbers n m)[r.group - 1]?.map Int.ofNat).bind r.measure.convert).map
        fun k => (r.param, k)) := by
    refine congrArg OrderedMap.ofList (List.filterMap_congr fun r hr => ?_)
    rw [value?_text hn hm hr]
  rw [hread]
  cases w with
  | cooldown =>
    -- the only line that is read in milliseconds
    rw [params, inMillis_eq FactParam.amount hn]
    refine congrArg OrderedMap.ofList ?_
    cases hmillis : millis? n with
    | none => exact List.filterMap_cons_none (congrArg _ hmillis)
    | some v => exact List.filterMap_cons_some (congrArg _ hmillis)
  | _ => rfl

/-- A fact with these parameters has all that its entry asks for, if its milliseconds fit. -/
theorem extracted_params (w : Wording) (n m : Nat) :
    w.entry.required.all (OrderedMap.ofList (w.params n m)).contains =
      decide (w ≠ .cooldown ∨ 1000 * n ≤ Text.maxNumber) := by
  cases w with
  | cooldown =>
    rw [params, inMillis]
    by_cases hfit : 1000 * n ≤ Text.maxNumber
    · rw [if_pos hfit, decide_eq_true (.inr hfit)]
      rfl
    · rw [if_neg hfit, decide_eq_false (not_or.mpr ⟨not_not.mpr rfl, hfit⟩)]
      rfl
  | _ => rfl

/-- **A line is classified as the fact that it was made from.** -/
theorem classify_text (hn : n ≤ Text.maxNumber) (hm : m ≤ Text.maxNumber) :
    classify (w.text n m) = w.fact n m := by
  have hclassify : classify (w.text n m) = w.entry.fact (w.text n m) := by
    refine classify_eq_of_first w.entry_mem_catalog (w.recognises_text n m) fun e he => ?_
    rw [type_entry] at he
    exact w.recognises_eq_false_of_earlier n m he
  have hcategory := category_eq_of_mem_catalog _ w.entry_mem_catalog
  rw [hclassify, Entry.fact, params_text hn hm, extracted_params, hcategory, type_entry]
  rfl

/-- The greatest charge that fits in a word. -/
example : classify "When you slow, charge 2 item 9223372036854775807 second(s)." =
    fact .slowChargeItem 9223372036854775807 2 := by
  decide +kernel

end Wording

end CardText
