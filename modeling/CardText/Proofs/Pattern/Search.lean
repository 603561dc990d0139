import CardText.Pattern.Phrases
import CardText.Proofs.Pattern.Spelling
import CardText.Proofs.Text.Decimal

/-!
# Where a pattern matches

A pattern splits a text into what stands before the match, the match itself and what comes behind.
Of all the splits there are, the one counts that begins first, and of those that begin there the one
whose runs of digits are longest; a number that it does not give (`capture_number`) is not looked
for in another one.

Results:

* `find_eq_some`, `find_eq_none`: the search tries the places of a text from the left.
* `Split.eq_of_isFirst`: the split that counts is the only one.
* `exists_isFirst_of_find`, `nonempty_split_iff`: the search finds it, and whenever there is one.
* **`capture_eq_of_isFirst`**: what is captured are the numbers of the split that counts.
* **`found_exactly`**: all of it for every pattern that lines are recognised by or read with.
-/

namespace CardText.Pattern

variable {p : Pattern} {s : List Char}

/-- The pattern with all of its numbers asked for. -/
def asked (p : Pattern) : Pattern := { p with pieces := p.pieces.map .asked }

/-- A text cut in three, so that the middle is spelled by the pattern. -/
@[ext]
structure Split (p : Pattern) (s : List Char) where
  before : List Char
  taken : List Char
  behind : List Char
  /-- the runs of digits in the middle, from left to right -/
  runs : List (List Char)
  text_eq : s = before ++ (taken ++ behind)
  spelled : Spelled p.anyCase p.pieces taken runs
  before_eq_nil : p.anchored = true → before = []

/-- Texts of which each is a start of the other are the same. -/
theorem eq_of_mutual_starts : ∀ {xs ys : List (List Char)}, List.Forall₂ (· <+: ·) xs ys →
    List.Forall₂ (· <+: ·) ys xs → xs = ys
  | _, _, .nil, _ => rfl
  | _, _, .cons h hs, .cons h' hs' => by
    rw [h.eq_of_length_le h'.length_le, eq_of_mutual_starts hs hs']

namespace Split

/-- The runs of digits that the pattern asks for. -/
def groups (x : Split p s) : List (List Char) := captured p.pieces x.runs

/-- The split counts: no other begins before it, and those that begin where it does have no longer
runs of digits. -/
structure IsFirst (x : Split p s) : Prop where
  leftmost : ∀ y : Split p s, x.before.length ≤ y.before.length
  longest : ∀ y : Split p s, y.before = x.before →
    y.taken <+: x.taken ∧ List.Forall₂ (· <+: ·) y.runs x.runs

/-- What comes behind a text does not matter to a split of it. -/
def appendRight (x : Split p s) (t : List Char) : Split p (s ++ t) :=
  { x with
    behind := x.behind ++ t
    text_eq := by
      have h := congrArg (· ++ t) x.text_eq
      simpa only [List.append_assoc] using h }

/-- What comes before it does not either, unless the pattern has to start the text. -/
def appendLeft (h : p.anchored = false) (t : List Char) (x : Split p s) : Split p (t ++ s) :=
  { x with
    before := t ++ x.before
    text_eq := by
      have h := congrArg (t ++ ·) x.text_eq
      simpa only [List.append_assoc] using h
    before_eq_nil := fun ha => absurd (ha.symm.trans h) (by simp) }

/-- Splits of a text that begin at the same place have the same text before them. -/
theorem before_eq_of_length {q : Pattern} {x : Split p s} {y : Split q s}
    (h : x.before.length = y.before.length) :
    x.before = y.before ∧ x.taken ++ x.behind = y.taken ++ y.behind :=
  List.append_inj (x.text_eq.symm.trans y.text_eq) h

/-- **The split that counts is the only one.** -/
theorem eq_of_isFirst {x y : Split p s} (hx : x.IsFirst) (hy : y.IsFirst) : x = y := by
  obtain ⟨hbefore, hrest⟩ :=
    before_eq_of_length (Nat.le_antisymm (hx.leftmost y) (hy.leftmost x))
  obtain ⟨hxy, hruns⟩ := hy.longest x hbefore
  obtain ⟨hyx, hruns'⟩ := hx.longest y hbefore.symm
  have htaken : x.taken = y.taken := hxy.eq_of_length_le hyx.length_le
  have hbehind : x.behind = y.behind := by
    rw [htaken] at hrest
    exact List.append_cancel_left hrest
  exact Split.ext hbefore htaken hbehind (eq_of_mutual_starts hruns hruns')

end Split

/-! ## The search -/

theorem findFrom_eq_some : ∀ {s : List Char} {m : Match}, p.findFrom s = some m →
    ∃ before v, s = before ++ v ∧ p.matchAt v = some m ∧
      ∀ u w, s = u ++ w → u.length < before.length → p.matchAt w = none
  | [], m, h => ⟨[], [], rfl, h, fun _ _ _ hlt => absurd hlt (Nat.not_lt_zero _)⟩
  | c :: s, m, h => by
    rw [findFrom] at h
    split at h
    · rename_i m' hm
      obtain rfl := Option.some.inj h
      exact ⟨[], c :: s, rfl, hm, fun _ _ _ hlt => absurd hlt (Nat.not_lt_zero _)⟩
    · rename_i hnone
      obtain ⟨before, v, rfl, hm, hleft⟩ := findFrom_eq_some h
      refine ⟨c :: before, v, rfl, hm, fun u w huw hlt => ?_⟩
      cases u with
      | nil =>
        rw [List.nil_append] at huw
        exact huw ▸ hnone
      | cons a u =>
        exact hleft u w (List.cons.inj huw).2 (Nat.lt_of_succ_lt_succ hlt)

theorem findFrom_eq_none : ∀ {s : List Char}, p.findFrom s = none →
    ∀ u w, s = u ++ w → p.matchAt w = none
  | [], h, u, w, huw => by
    obtain ⟨rfl, rfl⟩ := List.append_eq_nil_iff.mp huw.symm
    exact h
  | c :: s, h, u, w, huw => by
    rw [findFrom] at h
    split at h
    · exact absurd h (by simp)
    · rename_i hnone
      cases u with
      | nil =>
        rw [List.nil_append] at huw
        exact huw ▸ hnone
      | cons a u => exact findFrom_eq_none h u w (List.cons.inj huw).2

/-- **The search gives the match at the first place that has one**, or at the start of the text. -/
theorem find_eq_some {m : Match} (h : p.find s = some m) :
    ∃ before v, s = before ++ v ∧ p.matchAt v = some m ∧ (p.anchored = true → before = []) ∧
      ∀ u w, s = u ++ w → u.length < before.length → p.matchAt w = none := by
  rw [find] at h
  split at h
  · exact ⟨[], s, rfl, h, fun _ => rfl, fun _ _ _ hlt => absurd hlt (Nat.not_lt_zero _)⟩
  · rename_i hfree
    obtain ⟨before, v, heq, hm, hleft⟩ := findFrom_eq_some h
    exact ⟨before, v, heq, hm, fun ha => absurd ha hfree, hleft⟩

theorem find_eq_none (h : p.find s = none) :
    ∀ u w, s = u ++ w → (p.anchored = true → u = []) → p.matchAt w = none := by
  intro u w huw hu
  rw [find] at h
  split at h
  · rename_i ha
    rw [hu ha, List.nil_append] at huw
    exact huw ▸ h
  · exact findFrom_eq_none h u w huw

/-- Which numbers are asked for does not matter to the search. -/
theorem findFrom_eq_map_asked (p : Pattern) : ∀ s : List Char,
    p.findFrom s = (p.asked.findFrom s).map fun m =>
      { m with groups := captured p.pieces m.groups }
  | [] => matchPieces_eq_map_asked p.anyCase p.pieces []
  | c :: s => by
    have hat : p.matchAt (c :: s) = (p.asked.matchAt (c :: s)).map fun m =>
        { m with groups := captured p.pieces m.groups } :=
      matchPieces_eq_map_asked p.anyCase p.pieces (c :: s)
    rw [findFrom, findFrom, hat, findFrom_eq_map_asked p s]
    cases p.asked.matchAt (c :: s) <;> rfl

theorem find_eq_map_asked (p : Pattern) (s : List Char) :
    p.find s = (p.asked.find s).map fun m =>
      { m with groups := captured p.pieces m.groups } := by
  have ha : p.asked.anchored = p.anchored := rfl
  rw [find, find, ha]
  split
  · exact matchPieces_eq_map_asked p.anyCase p.pieces s
  · exact findFrom_eq_map_asked p s

/-! ## The search and the splits -/

/-- The matcher finds a split where it stands, and its runs are at least as long. -/
theorem Split.exists_matchAt (hp : sharp p.pieces = true) (x : Split p s) :
    ∃ m, p.asked.matchAt (x.taken ++ x.behind) = some m ∧ x.taken <+: m.taken ∧
      List.Forall₂ (· <+: ·) x.runs m.groups :=
  exists_matchPieces_of_spelled x.spelled hp x.behind

/-- **What the search finds is the split that counts.** -/
theorem exists_isFirst_of_find (hp : sharp p.pieces = true) {m : Match}
    (h : p.asked.find s = some m) : ∃ x : Split p s, x.IsFirst ∧ x.runs = m.groups := by
  obtain ⟨before, v, heq, hm, hanchored, hleft⟩ := find_eq_some h
  obtain ⟨hspelled, hv⟩ := spelled_of_matchPieces hm
  refine ⟨⟨before, m.taken, m.rest, m.groups, by rw [heq, hv], hspelled, hanchored⟩,
    ⟨fun y => ?_, fun y hy => ?_⟩, rfl⟩
  · -- the matcher would have found a split that begins before
    by_contra hlt
    obtain ⟨m', hm', -⟩ := y.exists_matchAt hp
    have hnone := hleft y.before (y.taken ++ y.behind) y.text_eq (Nat.lt_of_not_le hlt)
    rw [hnone] at hm'
    cases hm'
  · obtain ⟨m', hm', htaken, hruns⟩ := y.exists_matchAt hp
    have hrest : y.taken ++ y.behind = v := by
      have htext : y.before ++ (y.taken ++ y.behind) = before ++ v := y.text_eq.symm.trans heq
      rw [hy] at htext
      exact List.append_cancel_left htext
    rw [hrest, hm] at hm'
    obtain rfl := Option.some.inj hm'
    exact ⟨htaken, hruns⟩

theorem nonempty_split_iff (hp : sharp p.pieces = true) :
    Nonempty (Split p s) ↔ ∃ m, p.asked.find s = some m := by
  constructor
  · rintro ⟨x⟩
    rw [← Option.isSome_iff_exists, Option.isSome_iff_ne_none]
    intro hnone
    obtain ⟨m, hm, -⟩ := x.exists_matchAt hp
    rw [find_eq_none hnone x.before _ x.text_eq x.before_eq_nil] at hm
    cases hm
  · rintro ⟨m, hm⟩
    obtain ⟨x, -⟩ := exists_isFirst_of_find hp hm
    exact ⟨x⟩

/-- The leftmost split counts, if no digit stands behind it that its last run could take. -/
theorem Split.isFirst_of_ends (hp : sharp p.pieces = true) {x : Split p s}
    (hend : endsInRun p.pieces = true → ∀ c ∈ x.behind.head?, Text.isDigit c = false)
    (hleft : ∀ y : Split p s, x.before.length ≤ y.before.length) : x.IsFirst := by
  refine ⟨hleft, fun y hy => ?_⟩
  -- the matcher takes `x` where it stands, and all that `y` takes there
  have hx : p.asked.matchAt (x.taken ++ x.behind) = some ⟨x.taken, x.runs, x.behind⟩ :=
    matchPieces_of_spelled x.spelled hp hend
  obtain ⟨m, hm, htaken, hruns⟩ := y.exists_matchAt hp
  rw [(before_eq_of_length (congrArg List.length hy)).2, hx] at hm
  obtain rfl := Option.some.inj hm
  exact ⟨htaken, hruns⟩

theorem exists_isFirst (hp : sharp p.pieces = true) (h : Nonempty (Split p s)) :
    ∃ x : Split p s, x.IsFirst := by
  obtain ⟨m, hm⟩ := (nonempty_split_iff hp).mp h
  obtain ⟨x, hx, -⟩ := exists_isFirst_of_find hp hm
  exact ⟨x, hx⟩

theorem isMatch_iff (hp : sharp p.pieces = true) {text : String} :
    p.isMatch text = true ↔ Nonempty (Split p text.toList) := by
  rw [nonempty_split_iff hp, isMatch, find_eq_map_asked, Option.isSome_map,
    Option.isSome_iff_exists]

/-! ## Numbers -/

theorem Spelled.ne_nil_of_mem {anyCase : Bool} {ps : List Piece} {cs : List Char}
    {runs : List (List Char)} (h : Spelled anyCase ps cs runs) : ∀ run ∈ runs, run ≠ [] := by
  induction h with
  | nil => exact fun _ h => absurd h List.not_mem_nil
  | char _ _ ih => exact ih
  | apostrophe _ _ ih => exact ih
  | noApostrophe _ ih => exact ih
  | digits hne _ _ ih => exact List.forall_mem_cons.mpr ⟨hne, ih⟩

theorem mem_of_mem_captured {ps : List Piece} {runs : List (List Char)} {run : List Char}
    (h : run ∈ captured ps runs) : run ∈ runs := by
  fun_induction captured ps runs with
  | case1 ps r runs ih =>
    rcases List.mem_cons.mp h with rfl | h
    · exact List.mem_cons_self
    · exact List.mem_cons_of_mem r (ih h)
  | case2 ps r runs ih => exact List.mem_cons_of_mem r (ih h)
  | case3 c ps runs ih => exact ih h
  | case4 ps runs ih => exact ih h
  | case5 => exact absurd h List.not_mem_nil

/-- **What is captured are the numbers of the split that counts.** -/
theorem capture_eq_of_isFirst (hp : sharp p.pieces = true) {text : String}
    {x : Split p text.toList} (hx : x.IsFirst) (g : Nat) :
    p.capture (g + 1) text = x.groups[g]?.bind Text.number? := by
  obtain ⟨m, hm⟩ := (nonempty_split_iff hp).mp ⟨x⟩
  obtain ⟨y, hy, hruns⟩ := exists_isFirst_of_find hp hm
  obtain rfl := Split.eq_of_isFirst hx hy
  rw [capture, find_eq_map_asked, hm, Option.map_some, Option.bind_some, Split.groups, hruns]
  rfl

theorem capture_eq_some_iff (hp : sharp p.pieces = true) {text : String}
    {x : Split p text.toList} (hx : x.IsFirst) {g : Nat} {n : Int} :
    p.capture (g + 1) text = some n ↔ ∃ run, x.groups[g]? = some run ∧ Text.Denotes run n := by
  rw [capture_eq_of_isFirst hp hx, Option.bind_eq_some_iff]
  refine exists_congr fun run => and_congr_right fun hrun => Text.number?_eq_some_iff ?_
  exact x.spelled.ne_nil_of_mem run (mem_of_mem_captured (List.mem_of_getElem? hrun))

/-! ## The phrases of card texts -/

/-- The patterns that lines are recognised by or read with. -/
def phrases : List Pattern :=
  [cooldownSeconds, price, dealDamage, healGainsDamage, shieldItemsGain, shieldAmount,
    weaponsGainDamage, hasteItFor, burn, weaponLifesteal, leftmostWeaponLifesteal,
    leftmostToolMulticast, multicastAmount, largeWeaponDoubleDamage, freezeReloadWeapon,
    reloadAmmoAmount, bothPlayersDoubleDamage, slowChargeItem, chargeAmount,
    combatDoubleItemValue, enemyCooldownIncrease, cooldownIncreaseAmount, toolUseReloadAdjacent]

/-- None of them leaves the matcher a choice. -/
theorem sharp_of_mem_phrases : ∀ p ∈ phrases, sharp p.pieces = true := by decide

/-- What a pattern finds in a text are its splits, and of these the one that counts. -/
structure FoundExactly (p : Pattern) (text : String) : Prop where
  isMatch_iff : p.isMatch text = true ↔ Nonempty (Split p text.toList)
  /-- one of the splits begins first and has the longest runs of digits -/
  existsUnique : Nonempty (Split p text.toList) → ∃! x : Split p text.toList, x.IsFirst
  /-- a number is captured if that split denotes one, whatever other splits there are -/
  capture_iff : ∀ g n, p.capture (g + 1) text = some n ↔
    ∃ x : Split p text.toList, x.IsFirst ∧
      ∃ run, x.groups[g]? = some run ∧ Text.Denotes run n

/-- **Matching and capturing are exact**, for every phrase and every text. -/
theorem found_exactly {p : Pattern} (hp : p ∈ phrases) (text : String) : p.FoundExactly text := by
  have hsharp := sharp_of_mem_phrases p hp
  refine ⟨isMatch_iff hsharp, fun h => ?_, fun g n => ⟨fun h => ?_, ?_⟩⟩
  · obtain ⟨x, hx⟩ := exists_isFirst hsharp h
    exact ⟨x, hx, fun y hy => Split.eq_of_isFirst hy hx⟩
  · -- only a text with a split gives a number
    have hmatch : p.isMatch text = true := by
      obtain ⟨m, hm, -⟩ := Option.bind_eq_some_iff.mp h
      rw [isMatch, hm]
      rfl
    obtain ⟨x, hx⟩ := exists_isFirst hsharp ((isMatch_iff hsharp).mp hmatch)
    exact ⟨x, hx, (capture_eq_some_iff hsharp hx).mp h⟩
  · rintro ⟨x, hx, h⟩
    exact (capture_eq_some_iff hsharp hx).mpr h

/-- Of two burns the first one counts, though its number fits in no word; and a phrase in capitals
with a long s is found, with its number. -/
theorem found_exactly_burn_multicast :
    (burn ∈ phrases ∧ burn.FoundExactly "Burn 9223372036854775808. Burn 3" ∧
      burn.capture 1 "Burn 9223372036854775808. Burn 3" = none) ∧
    leftmostToolMulticast ∈ phrases ∧ leftmostToolMulticast.anyCase = true ∧
      leftmostToolMulticast.FoundExactly "YOUR LEFTMOſT TOOL HAS +2 MULTICAST" ∧
      leftmostToolMulticast.isMatch "YOUR LEFTMOſT TOOL HAS +2 MULTICAST" = true ∧
      leftmostToolMulticast.capture 1 "YOUR LEFTMOſT TOOL HAS +2 MULTICAST" = some 2 :=
  ⟨⟨by decide, found_exactly (by decide) _, by decide +kernel⟩, by decide, rfl,
    found_exactly (by decide) _, by decide +kernel, by decide +kernel⟩

end CardText.Pattern
