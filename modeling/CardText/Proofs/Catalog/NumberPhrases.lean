import CardText.Proofs.Catalog.Range
import CardText.Proofs.Pattern.Apart

/-!
# Which phrase the numbers of a line come from

Some kinds of lines are recognised by one phrase, in either case for most of them, and their numbers
are read with the end of it, in the case in which cards are printed: `SHIELD_ITEMS_GAIN` goes with
`SHIELD_AMOUNT`, and so do four more pairs. The two are looked for apart from each other, so the
numbers may be those of another place of the text: of one before the phrase that the line was
recognised by, or of one behind it if that is not printed as usual.

Results:

* `Reread.exists_tail`: what recognises a line ends in a phrase for numbers, in one case or another.
* `Reread.place`: the numbers come from before that phrase, from its own end, or from behind it.
* **`Reread.reads_number_phrase`**: the numbers of a line are those of its first phrase for numbers,
  and where these are those that it was recognised by.
* `Reread.not_readsOwnPhrase`: they need not be.
-/

namespace CardText

open Pattern

/-- A kind of line whose numbers are read with a phrase of their own. -/
structure Reread where
  entry : Entry
  /-- the words of the entry's phrase that come before its numbers are spoken of -/
  lead : String
  /-- the phrase that the numbers are read with -/
  number : Pattern

namespace Reread

/-- All such kinds. -/
def all : List Reread :=
  [⟨.shieldBuff, "Shield items gain ", .shieldAmount⟩,
    ⟨.leftmostToolMulticast, "Your leftmost Tool has ", .multicastAmount⟩,
    ⟨.freezeReloadWeapon, "When you Freeze, ", .reloadAmmoAmount⟩,
    ⟨.slowChargeItem, "When you slow, ", .chargeAmount⟩,
    ⟨.enemyCooldownIncrease, "Enemy cooldowns are ", .cooldownIncreaseAmount⟩]

variable {x : Reread} {text : String} {s : List Char}

/-! ## The two phrases -/

theorem entry_mem_catalog : ∀ x ∈ all, x.entry ∈ catalog := by
  simp [all, catalog]

/-- The phrase of the entry is the lead and then the phrase for the numbers. -/
theorem pieces_of_mem : ∀ x ∈ all, x.entry.phrase.pieces.map Piece.asked =
    (x.lead.toList.map Piece.char ++ x.number.pieces).map Piece.asked := by decide +kernel

theorem phrases_of_mem : ∀ x ∈ all, x.entry.phrase ∈ phrases ∧ x.number ∈ phrases := by
  decide +kernel

/-- The phrase for the numbers stands anywhere, in the printed case, asks for all of its numbers and
does not end in one. -/
theorem number_of_mem : ∀ x ∈ all, x.number.anchored = false ∧ x.number.anyCase = false ∧
    x.number.pieces.map Piece.asked = x.number.pieces ∧
    endsInRun x.number.pieces = false := by decide

/-- Each number is read with that phrase, as it stands there. -/
theorem readings_of_mem : ∀ x ∈ all, ∀ e ∈ x.entry.readings.zipIdx,
    e.1.pattern = x.number ∧ e.1.group = e.2 + 1 ∧ e.1.measure = .count := by decide

/-- Inside of the lead no phrase for numbers begins. -/
theorem avoids_lead : ∀ x ∈ all, avoids x.number.anyCase x.entry.phrase.anyCase x.number.pieces
    x.number.pieces (x.lead.toList.map Piece.char) = true := by decide +kernel

/-- Nor does one begin inside of a phrase for numbers. -/
theorem avoids_tail : ∀ x ∈ all, ∃ c ps, x.number.pieces = .char c :: ps ∧
    avoids x.number.anyCase x.entry.phrase.anyCase x.number.pieces [] ps = true := by
  simp only [all, List.forall_mem_cons]
  exact ⟨⟨_, _, rfl, by decide⟩, ⟨_, _, rfl, by decide⟩, ⟨_, _, rfl, by decide⟩,
    ⟨_, _, rfl, by decide⟩, ⟨_, _, rfl, by decide⟩, fun _ h => absurd h List.not_mem_nil⟩

/-- **What recognises a line ends in a phrase for numbers**, in one case or another. -/
theorem exists_tail (hx : x ∈ all) (z : Split x.entry.phrase s) :
    ∃ l v, z.taken = l ++ v ∧ l.length = x.lead.toList.length ∧
      Spelled x.entry.phrase.anyCase (x.lead.toList.map .char) l [] ∧
      Spelled x.entry.phrase.anyCase x.number.pieces v z.runs := by
  have hspelled := spelled_asked_iff.mpr z.spelled
  rw [pieces_of_mem x hx, spelled_asked_iff] at hspelled
  obtain ⟨l, v, runs₁, runs₂, htaken, hruns, hl, hv⟩ := hspelled.exists_append
  obtain ⟨hlen, rfl⟩ := hl.of_phrase
  rw [List.nil_append] at hruns
  exact ⟨l, v, htaken, hlen, hl, hruns ▸ hv⟩

/-- The end of the phrase that recognises a line is printed as cards print it. -/
def Printed (x : Reread) (z : Split x.entry.phrase s) : Prop :=
  Spelled false x.number.pieces (z.taken.drop x.lead.toList.length) z.runs

theorem printed_of_anyCase (hx : x ∈ all) (hcase : x.entry.phrase.anyCase = false)
    (z : Split x.entry.phrase s) : x.Printed z := by
  obtain ⟨l, v, htaken, hlen, -, hv⟩ := exists_tail hx z
  rw [hcase] at hv
  rw [Printed, htaken, ← hlen, List.drop_left]
  exact hv

/-! ## Where the numbers stand -/

/-- **The phrase for the numbers** begins before the phrase that recognises the line, is the end of
it, or begins behind it. -/
theorem place (hx : x ∈ all) (y : Split x.number s) (z : Split x.entry.phrase s) :
    y.before.length < z.before.length ∨
      (y.before.length = z.before.length + x.lead.toList.length ∧ y.runs = z.runs) ∨
      z.before.length + z.taken.length ≤ y.before.length := by
  obtain ⟨l, v, htaken, hlen, hl, hv⟩ := exists_tail hx z
  obtain ⟨-, hcase, -, hend⟩ := number_of_mem x hx
  obtain ⟨c, ps, hpieces, htail⟩ := avoids_tail x hx
  have hs : s = z.before ++ (l ++ (v ++ z.behind)) := by
    rw [← List.append_assoc l, ← htaken]
    exact z.text_eq
  rcases y.before_or_behind hs (avoids_lead x hx) hl hv with hbefore | hbehind
  · exact .inl hbefore
  right
  -- not before the end of the phrase, so at its start or at a later place
  rcases Nat.eq_or_lt_of_le hbehind with hat | hlater
  · left
    have hsame : z.before ++ l = y.before ∧ v ++ z.behind = y.taken ++ y.behind := by
      refine List.append_inj ?_ (by rw [List.length_append, hat])
      rw [List.append_assoc, ← hs]
      exact y.text_eq
    have hy : Spelled x.entry.phrase.anyCase x.number.pieces y.taken y.runs := by
      have hy := y.spelled
      rw [hcase] at hy
      cases x.entry.phrase.anyCase with
      | false => exact hy
      | true => exact hy.inEitherCase
    have hsharp := sharp_of_mem_phrases _ (phrases_of_mem x hx).2
    exact ⟨by rw [← hat, hlen], (hv.eq_of_append_eq hy hsharp hend hsame.2).2.symm⟩
  · right
    rw [hpieces] at hv
    cases hv with
    | @char _ a _ v' _ ha hv' =>
      have hs' : s = (z.before ++ (l ++ [a])) ++ (v' ++ ([] ++ z.behind)) := hs.trans (by simp)
      rcases y.before_or_behind hs' htail hv' .nil with hlt | hle
      · simp only [List.length_append, List.length_singleton] at hlt
        omega
      · simp only [htaken, List.length_append, List.length_cons] at hle ⊢
        omega

/-- A printed phrase has numbers that the search does not pass by. -/
theorem before_length_le (hx : x ∈ all) {y : Split x.number s} (hy : y.IsFirst)
    {z : Split x.entry.phrase s} (hz : x.Printed z) :
    y.before.length ≤ z.before.length + x.lead.toList.length := by
  obtain ⟨l, v, htaken, hlen, -, -⟩ := exists_tail hx z
  obtain ⟨hfree, hcase, -, -⟩ := number_of_mem x hx
  rw [Printed, htaken, ← hlen, List.drop_left, ← hcase] at hz
  have hle := hy.leftmost ⟨z.before ++ l, v, z.behind, z.runs,
    z.text_eq.trans (by rw [htaken, List.append_assoc, List.append_assoc]), hz,
    fun h => absurd h (by simp [hfree])⟩
  rwa [List.length_append, hlen] at hle

/-! ## The numbers -/

/-- The numbers of the classified text are those that the runs denote, each in its place. -/
def Reads (x : Reread) (text : String) (runs : List (List Char)) : Prop :=
  ∀ p n, (classify text).param p = some n ↔ ∃ (i : Nat) (r : Reading) (run : List Char),
    x.entry.readings[i]? = some r ∧ r.param = p ∧ runs[i]? = some run ∧ Text.Denotes run n

/-- What a reading finds is what the run in its place denotes. -/
theorem value?_eq_some_iff (hx : x ∈ all) {y : Split x.number text.toList} (hy : y.IsFirst)
    {i : Nat} {r : Reading} (hr : x.entry.readings[i]? = some r) {n : Int} :
    r.value? text = some n ↔ ∃ run, y.runs[i]? = some run ∧ Text.Denotes run n := by
  obtain ⟨hpattern, hgroup, hmeasure⟩ :=
    readings_of_mem x hx (r, i) (List.mem_zipIdx_iff_getElem?.mpr hr)
  have hsharp := sharp_of_mem_phrases _ (phrases_of_mem x hx).2
  have hgroups : y.groups = y.runs := by
    rw [Split.groups, ← (number_of_mem x hx).2.2.1]
    exact y.spelled.captured_asked
  have hcapture := capture_eq_some_iff hsharp hy (g := i) (n := n)
  rw [hgroups] at hcapture
  rw [← hcapture, Reading.value?, hpattern, hgroup, hmeasure]
  show (x.number.capture (i + 1) text).bind some = some n ↔ _
  rw [Option.bind_fun_some]

/-- **The numbers of a line are those of its first phrase for numbers.** -/
theorem reads_of_isFirst (hx : x ∈ all) (htype : (classify text).type = x.entry.type)
    {y : Split x.number text.toList} (hy : y.IsFirst) : x.Reads text y.runs := by
  have he := entry_mem_catalog x hx
  intro p n
  rw [classify_eq_fact he htype]
  constructor
  · intro h
    obtain ⟨r, hr, hp, hv⟩ := Entry.exists_reading_of_param h
    obtain ⟨i, hi⟩ := List.mem_iff_getElem?.mp hr
    obtain ⟨run, hrun, hn⟩ := (value?_eq_some_iff hx hy hi).mp hv
    exact ⟨i, r, run, hi, hp, hrun, hn⟩
  · rintro ⟨i, r, run, hi, rfl, hrun, hn⟩
    rw [Entry.param_fact_of_mem he (List.mem_of_getElem? hi)]
    exact (value?_eq_some_iff hx hy hi).mpr ⟨run, hrun, hn⟩

/-- An extracted line has a phrase for numbers. -/
theorem exists_number (hx : x ∈ all) (htype : (classify text).type = x.entry.type)
    (hext : (classify text).extracted = true) :
    ∃ y : Split x.number text.toList, y.IsFirst := by
  have he := entry_mem_catalog x hx
  have hsharp := sharp_of_mem_phrases _ (phrases_of_mem x hx).2
  obtain ⟨r, hr⟩ : ∃ r, r ∈ x.entry.readings.zipIdx := by
    have hsome : ∀ x ∈ all, x.entry.readings.zipIdx ≠ [] := by decide
    exact List.exists_mem_of_ne_nil _ (hsome x hx)
  have hmem := List.mem_of_getElem? (List.mem_zipIdx_iff_getElem?.mp hr)
  obtain ⟨n, hn⟩ := exists_param_of_extracted he htype hext (List.mem_map_of_mem hmem)
  rw [classify_eq_fact he htype, Entry.param_fact_of_mem he hmem, Reading.value?,
    (readings_of_mem x hx r hr).1] at hn
  obtain ⟨k, hk, -⟩ := Option.bind_eq_some_iff.mp hn
  obtain ⟨m, hm, -⟩ := Option.bind_eq_some_iff.mp hk
  exact exists_isFirst hsharp ((isMatch_iff hsharp).mp (by rw [isMatch, hm]; rfl))

/-- What a text is classified as is recognised in it. -/
theorem exists_phrase (hx : x ∈ all) (htype : (classify text).type = x.entry.type) :
    ∃ z : Split x.entry.phrase text.toList, z.IsFirst := by
  have hsharp := sharp_of_mem_phrases _ (phrases_of_mem x hx).1
  exact exists_isFirst hsharp ((isMatch_iff hsharp).mp
    (recognises_of_type_classify (entry_mem_catalog x hx) htype))

/-- The numbers of a line are those of the phrase that it was recognised by. -/
def ReadsOwnPhrase (x : Reread) (text : String) : Prop :=
  ∀ z : Split x.entry.phrase text.toList, z.IsFirst → x.Reads text z.runs

/-- Where the numbers of a line come from. -/
structure ReadsNumberPhrase (x : Reread) (text : String) : Prop where
  phrase : ∃ z : Split x.entry.phrase text.toList, z.IsFirst
  number : ∃ y : Split x.number text.toList, y.IsFirst
  /-- they are those of the first phrase for numbers -/
  reads : ∀ y : Split x.number text.toList, y.IsFirst → x.Reads text y.runs
  /-- which begins before the phrase that the line was recognised by, is its end, or begins
  behind it -/
  place : ∀ y : Split x.number text.toList, y.IsFirst →
    ∀ z : Split x.entry.phrase text.toList, z.IsFirst →
      y.before.length < z.before.length ∨
        (y.before.length = z.before.length + x.lead.toList.length ∧ y.runs = z.runs) ∨
        z.before.length + z.taken.length ≤ y.before.length
  /-- so they are those of the phrase that the line was recognised by, if that is printed as usual
  and no phrase for numbers begins before it, whatever stands behind it -/
  own : ∀ z : Split x.entry.phrase text.toList, z.IsFirst → x.Printed z →
    (∀ y : Split x.number text.toList, z.before.length ≤ y.before.length) → x.Reads text z.runs
  /-- a phrase that is recognised in one case only is always printed as usual -/
  printed : x.entry.phrase.anyCase = false →
    ∀ z : Split x.entry.phrase text.toList, x.Printed z

/-- **Which phrase the numbers of a line come from.** -/
theorem reads_number_phrase (hx : x ∈ all) (htype : (classify text).type = x.entry.type)
    (hext : (classify text).extracted = true) : x.ReadsNumberPhrase text where
  phrase := exists_phrase hx htype
  number := exists_number hx htype hext
  reads _ hy := reads_of_isFirst hx htype hy
  place y _ z _ := place hx y z
  own z _ hprinted hfirst := by
    obtain ⟨y, hy⟩ := exists_number hx htype hext
    have hle := before_length_le hx hy hprinted
    obtain ⟨l, v, htaken, hlen, -, hv⟩ := exists_tail hx z
    rcases place hx y z with hbefore | ⟨-, hruns⟩ | hbehind
    · exact absurd (hfirst y) (Nat.not_le_of_lt hbefore)
    · exact hruns ▸ reads_of_isFirst hx htype hy
    · -- the phrase is longer than its lead
      obtain ⟨c, ps, hpieces, -⟩ := avoids_tail x hx
      rw [hpieces] at hv
      cases hv with
      | char ha hv =>
        simp only [htaken, List.length_append, List.length_cons] at hbehind
        omega
  printed hcase z := printed_of_anyCase hx hcase z

theorem reads_number_phrase_slowCharge :
    (classify "WHEN YOU SLOW, charge 2 item 3 second(s). charge 4 item 5 second").type =
        .slowChargeItem ∧
      (classify "WHEN YOU SLOW, charge 2 item 3 second(s). charge 4 item 5 second").extracted =
        true ∧
      ReadsNumberPhrase ⟨.slowChargeItem, "When you slow, ", .chargeAmount⟩
        "WHEN YOU SLOW, charge 2 item 3 second(s). charge 4 item 5 second" := by
  have htype : (classify "WHEN YOU SLOW, charge 2 item 3 second(s). charge 4 item 5 second").type =
      .slowChargeItem := by decide +kernel
  have hext : (classify
      "WHEN YOU SLOW, charge 2 item 3 second(s). charge 4 item 5 second").extracted = true := by
    decide +kernel
  exact ⟨htype, hext, reads_number_phrase (by simp [all]) htype hext⟩

/-- A line on shields that speaks of other shields before. -/
def shieldsTwice : String := "+3 Shield. Your Shield items gain +5 Shield for the fight."

/-- Its number is 3, and not the 5 of the phrase that it is recognised by. -/
theorem not_readsOwnPhrase : ¬ ∀ x ∈ all, ∀ text, (classify text).type = x.entry.type →
    (classify text).extracted = true → x.ReadsOwnPhrase text := by
  intro hown
  have hsharp : sharp Entry.shieldBuff.phrase.pieces = true := by decide
  obtain ⟨z, hz, hruns⟩ := exists_isFirst_of_find (s := shieldsTwice.toList) hsharp
    (m := ⟨"Shield items gain +5 Shield".toList, [['5']], " for the fight.".toList⟩)
    (by decide +kernel)
  have hreads := hown ⟨.shieldBuff, "Shield items gain ", .shieldAmount⟩ (by simp [all])
    shieldsTwice (by decide +kernel) (by decide +kernel) z hz
  obtain ⟨i, r, run, -, -, hrun, -, hvalue, -⟩ := (hreads .amount 3).mp (by decide +kernel)
  have hmem := List.mem_of_getElem? hrun
  rw [hruns] at hmem
  obtain rfl := List.mem_singleton.mp hmem
  exact absurd hvalue (by decide)

end Reread

end CardText
