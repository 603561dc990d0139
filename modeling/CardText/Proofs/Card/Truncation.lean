import CardText.Proofs.Card.Reading
import CardText.Proofs.Text.Position

/-!
# Texts of cards that were cut off

Cut anywhere, the text of a card is still read up to the cut by `parse_input`: every part before it
is whole, and the part that the cut lies in is the start of a part. So the reader finds nothing
wrong there but that the text has ended, unless only white space is missing.

Results:

* `Literal.ends_readEscape`, `Literal.ends_read`: an escape and a string that were cut off.
* `ends_readMember`, `ends_readLine`, `ends_readLines` and the like: the same for every other part.
* `read_or_ends_of_isCard`: the start of the text of a card is that text or ends too early.
* **`read_cut`**: a text of a card that was cut off ends too early where it was cut, and nothing
  else is said of it.
-/

namespace CardText

/-- Reading failed because the text ended. -/
def Ends {α : Type} (r : Except Failure α) : Prop :=
  ∃ cause : Cause, cause.kind = .ending ∧ r = .error (.ended cause)

/-- Reading ends too early where reading a part of it does and that failure is passed on. -/
theorem Ends.of_error {α β : Type} {r : Except Failure α} {r' : Except Failure β} (h : Ends r)
    (hr : ∀ f, r = .error f → r' = .error f) : Ends r' := by
  obtain ⟨cause, hcause, rfl⟩ := h
  exact ⟨cause, hcause, hr _ rfl⟩

theorem Ends.map {α β : Type} {r : Except Failure α} (h : Ends r) (f : α → β) : Ends (r.map f) :=
  h.of_error fun e he => by rw [he]; rfl

/-! ## Cuts -/

section Cuts

variable {x y s u : List Char} {c : Char}

/-- Two texts in a row are cut inside of the first one, or behind it. -/
theorem cut_append (h : x ++ y = s ++ u) :
    (∃ v, v ≠ [] ∧ x = s ++ v) ∨ ∃ s', s = x ++ s' ∧ y = s' ++ u := by
  rcases List.append_eq_append_iff.mp h with ⟨s', rfl, hy⟩ | ⟨v, rfl, hu⟩
  · exact Or.inr ⟨s', rfl, hy⟩
  · by_cases hv : v = []
    · subst hv
      exact Or.inr ⟨[], by simp, hu.symm⟩
    · exact Or.inl ⟨v, hv, rfl⟩

/-- A text is cut before a character of it, or behind that character. -/
theorem cut_cons (h : x ++ c :: y = s ++ u) : s <+: x ∨ ∃ s', s = x ++ c :: s' ∧ y = s' ++ u := by
  rcases cut_append h with ⟨v, -, rfl⟩ | ⟨s', rfl, hy⟩
  · exact Or.inl (List.prefix_append s v)
  · cases s' with
    | nil => exact Or.inl (by simp)
    | cons d s' =>
      obtain ⟨rfl, hrest⟩ := List.cons.inj hy
      exact Or.inr ⟨s', rfl, hrest⟩

/-- A text that lost something lost its last character. -/
theorem prefix_of_cut (h : x ++ [c] = s ++ u) (hu : u ≠ []) : s <+: x := by
  rcases cut_cons h with h | ⟨s', rfl, hs'⟩
  · exact h
  · exact absurd (List.append_eq_nil_iff.mp hs'.symm).2 hu

end Cuts

/-! ## Strings -/

namespace Literal

open Text

theorem utf8Size_of_hexValue? {c : Char} {v : Nat} (h : hexValue? c = some v) :
    c.utf8Size = 1 := by
  have hle : c.toNat ≤ 102 := by
    unfold hexValue? at h
    split at h
    · rename_i hc
      exact Nat.le_trans hc.2 (by decide)
    · split at h
      · rename_i hc
        exact hc.2
      · split at h
        · rename_i hc
          exact Nat.le_trans hc.2 (by decide)
        · cases h
  exact Char.utf8Size_eq_one_iff.mpr (Nat.le_trans hle (by decide))

/-- Hexadecimal digits have one byte each. -/
theorem byteCount_of_hexFrom? : ∀ {digits : List Char} {m n : Nat},
    hexFrom? m digits = some n → byteCount digits = digits.length
  | [], _, _, _ => rfl
  | c :: digits, m, n, h => by
    obtain ⟨v, hv, hn⟩ := Option.bind_eq_some_iff.mp h
    rw [byteCount, utf8Size_of_hexValue? hv, byteCount_of_hexFrom? hn, List.length_cons,
      Nat.add_comm]

theorem ends_readHex {s u : List Char} {n : Nat} (h : IsHex (s ++ u) n) (hu : u ≠ []) :
    Ends (readHex s) := by
  obtain ⟨hlength, hn⟩ := h
  have hbytes := byteCount_of_hexFrom? hn
  rw [byteCount_append, hlength] at hbytes
  rw [List.length_append] at hlength
  have hupos := List.length_pos_of_ne_nil hu
  have hshort : byteCount s < 4 := by
    cases u with
    | nil => exact absurd rfl hu
    | cons c u =>
      have hpos := c.utf8Size_pos
      rw [byteCount] at hbytes
      omega
  refine ⟨.endInString, rfl, ?_⟩
  unfold readHex
  split
  · simp only [List.length_cons] at hlength
    omega
  · rw [notHex, if_pos hshort]

/-- The second half of a pair, cut off before its end. -/
theorem ends_readLowHalf {digits s u : List Char} {high low : Nat} (h : IsHex digits low)
    (hcut : s ++ u = '\\' :: 'u' :: digits) (hu : u ≠ []) : Ends (readLowHalf high s) := by
  cases s with
  | nil => exact ⟨.endInString, rfl, rfl⟩
  | cons c s =>
    obtain ⟨rfl, hrest⟩ := List.cons.inj hcut
    cases s with
    | nil => exact ⟨.endInString, rfl, rfl⟩
    | cons d s =>
      obtain ⟨rfl, rfl⟩ := List.cons.inj hrest
      exact (ends_readHex h hu).of_error fun f hf => by simp only [readLowHalf, hf]

/-- An escape that was cut off, be it between the halves of a pair. -/
theorem ends_readEscape {s u : List Char} {c : Char} (h : Escape (s ++ u) c) (hu : u ≠ []) :
    Ends (readEscape s) := by
  have hnil : Ends (readEscape []) := ⟨.endInString, rfl, rfl⟩
  generalize he : s ++ u = e at h
  cases h with
  | letter h =>
    cases s with
    | nil => exact hnil
    | cons d s =>
      obtain ⟨-, hrest⟩ := List.cons.inj he
      exact absurd (List.append_eq_nil_iff.mp hrest).2 hu
  | @codePoint digits c h =>
    cases s with
    | nil => exact hnil
    | cons d s =>
      obtain ⟨rfl, rfl⟩ := List.cons.inj he
      exact (ends_readHex h hu).of_error fun f hf => by simp only [readEscape, readCodePoint, hf]
  | @pair digits digits' high low c h h' hhigh hlow hc =>
    cases s with
    | nil => exact hnil
    | cons d s =>
      obtain ⟨rfl, hrest⟩ := List.cons.inj he
      rcases cut_append hrest.symm with ⟨v, hv, rfl⟩ | ⟨s₁, rfl, h₁⟩
      · exact (ends_readHex h hv).of_error fun f hf => by simp only [readEscape, readCodePoint, hf]
      · have hnlow : isLowHalf high = false := by
          rw [← Bool.not_eq_true, isLowHalf_iff]
          omega
        have hhigh := isHighHalf_iff.mpr hhigh
        -- the first half is whole, and the second one was cut off
        have hread : readEscape ('u' :: (digits ++ s₁)) = readLowHalf high s₁ := by
          simp [readEscape, readCodePoint, readHex_append h, hnlow, hhigh]
        rw [hread]
        exact ends_readLowHalf h' h₁.symm hu

/-- **A string that was cut off** before its closing quote. -/
theorem ends_read {w cs s : List Char} (h : Spells w cs) (hs : s <+: w) : Ends (read s) := by
  have hnil : Ends (read []) := ⟨.endInString, rfl, by rw [read]⟩
  induction h generalizing s with
  | nil =>
    rw [List.prefix_nil.mp hs]
    exact hnil
  | @plain c w cs hc hquote hbackslash _ ih =>
    cases s with
    | nil => exact hnil
    | cons d s =>
      obtain ⟨rfl, hrest⟩ := List.cons_prefix_cons.mp hs
      rw [read_plain hc hquote hbackslash]
      exact (ih hrest).map _
  | @escape e c w cs he _ ih =>
    cases s with
    | nil => exact hnil
    | cons d s =>
      obtain ⟨rfl, u, hrest⟩ := List.cons_prefix_cons.mp hs
      have hcut : e ++ w = s ++ u := hrest.symm
      rcases cut_append hcut with ⟨v, hv, rfl⟩ | ⟨s', rfl, hs'⟩
      · exact (ends_readEscape he hv).of_error fun f hf => read_escape_error hf
      · rw [read_escape (readEscape_append he s')]
        exact (ih ⟨u, hs'.symm⟩).map _

end Literal

/-! ## Lines -/

namespace Format

open Literal Reader

variable {s u w : List Char}

/-- The start of white space is white space. -/
theorem Blanks.of_prefix (hw : Blanks w) (hs : s <+: w) : skipBlank s = [] :=
  skipBlank_of_blanks fun c hc => hw c (hs.subset hc)

theorem ends_readText {t cs : List Char} (hw : Blanks w) (ht : Quotes t cs) (h : w ++ t = s ++ u)
    (hu : u ≠ []) : Ends (readText s) := by
  obtain ⟨v, hv, rfl⟩ := ht
  rcases cut_cons h with hs | ⟨s', rfl, hs'⟩
  · exact ⟨.endInValue, rfl, by rw [readText, hw.of_prefix hs]⟩
  · have hread : readText (w ++ '"' :: s') = Literal.read s' := by
      rw [readText, skipBlank_append_cons hw (by decide)]
      rfl
    rw [hread]
    exact ends_read hv (prefix_of_cut hs' hu)

/-- **A member that was cut off**, be it in the name of its tier. -/
theorem ends_readMember {m : Tier × String} (h : IsMember ('"' :: (s ++ u)) m) (hu : u ≠ []) :
    Ends (readMember s) := by
  obtain ⟨key, w, w', text, ⟨v, hv, rfl⟩, hw, hw', htext, heq⟩ := h
  have hcut : v ++ '"' :: (w ++ ':' :: (w' ++ text)) = s ++ u := by
    simpa using (List.cons.inj heq).2.symm
  rcases cut_cons hcut with hs | ⟨s₁, rfl, h₁⟩
  · exact (ends_read hv hs).of_error fun f hf => by simp only [readMember, hf]
  have hname := read_append hv s₁
  rcases cut_cons h₁ with hs | ⟨s₂, rfl, h₂⟩
  · refine ⟨.endInObject, rfl, ?_⟩
    have hr : readColon s₁ = .error (.ended .endInObject) := by rw [readColon, hw.of_prefix hs]
    simp only [readMember, hname, String.ofList_toList, Tier.ofName?_name, hr]
  · refine (ends_readText hw' htext h₂ hu).of_error fun f hf => ?_
    simp only [readMember, hname, String.ofList_toList, Tier.ofName?_name, readColon_append hw, hf]

theorem ends_readMembers_of_next {first : Bool} {line : Line} (h : Ends (nextMember first s)) :
    Ends (readMembers first line s) := by
  refine h.of_error fun f hf => ?_
  rw [readMembers]
  split <;> simp_all

theorem ends_readMembers_of_member {first : Bool} {line : Line} {r : List Char}
    (h : nextMember first s = .ok (.element r)) (hm : Ends (readMember r)) :
    Ends (readMembers first line s) := by
  refine hm.of_error fun f hf => ?_
  rw [readMembers]
  split
  · simp_all
  · simp_all
  · rename_i hn
    obtain rfl := Next.element.inj (Except.ok.inj (h.symm.trans hn))
    split <;> simp_all

/-- A member, cut off or whole, and what comes behind it. -/
theorem ends_readMembers_of_cut {first : Bool} {line : Line} {r t : List Char} {m : Tier × String}
    (hnext : nextMember first s = .ok (.element r)) (hm : IsMember ('"' :: w) m)
    (h : w ++ t = r ++ u)
    (hrest : ∀ r' line', t = r' ++ u → Ends (readMembers false line' r')) :
    Ends (readMembers first line s) := by
  rcases cut_append h with ⟨v, hv, rfl⟩ | ⟨r', rfl, hr'⟩
  · exact ends_readMembers_of_member hnext (ends_readMember hm hv)
  · rw [readMembers_of_element hnext (readMember_append hm r')]
    exact hrest r' _ hr'

/-- The members behind the first one, cut off before the end of the object. -/
theorem ends_readMembers {t : List Char} {ms : List (Tier × String)} (h : Tail IsMember t ms)
    {line : Line} (hcut : t = s ++ u) : Ends (readMembers false line s) := by
  induction h generalizing s line with
  | nil hw =>
    refine ends_readMembers_of_next ⟨.endInObject, rfl, ?_⟩
    rw [nextMember, hw.of_prefix ⟨u, hcut.symm⟩]
  | @cons w w' x t m ms hw hw' hm _ ih =>
    obtain ⟨x, rfl⟩ := exists_quote_of_isMember hm
    rw [List.append_assoc, List.append_assoc, List.cons_append] at hcut
    rcases cut_cons hcut with hs | ⟨s₁, rfl, h₁⟩
    · refine ends_readMembers_of_next ⟨.endInObject, rfl, ?_⟩
      rw [nextMember, hw.of_prefix hs]
    rcases cut_cons h₁ with hs | ⟨s₂, rfl, h₂⟩
    · refine ends_readMembers_of_next ⟨.endInValue, rfl, ?_⟩
      rw [nextMember, skipBlank_append_cons hw (by decide)]
      simp [hw'.of_prefix hs]
    · have hnext := nextMember_further hw hw' s₂
      rw [List.append_assoc, List.cons_append] at hnext
      exact ends_readMembers_of_cut hnext hm h₂ fun r' line' hr' => ih hr'

/-- **A line that was cut off.** -/
theorem ends_readLine {ms : List (Tier × String)} (h : IsObject (s ++ u) ms) (hu : u ≠ []) :
    Ends (readLine s) := by
  generalize ho : s ++ u = o at h
  cases s with
  | nil => exact ⟨.endInValue, rfl, rfl⟩
  | cons c s =>
    cases h with
    | @nil w hw =>
      obtain ⟨rfl, hcut⟩ := List.cons.inj ho
      refine ends_readMembers_of_next ⟨.endInObject, rfl, ?_⟩
      rw [nextMember, hw.of_prefix (prefix_of_cut hcut.symm hu)]
    | @cons w x t m ms hw hm ht =>
      obtain ⟨x, rfl⟩ := exists_quote_of_isMember hm
      obtain ⟨rfl, hcut⟩ := List.cons.inj ho
      have hcut : w ++ '"' :: (x ++ (t ++ ['}'])) = s ++ u := by simpa using hcut.symm
      rcases cut_cons hcut with hs | ⟨s₁, rfl, h₁⟩
      · refine ends_readMembers_of_next ⟨.endInObject, rfl, ?_⟩
        rw [nextMember, hw.of_prefix hs]
      · refine ends_readMembers_of_cut (nextMember_first hw s₁) hm h₁ fun r' line' hr' => ?_
        obtain ⟨v, hv⟩ := prefix_of_cut hr' hu
        exact ends_readMembers ht hv.symm

/-! ## Cards -/

theorem ends_readLines_of_next {first : Bool} (h : Ends (nextElement first s)) :
    Ends (readLines first s) := by
  refine h.of_error fun f hf => ?_
  rw [readLines]
  split <;> simp_all

theorem ends_readLines_of_line {first : Bool} {r : List Char}
    (h : nextElement first s = .ok (.element r)) (hl : Ends (readLine r)) :
    Ends (readLines first s) := by
  refine hl.of_error fun f hf => ?_
  rw [readLines]
  split
  · simp_all
  · simp_all
  · rename_i hn
    obtain rfl := Next.element.inj (Except.ok.inj (h.symm.trans hn))
    split <;> simp_all

/-- A line, cut off or whole, and what comes behind it. -/
theorem ends_readLines_of_cut {first : Bool} {r t : List Char} {ms : List (Tier × String)}
    (hnext : nextElement first s = .ok (.element r)) (hl : IsObject w ms) (h : w ++ t = r ++ u)
    (hrest : ∀ r', t = r' ++ u → Ends (readLines false r')) : Ends (readLines first s) := by
  rcases cut_append h with ⟨v, hv, rfl⟩ | ⟨r', rfl, hr'⟩
  · exact ends_readLines_of_line hnext (ends_readLine hl hv)
  · rw [readLines_of_element hnext (readLine_append hl r')]
    exact (hrest r' hr').map _

/-- The lines behind the first one, cut off before the end of the list. -/
theorem ends_readLines {t : List Char} {objects : List (List (Tier × String))}
    (h : Tail IsObject t objects) (hcut : t = s ++ u) : Ends (readLines false s) := by
  induction h generalizing s with
  | nil hw =>
    refine ends_readLines_of_next ⟨.endInList, rfl, ?_⟩
    rw [nextElement, hw.of_prefix ⟨u, hcut.symm⟩]
  | @cons w w' x t ms objects hw hw' hx _ ih =>
    obtain ⟨x, rfl⟩ := exists_brace_of_isObject hx
    rw [List.append_assoc, List.append_assoc, List.cons_append] at hcut
    rcases cut_cons hcut with hs | ⟨s₁, rfl, h₁⟩
    · refine ends_readLines_of_next ⟨.endInList, rfl, ?_⟩
      rw [nextElement, hw.of_prefix hs]
    rcases cut_cons h₁ with hs | ⟨s₂, rfl, h₂⟩
    · refine ends_readLines_of_next ⟨.endInValue, rfl, ?_⟩
      rw [nextElement, skipBlank_append_cons hw (by decide)]
      simp [hw'.of_prefix hs]
    · have hnext := nextElement_further hw hw' s₂
      rw [List.append_assoc, List.cons_append] at hnext
      exact ends_readLines_of_cut hnext hx (congrArg ('{' :: ·) h₂) fun r' hr' => ih hr'

/-- A list of lines that was cut off, from behind its opening bracket on. -/
theorem ends_readLines_of_bracketed {t : List Char} {objects : List (List (Tier × String))}
    (h : Bracketed IsObject '[' ']' ('[' :: t) objects) (hcut : t = s ++ u) (hu : u ≠ []) :
    Ends (readLines true s) := by
  generalize ht : '[' :: t = t' at h
  cases h with
  | @nil w hw =>
    obtain rfl := (List.cons.inj ht).2
    refine ends_readLines_of_next ⟨.endInList, rfl, ?_⟩
    rw [nextElement, hw.of_prefix (prefix_of_cut hcut hu)]
  | @cons w x t' ms objects hw hx hrest =>
    obtain ⟨x, rfl⟩ := exists_brace_of_isObject hx
    obtain rfl := (List.cons.inj ht).2
    have hcut : w ++ '{' :: (x ++ (t' ++ [']'])) = s ++ u := by simpa using hcut
    rcases cut_cons hcut with hs | ⟨s₁, rfl, h₁⟩
    · refine ends_readLines_of_next ⟨.endInList, rfl, ?_⟩
      rw [nextElement, hw.of_prefix hs]
    · refine ends_readLines_of_cut (nextElement_first hw s₁) hx (congrArg ('{' :: ·) h₁)
        fun r' hr' => ?_
      obtain ⟨v, hv⟩ := prefix_of_cut hr' hu
      exact ends_readLines hrest hv.symm

/-- **The start of the text of a card** is a text of that card or ends too early. -/
theorem read_or_ends_of_isCard {objects : List (List (Tier × String))}
    (h : IsCard (s ++ u) objects) :
    Reader.read s = .ok (objects.map lineOf) ∨ Ends (Reader.read s) := by
  obtain ⟨w, t, w', hw, ht, hw', heq⟩ := h
  obtain ⟨t, rfl⟩ : ∃ t', t = '[' :: t' := by
    cases ht with
    | nil => exact ⟨_, rfl⟩
    | cons => exact ⟨_, rfl⟩
  have hcut : w ++ '[' :: (t ++ w') = s ++ u := by simpa using heq.symm
  rcases cut_cons hcut with hs | ⟨s₁, rfl, h₁⟩
  · refine Or.inr ⟨.endInValue, rfl, ?_⟩
    rw [Reader.read, hw.of_prefix hs]
  rcases cut_append h₁ with ⟨v, hv, hcut'⟩ | ⟨s₂, rfl, h₂⟩
  · right
    refine (ends_readLines_of_bracketed ht hcut' hv).of_error fun f hf => ?_
    rw [Reader.read, skipBlank_append_cons hw (by decide)]
    simp only [hf]
  · -- only white space behind the card was cut off
    left
    have hblank : Blanks s₂ := fun c hc => hw' c (h₂ ▸ List.mem_append_left u hc)
    exact read_of_isCard ⟨w, '[' :: t, s₂, hw, ht, hblank, by simp⟩

end Format

/-! ## What is said of it -/

/-- A text that ends too early is reported behind all of it. -/
theorem Failure.stopped_of_ended (cause : Cause) (text : List Char) :
    ((Failure.ended cause).inText text).stopped = .behind text := by
  rw [← Text.Position.ofOffset_byteCount]
  rfl

/-- No message about an early end speaks of a position of its own. -/
theorem ReadError.told_of_ending {e : ReadError} (h : e.kind = .ending) :
    e.told = (e.cause.message, e.stopped) := by
  obtain ⟨cause, stopped⟩ := e
  cases cause with
  | endInValue | endInList | endInObject | endInString => rfl
  | _ => cases h

namespace Card

/-- **A text of a card that was cut off** anywhere is reported to end too early, at its end, unless
it is a text of the same card. -/
theorem read_cut {s lost : String} {card : Card} (h : read (s ++ lost) = .ok card) :
    read s = .ok card ∨ ∃ e, read s = .error e ∧ e.kind = .ending ∧
      e.told = (e.cause.message, .behind s.toList) := by
  obtain ⟨objects, hobjects, rfl⟩ := read_eq_ok_iff.mp h
  rw [String.toList_append] at hobjects
  rcases Format.read_or_ends_of_isCard hobjects with hr | ⟨cause, hcause, hr⟩
  · left
    simp only [read, hr]
  · right
    have hkind : ((Failure.ended cause).inText s.toList).kind = .ending := hcause
    refine ⟨_, by simp only [read, hr], hkind, ?_⟩
    rw [ReadError.told_of_ending hkind, Failure.stopped_of_ended]

/-- Cut between the halves of a pair, a card is not complained of for the half that is there. -/
theorem read_cut_halfPair :
    read ("[\x7b\"Gold\":\"\\ud83d" ++ "\\ude00\"\x7d]") = .ok [.ofList [(.gold, "😀")]] ∧
      ∃ e, read "[\x7b\"Gold\":\"\\ud83d" = .error e ∧ e.kind = .ending ∧
        e.told = (e.cause.message, .behind "[\x7b\"Gold\":\"\\ud83d".toList) := by
  have hwhole : read ("[\x7b\"Gold\":\"\\ud83d" ++ "\\ude00\"\x7d]") =
      .ok [.ofList [(.gold, "😀")]] := by decide +kernel
  have hcut : read "[\x7b\"Gold\":\"\\ud83d" ≠ .ok [.ofList [(.gold, "😀")]] := by decide +kernel
  exact ⟨hwhole, (read_cut hwhole).resolve_left hcut⟩

end Card

end CardText
