import CardText.Proofs.Card.Format

/-!
# Reading the text of a card

The reader (`parse_input`) takes a text for a card exactly if it has the format of one. Every part
of the reader takes a part of the format from the front of a text: what it accepts has the part's
form, and a part of that form is read whatever comes behind it.

Results:

* `nextMember_cases`, `nextElement_cases`: what stands before the next part of a list.
* `readMember_append`, `exists_isMember_of_readMember` and the like: the two directions for every
  part.
* **`read_iff_format`**: the texts that are accepted, and the cards that they are read as.
-/

namespace CardText.Format

open Literal Reader

/-! ## White space -/

theorem blanks_nil : Blanks [] := fun _ h => absurd h List.not_mem_nil

theorem skipBlank_append {w : List Char} (hw : Blanks w) (s : List Char) :
    skipBlank (w ++ s) = skipBlank s :=
  List.dropWhile_append_of_pos hw

theorem skipBlank_append_cons {w : List Char} (hw : Blanks w) {c : Char} (hc : isBlank c = false)
    (s : List Char) : skipBlank (w ++ c :: s) = c :: s := by
  rw [skipBlank_append hw, skipBlank, List.dropWhile_cons_of_neg (by simp [hc])]

theorem skipBlank_of_blanks {w : List Char} (hw : Blanks w) : skipBlank w = [] := by
  rw [← List.append_nil w, skipBlank_append hw]
  rfl

/-- What is skipped is white space. -/
theorem exists_blanks_append (s : List Char) : ∃ w, Blanks w ∧ s = w ++ skipBlank s :=
  ⟨s.takeWhile isBlank, List.all_eq_true.mp List.all_takeWhile,
    (List.takeWhile_append_dropWhile).symm⟩

theorem exists_blanks_of_skipBlank {s r : List Char} {c : Char} (h : skipBlank s = c :: r) :
    ∃ w, Blanks w ∧ s = w ++ c :: r := by
  obtain ⟨w, hw, hs⟩ := exists_blanks_append s
  exact ⟨w, hw, by rw [hs, h]⟩

theorem blanks_of_skipBlank {s : List Char} (h : skipBlank s = []) : Blanks s := by
  obtain ⟨w, hw, hs⟩ := exists_blanks_append s
  rw [h, List.append_nil] at hs
  rwa [hs]

/-! ## Members -/

theorem readColon_append {w : List Char} (hw : Blanks w) (rest : List Char) :
    readColon (w ++ ':' :: rest) = .ok rest := by
  rw [readColon, skipBlank_append_cons hw (by decide)]
  rfl

theorem exists_blanks_of_readColon {s rest : List Char} (h : readColon s = .ok rest) :
    ∃ w, Blanks w ∧ s = w ++ ':' :: rest := by
  unfold readColon at h
  split at h
  · cases h
  · rename_i hs
    obtain rfl := Except.ok.inj h
    exact exists_blanks_of_skipBlank hs
  · cases h

theorem readText_append {w s cs : List Char} (hw : Blanks w) (hs : Quotes s cs)
    (rest : List Char) : readText (w ++ s ++ rest) = .ok (cs, rest) := by
  obtain ⟨v, hv, rfl⟩ := hs
  simp only [List.append_assoc, List.cons_append, List.nil_append]
  rw [readText, skipBlank_append_cons hw (by decide)]
  exact read_append hv rest

theorem exists_quotes_of_readText {s cs rest : List Char} (h : readText s = .ok (cs, rest)) :
    ∃ w t, Blanks w ∧ Quotes t cs ∧ s = w ++ t ++ rest := by
  unfold readText at h
  split at h
  · cases h
  · rename_i r hs
    obtain ⟨w, hw, rfl⟩ := exists_blanks_of_skipBlank hs
    obtain ⟨v, hv, rfl⟩ := exists_spells_of_read h
    exact ⟨w, _, hw, ⟨v, hv, rfl⟩, by simp⟩
  · cases h

theorem readMember_append {s : List Char} {m : Tier × String} (h : IsMember ('"' :: s) m)
    (rest : List Char) : readMember (s ++ rest) = .ok (m, rest) := by
  obtain ⟨key, w, w', text, ⟨v, hv, rfl⟩, hw, hw', htext, hs⟩ := h
  obtain rfl : s = v ++ '"' :: (w ++ ':' :: (w' ++ text)) := by
    simpa using hs
  have hkey := read_append hv (w ++ ':' :: (w' ++ text ++ rest))
  have hcolon := readColon_append hw (w' ++ text ++ rest)
  simp only [List.append_assoc, List.cons_append] at hkey hcolon ⊢
  rw [readMember, hkey]
  simp only [String.ofList_toList, Tier.ofName?_name, hcolon]
  rw [← List.append_assoc, readText_append hw' htext]
  simp only [String.ofList_toList]

theorem exists_isMember_of_readMember {s rest : List Char} {m : Tier × String}
    (h : readMember s = .ok (m, rest)) : ∃ t, IsMember ('"' :: t) m ∧ s = t ++ rest := by
  unfold readMember at h
  split at h
  · cases h
  · rename_i name r hname
    split at h
    · cases h
    · rename_i tier htier
      split at h
      · cases h
      · rename_i r' hcolon
        split at h
        · cases h
        · rename_i text rest' htext
          obtain ⟨rfl, rfl⟩ := Prod.mk.inj (Except.ok.inj h)
          obtain ⟨v, hv, rfl⟩ := exists_spells_of_read hname
          obtain ⟨w, hw, rfl⟩ := exists_blanks_of_readColon hcolon
          obtain ⟨w', t, hw', ht, rfl⟩ := exists_quotes_of_readText htext
          rw [Tier.ofName?_eq_some_iff] at htier
          refine ⟨v ++ '"' :: w ++ ':' :: w' ++ t, ?_, by simp⟩
          refine ⟨_, w, w', t, ⟨v, ?_, rfl⟩, hw, hw', ?_, by simp⟩
          · rwa [← htier, String.toList_ofList]
          · rwa [String.toList_ofList]

/-! ## Objects -/

/-- What comes next in an object that a member or the end is found in. -/
theorem nextMember_cases {first : Bool} {s : List Char} {n : Next}
    (h : nextMember first s = .ok n) :
    (∃ w rest, n = .close rest ∧ Blanks w ∧ s = w ++ '}' :: rest) ∨
      (∃ w r, first = true ∧ n = .element r ∧ Blanks w ∧ s = w ++ '"' :: r) ∨
      (∃ w w' r, first = false ∧ n = .element r ∧ Blanks w ∧ Blanks w' ∧
        s = w ++ ',' :: w' ++ '"' :: r) := by
  unfold nextMember at h
  split at h
  · cases h
  · rename_i r hs
    obtain ⟨w, hw, rfl⟩ := exists_blanks_of_skipBlank hs
    exact Or.inl ⟨w, r, (Except.ok.inj h).symm, hw, rfl⟩
  · rename_i c r _ hs
    obtain ⟨w, hw, rfl⟩ := exists_blanks_of_skipBlank hs
    split at h
    · rename_i hfirst
      split at h
      · rename_i hc
        subst hc
        exact Or.inr (Or.inl ⟨w, r, hfirst, (Except.ok.inj h).symm, hw, rfl⟩)
      · cases h
    · rename_i hfirst
      split at h
      · rename_i hc
        subst hc
        split at h
        · cases h
        · rename_i r' hs'
          obtain ⟨w', hw', rfl⟩ := exists_blanks_of_skipBlank hs'
          exact Or.inr (Or.inr ⟨w, w', r', Bool.eq_false_iff.mpr hfirst,
            (Except.ok.inj h).symm, hw, hw', by simp⟩)
        · cases h
        · cases h
      · cases h

theorem nextMember_close {first : Bool} {w : List Char} (hw : Blanks w) (rest : List Char) :
    nextMember first (w ++ '}' :: rest) = .ok (.close rest) := by
  rw [nextMember, skipBlank_append_cons hw (by decide)]
  rfl

theorem nextMember_first {w : List Char} (hw : Blanks w) (rest : List Char) :
    nextMember true (w ++ '"' :: rest) = .ok (.element rest) := by
  rw [nextMember, skipBlank_append_cons hw (by decide)]
  rfl

theorem nextMember_further {w w' : List Char} (hw : Blanks w) (hw' : Blanks w')
    (rest : List Char) :
    nextMember false (w ++ ',' :: w' ++ '"' :: rest) = .ok (.element rest) := by
  rw [List.append_assoc, List.cons_append, nextMember, skipBlank_append_cons hw (by decide)]
  simp [skipBlank_append_cons hw' (show isBlank '"' = false by decide)]

theorem readMembers_of_close {first : Bool} {line : Line} {s rest : List Char}
    (h : nextMember first s = .ok (.close rest)) : readMembers first line s = .ok (line, rest) := by
  rw [readMembers]
  split <;> simp_all

theorem readMembers_of_element {first : Bool} {line : Line} {s r rest : List Char}
    {m : Tier × String} (h : nextMember first s = .ok (.element r))
    (hm : readMember r = .ok (m, rest)) :
    readMembers first line s = readMembers false (line.insert m.1 m.2) rest := by
  rw [readMembers]
  split
  · simp_all
  · simp_all
  · rename_i hn
    obtain rfl := Next.element.inj (Except.ok.inj (h.symm.trans hn))
    split
    · rename_i hm'
      cases hm.symm.trans hm'
    · rename_i hm'
      obtain ⟨rfl, rfl⟩ := Prod.mk.inj (Except.ok.inj (hm.symm.trans hm'))
      rfl

theorem exists_quote_of_isMember {s : List Char} {m : Tier × String} (h : IsMember s m) :
    ∃ s', s = '"' :: s' := by
  obtain ⟨key, w, w', text, ⟨v, -, rfl⟩, -, -, -, rfl⟩ := h
  exact ⟨_, rfl⟩

theorem readMembers_append {line : Line} {t : List Char} {ms : List (Tier × String)}
    (h : Tail IsMember t ms) (rest : List Char) :
    readMembers false line (t ++ '}' :: rest) = .ok (line.insertAll ms, rest) := by
  induction h generalizing line with
  | nil hw => exact readMembers_of_close (nextMember_close hw rest)
  | @cons w w' s t m ms hw hw' hm _ ih =>
    obtain ⟨s', rfl⟩ := exists_quote_of_isMember hm
    have hnext := nextMember_further hw hw' (s' ++ (t ++ '}' :: rest))
    have hread := readMember_append hm (t ++ '}' :: rest)
    simp only [List.append_assoc, List.cons_append] at hnext hread ⊢
    rw [readMembers_of_element hnext hread, ih]
    rfl

theorem exists_tail_of_readMembers {line line' : Line} {s rest : List Char}
    (h : readMembers false line s = .ok (line', rest)) :
    ∃ t ms, Tail IsMember t ms ∧ line' = line.insertAll ms ∧ s = t ++ '}' :: rest := by
  induction hlen : s.length using Nat.strongRecOn generalizing line s with
  | ind n ih =>
    subst hlen
    rw [readMembers] at h
    split at h
    · cases h
    · rename_i hnext
      obtain ⟨rfl, rfl⟩ := Prod.mk.inj (Except.ok.inj h)
      obtain ⟨w, r, heq, hw, rfl⟩ | ⟨_, _, hfirst, _⟩ | ⟨_, _, _, _, heq, _⟩ :=
        nextMember_cases hnext
      · obtain rfl := Next.close.inj heq
        exact ⟨w, [], .nil hw, rfl, rfl⟩
      · cases hfirst
      · cases heq
    · rename_i hnext
      obtain ⟨_, _, heq, _⟩ | ⟨_, _, hfirst, _⟩ | ⟨w, w', r, -, heq, hw, hw', rfl⟩ :=
        nextMember_cases hnext
      · cases heq
      · cases hfirst
      · obtain rfl := Next.element.inj heq
        split at h
        · cases h
        · rename_i m r' hm
          have hshorter := length_of_readMember hm
          obtain ⟨t, ms, ht, rfl, rfl⟩ :=
            ih r'.length (by simp only [List.length_append, List.length_cons]; omega) h rfl
          obtain ⟨u, hu, rfl⟩ := exists_isMember_of_readMember hm
          exact ⟨_, m :: ms, .cons hw hw' hu ht, rfl, by simp⟩

theorem readLine_append {s : List Char} {ms : List (Tier × String)} (h : IsObject s ms)
    (rest : List Char) : readLine (s ++ rest) = .ok (lineOf ms, rest) := by
  cases h with
  | nil hw =>
    have hnext := @nextMember_close true _ hw rest
    simp only [List.append_assoc, List.cons_append, List.nil_append]
    exact readMembers_of_close hnext
  | @cons w s t m ms hw hm ht =>
    obtain ⟨s', rfl⟩ := exists_quote_of_isMember hm
    have hnext := nextMember_first hw (s' ++ (t ++ '}' :: rest))
    have hread := readMember_append hm (t ++ '}' :: rest)
    simp only [List.append_assoc, List.cons_append, List.nil_append] at hnext hread ⊢
    show readMembers true .empty _ = _
    rw [readMembers_of_element hnext hread, readMembers_append ht]
    rfl

theorem exists_isObject_of_readLine {s rest : List Char} {line : Line}
    (h : readLine s = .ok (line, rest)) :
    ∃ t ms, IsObject t ms ∧ line = lineOf ms ∧ s = t ++ rest := by
  unfold readLine at h
  split at h
  · rename_i r
    rw [readMembers] at h
    split at h
    · cases h
    · rename_i hnext
      obtain ⟨rfl, rfl⟩ := Prod.mk.inj (Except.ok.inj h)
      obtain ⟨w, r, heq, hw, rfl⟩ | ⟨_, _, _, heq, _⟩ | ⟨_, _, _, hfirst, _⟩ :=
        nextMember_cases hnext
      · obtain rfl := Next.close.inj heq
        exact ⟨_, [], .nil hw, rfl, by simp⟩
      · cases heq
      · cases hfirst
    · rename_i hnext
      obtain ⟨_, _, heq, _⟩ | ⟨w, r, -, heq, hw, rfl⟩ | ⟨_, _, _, hfirst, _⟩ :=
        nextMember_cases hnext
      · cases heq
      · obtain rfl := Next.element.inj heq
        split at h
        · cases h
        · rename_i m r' hm
          obtain ⟨t, ms, ht, rfl, rfl⟩ := exists_tail_of_readMembers h
          obtain ⟨u, hu, rfl⟩ := exists_isMember_of_readMember hm
          exact ⟨_, m :: ms, .cons hw hu ht, rfl, by simp⟩
      · cases hfirst
  · cases h

/-! ## Cards -/

/-- What comes next in a list that an element or the end is found in. -/
theorem nextElement_cases {first : Bool} {s : List Char} {n : Next}
    (h : nextElement first s = .ok n) :
    (∃ w rest, n = .close rest ∧ Blanks w ∧ s = w ++ ']' :: rest) ∨
      (∃ w r, first = true ∧ n = .element r ∧ Blanks w ∧ s = w ++ r) ∨
      (∃ w w' r, first = false ∧ n = .element r ∧ Blanks w ∧ Blanks w' ∧
        s = w ++ ',' :: w' ++ r) := by
  unfold nextElement at h
  split at h
  · cases h
  · rename_i r hs
    obtain ⟨w, hw, rfl⟩ := exists_blanks_of_skipBlank hs
    exact Or.inl ⟨w, r, (Except.ok.inj h).symm, hw, rfl⟩
  · rename_i c r _ hs
    obtain ⟨w, hw, rfl⟩ := exists_blanks_of_skipBlank hs
    split at h
    · rename_i hfirst
      exact Or.inr (Or.inl ⟨w, c :: r, hfirst, (Except.ok.inj h).symm, hw, rfl⟩)
    · rename_i hfirst
      split at h
      · rename_i hc
        subst hc
        obtain ⟨w', hw', hr⟩ := exists_blanks_append r
        split at h
        · cases h
        · cases h
        · exact Or.inr (Or.inr ⟨w, w', _, Bool.eq_false_iff.mpr hfirst,
            (Except.ok.inj h).symm, hw, hw', by simp [← hr]⟩)
      · cases h

theorem nextElement_close {first : Bool} {w : List Char} (hw : Blanks w) (rest : List Char) :
    nextElement first (w ++ ']' :: rest) = .ok (.close rest) := by
  rw [nextElement, skipBlank_append_cons hw (by decide)]
  rfl

theorem nextElement_first {w : List Char} (hw : Blanks w) (rest : List Char) :
    nextElement true (w ++ '{' :: rest) = .ok (.element ('{' :: rest)) := by
  rw [nextElement, skipBlank_append_cons hw (by decide)]
  rfl

theorem nextElement_further {w w' : List Char} (hw : Blanks w) (hw' : Blanks w')
    (rest : List Char) :
    nextElement false (w ++ ',' :: w' ++ '{' :: rest) = .ok (.element ('{' :: rest)) := by
  rw [List.append_assoc, List.cons_append, nextElement, skipBlank_append_cons hw (by decide)]
  simp [skipBlank_append_cons hw' (show isBlank '{' = false by decide)]

theorem readLines_of_close {first : Bool} {s rest : List Char}
    (h : nextElement first s = .ok (.close rest)) : readLines first s = .ok ([], rest) := by
  rw [readLines]
  split <;> simp_all

theorem readLines_of_element {first : Bool} {s r r' : List Char} {line : Line}
    (h : nextElement first s = .ok (.element r)) (hl : readLine r = .ok (line, r')) :
    readLines first s = (readLines false r').map fun p => (line :: p.1, p.2) := by
  rw [readLines]
  split
  · simp_all
  · simp_all
  · rename_i hn
    obtain rfl := Next.element.inj (Except.ok.inj (h.symm.trans hn))
    split
    · rename_i hl'
      cases hl.symm.trans hl'
    · rename_i hl'
      obtain ⟨rfl, rfl⟩ := Prod.mk.inj (Except.ok.inj (hl.symm.trans hl'))
      rfl

theorem exists_brace_of_isObject {s : List Char} {ms : List (Tier × String)}
    (h : IsObject s ms) : ∃ s', s = '{' :: s' := by
  cases h with
  | nil => exact ⟨_, rfl⟩
  | cons => exact ⟨_, rfl⟩

theorem readLines_append {t : List Char} {objects : List (List (Tier × String))}
    (h : Tail IsObject t objects) (rest : List Char) :
    readLines false (t ++ ']' :: rest) = .ok (objects.map lineOf, rest) := by
  induction h with
  | nil hw => exact readLines_of_close (nextElement_close hw rest)
  | @cons w w' s t ms objects hw hw' hs _ ih =>
    obtain ⟨s', rfl⟩ := exists_brace_of_isObject hs
    have hnext := nextElement_further hw hw' (s' ++ (t ++ ']' :: rest))
    have hread := readLine_append hs (t ++ ']' :: rest)
    simp only [List.append_assoc, List.cons_append] at hnext hread ⊢
    rw [readLines_of_element hnext hread, ih]
    rfl

theorem exists_tail_of_readLines {card : Card} {s rest : List Char}
    (h : readLines false s = .ok (card, rest)) :
    ∃ t objects, Tail IsObject t objects ∧ card = objects.map lineOf ∧ s = t ++ ']' :: rest := by
  induction hlen : s.length using Nat.strongRecOn generalizing s card with
  | ind n ih =>
    subst hlen
    rw [readLines] at h
    split at h
    · cases h
    · rename_i hnext
      obtain ⟨rfl, rfl⟩ := Prod.mk.inj (Except.ok.inj h)
      obtain ⟨w, r, heq, hw, rfl⟩ | ⟨_, _, hfirst, _⟩ | ⟨_, _, _, _, heq, _⟩ :=
        nextElement_cases hnext
      · obtain rfl := Next.close.inj heq
        exact ⟨w, [], .nil hw, rfl, rfl⟩
      · cases hfirst
      · cases heq
    · rename_i hnext
      obtain ⟨_, _, heq, _⟩ | ⟨_, _, hfirst, _⟩ | ⟨w, w', r, -, heq, hw, hw', rfl⟩ :=
        nextElement_cases hnext
      · cases heq
      · cases hfirst
      · obtain rfl := Next.element.inj heq
        split at h
        · cases h
        · rename_i line r' hl
          obtain ⟨card', h', rfl⟩ := exists_of_map_ok h
          have hshorter := length_of_readLine hl
          obtain ⟨t, objects, ht, rfl, rfl⟩ :=
            ih r'.length (by simp only [List.length_append, List.length_cons]; omega) h' rfl
          obtain ⟨u, ms, hu, rfl, rfl⟩ := exists_isObject_of_readLine hl
          exact ⟨_, ms :: objects, .cons hw hw' hu ht, rfl, by simp⟩

/-- A list of objects is read from behind its opening bracket on. -/
theorem exists_readLines_of_bracketed {t : List Char} {objects : List (List (Tier × String))}
    (h : Bracketed IsObject '[' ']' t objects) (rest : List Char) :
    ∃ s, t = '[' :: s ∧ readLines true (s ++ rest) = .ok (objects.map lineOf, rest) := by
  cases h with
  | @nil w hw =>
    refine ⟨w ++ [']'], rfl, ?_⟩
    rw [List.append_assoc]
    exact readLines_of_close (nextElement_close hw rest)
  | @cons w s t ms objects hw hs ht =>
    refine ⟨w ++ s ++ t ++ [']'], by simp only [List.cons_append], ?_⟩
    obtain ⟨s', rfl⟩ := exists_brace_of_isObject hs
    have hnext := nextElement_first hw (s' ++ (t ++ ']' :: rest))
    have hread := readLine_append hs (t ++ ']' :: rest)
    simp only [List.append_assoc, List.cons_append, List.nil_append] at hread ⊢
    rw [readLines_of_element hnext hread, readLines_append ht rest]
    rfl

theorem exists_bracketed_of_readLines {card : Card} {s rest : List Char}
    (h : readLines true s = .ok (card, rest)) :
    ∃ t objects, Bracketed IsObject '[' ']' ('[' :: t) objects ∧ card = objects.map lineOf ∧
      s = t ++ rest := by
  rw [readLines] at h
  split at h
  · cases h
  · rename_i hnext
    obtain ⟨rfl, rfl⟩ := Prod.mk.inj (Except.ok.inj h)
    obtain ⟨w, r, heq, hw, rfl⟩ | ⟨_, _, _, heq, _⟩ | ⟨_, _, _, hfirst, _⟩ :=
      nextElement_cases hnext
    · obtain rfl := Next.close.inj heq
      exact ⟨_, [], .nil hw, rfl, by simp⟩
    · cases heq
    · cases hfirst
  · rename_i hnext
    obtain ⟨_, _, heq, _⟩ | ⟨w, r, -, heq, hw, rfl⟩ | ⟨_, _, _, hfirst, _⟩ :=
      nextElement_cases hnext
    · cases heq
    · obtain rfl := Next.element.inj heq
      split at h
      · cases h
      · rename_i line r' hl
        obtain ⟨card', h', rfl⟩ := exists_of_map_ok h
        obtain ⟨t, objects, ht, rfl, rfl⟩ := exists_tail_of_readLines h'
        obtain ⟨u, ms, hu, rfl, rfl⟩ := exists_isObject_of_readLine hl
        exact ⟨_, ms :: objects, .cons hw hu ht, rfl, by simp⟩
    · cases hfirst

theorem read_of_isCard {s : List Char} {objects : List (List (Tier × String))}
    (h : IsCard s objects) : Reader.read s = .ok (objects.map lineOf) := by
  obtain ⟨w, t, w', hw, ht, hw', rfl⟩ := h
  obtain ⟨s, rfl, hread⟩ := exists_readLines_of_bracketed ht w'
  rw [List.append_assoc, List.cons_append, Reader.read, skipBlank_append_cons hw (by decide)]
  simp only [hread, skipBlank_of_blanks hw']

theorem exists_isCard_of_read {s : List Char} {card : Card} (h : Reader.read s = .ok card) :
    ∃ objects, IsCard s objects ∧ card = objects.map lineOf := by
  unfold Reader.read at h
  split at h
  · cases h
  · rename_i r hs
    obtain ⟨w, hw, rfl⟩ := exists_blanks_of_skipBlank hs
    split at h
    · cases h
    · rename_i card' rest hlines
      split at h
      · rename_i hrest
        obtain rfl := Except.ok.inj h
        obtain ⟨t, objects, ht, rfl, rfl⟩ := exists_bracketed_of_readLines hlines
        exact ⟨objects, ⟨w, _, rest, hw, ht, blanks_of_skipBlank hrest, by simp⟩, rfl⟩
      · cases h
  · cases h

end CardText.Format

namespace CardText.Card

open Format

theorem read_eq_ok_iff {text : String} {card : Card} :
    read text = .ok card ↔ ∃ objects, IsCard text.toList objects ∧ card = objects.map lineOf := by
  have hread : read text = .ok card ↔ Reader.read text.toList = .ok card := by
    unfold read
    split
    · rename_i h
      rw [h, Except.ok.injEq, Except.ok.injEq]
    · rename_i h
      rw [h]
      simp only [reduceCtorEq]
  rw [hread]
  constructor
  · exact exists_isCard_of_read
  · rintro ⟨objects, h, rfl⟩
    exact read_of_isCard h

theorem read_of_format {text : String} {objects : List (List (Tier × String))}
    (h : IsCard text.toList objects) : read text = .ok (objects.map lineOf) :=
  read_eq_ok_iff.mpr ⟨objects, h, rfl⟩

/-- **A text is accepted exactly if it has the format of a card**, and then it is read as the card
that has, object by object, the last text of every tier. Nothing else about the order of the
members counts. -/
theorem read_iff_format (text : String) :
    (∀ card, read text = .ok card ↔
      ∃ objects, IsCard text.toList objects ∧ List.Forall₂ KeepsLast card objects) ∧
    ((∃ e, read text = .error e) ↔ ∀ objects, ¬ IsCard text.toList objects) ∧
    ∀ (other : String) (objects objects' : List (List (Tier × String))),
      IsCard text.toList objects → IsCard other.toList objects' →
      List.Forall₂ (fun ms ms' => textsOf ms = textsOf ms') objects objects' →
      read text = read other := by
  refine ⟨fun card => ?_, ⟨?_, ?_⟩, ?_⟩
  · simp only [read_eq_ok_iff, forall₂_keepsLast_iff]
  · rintro ⟨e, he⟩ objects h
    rw [read_of_format h] at he
    cases he
  · intro h
    cases hread : read text with
    | error e => exact ⟨e, rfl⟩
    | ok card =>
      obtain ⟨objects, hobjects, -⟩ := read_eq_ok_iff.mp hread
      exact absurd hobjects (h objects)
  · intro other objects objects' h h' hsame
    rw [read_of_format h, read_of_format h', map_lineOf_congr hsame]

end CardText.Card
