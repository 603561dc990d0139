import CardText.Card.Literal

/-!
# What a string in the text of a card may look like

Between its quotes, a string is a row of characters that stand for themselves and of escapes. An
escape is a letter behind a backslash, a code point by four hexadecimal digits, or the code point of
a character beyond the basic plane by the two halves of its pair.

Results:

* `readEscape_append`, `exists_escape_of_readEscape`: the escapes that are read are these.
* **`read_eq_ok_iff`**: a string is read exactly if it is spelled like this, up to the first quote
  that no backslash stands before, and it is read as the text that it spells.
-/

namespace CardText.Literal

open Text

/-! ## How texts are spelled -/

/-- The escapes by a letter, each with the character that it stands for. -/
def letterEscapes : List (Char × Char) :=
  [('"', '"'), ('\\', '\\'), ('/', '/'), ('b', '\x08'), ('f', '\x0c'), ('n', '\n'), ('r', '\r'),
    ('t', '\t')]

/-- Four hexadecimal digits that spell a number. -/
def IsHex (digits : List Char) (n : Nat) : Prop := digits.length = 4 ∧ hexFrom? 0 digits = some n

/-- An escape, from behind its backslash on, and the character that it stands for. -/
inductive Escape : List Char → Char → Prop
  | letter {e c : Char} (h : (e, c) ∈ letterEscapes) : Escape [e] c
  /-- a character of the basic plane, which no half of a pair is -/
  | codePoint {digits : List Char} {c : Char} (h : IsHex digits c.toNat) :
      Escape ('u' :: digits) c
  /-- a character beyond it, by the upper and the lower ten bits of its place there -/
  | pair {digits digits' : List Char} {high low : Nat} {c : Char} (h : IsHex digits high)
      (h' : IsHex digits' low) (hhigh : 0xD800 ≤ high ∧ high ≤ 0xDBFF)
      (hlow : 0xDC00 ≤ low ∧ low ≤ 0xDFFF)
      (hc : c.toNat = 0x10000 + (high - 0xD800) * 0x400 + (low - 0xDC00)) :
      Escape ('u' :: digits ++ '\\' :: 'u' :: digits') c

/-- What stands between the quotes, and the text that it spells. -/
inductive Spells : List Char → List Char → Prop
  | nil : Spells [] []
  | plain {c : Char} {w cs : List Char} (hc : 0x20 ≤ c.toNat) (hquote : c ≠ '"')
      (hbackslash : c ≠ '\\') (h : Spells w cs) : Spells (c :: w) (c :: cs)
  | escape {e : List Char} {c : Char} {w cs : List Char} (he : Escape e c) (h : Spells w cs) :
      Spells ('\\' :: e ++ w) (c :: cs)

/-- A string with its quotes, and the text that it spells. -/
def Quotes (s cs : List Char) : Prop := ∃ w, Spells w cs ∧ s = '"' :: w ++ ['"']

/-! ## Hexadecimal digits -/

theorem toNat_ofNat {n : Nat} (h : n.isValidChar) : (Char.ofNat n).toNat = n := by
  unfold Char.ofNat
  rw [dif_pos h]
  rfl

theorem hexValue?_lt {c : Char} {v : Nat} (h : hexValue? c = some v) : v < 16 := by
  have h0 : ('0' : Char).toNat = 48 := rfl
  have ha : ('a' : Char).toNat = 97 := rfl
  have hA : ('A' : Char).toNat = 65 := rfl
  unfold hexValue? at h
  split at h
  · rename_i hc
    have h9 : c.toNat ≤ 57 := hc.2
    have := Option.some.inj h
    omega
  · split at h
    · rename_i hc
      have hf : c.toNat ≤ 102 := hc.2
      have := Option.some.inj h
      omega
    · split at h
      · rename_i hc
        have hF : c.toNat ≤ 70 := hc.2
        have := Option.some.inj h
        omega
      · cases h

/-- Four digits spell no number beyond the basic plane. -/
theorem IsHex.lt {digits : List Char} {n : Nat} (h : IsHex digits n) : n < 0x10000 := by
  obtain ⟨hlen, hn⟩ := h
  match digits, hlen with
  | [a, b, c, d], _ =>
    simp only [hexFrom?] at hn
    obtain ⟨va, ha, hn⟩ := Option.bind_eq_some_iff.mp hn
    obtain ⟨vb, hb, hn⟩ := Option.bind_eq_some_iff.mp hn
    obtain ⟨vc, hc, hn⟩ := Option.bind_eq_some_iff.mp hn
    obtain ⟨vd, hd, hn⟩ := Option.bind_eq_some_iff.mp hn
    have := hexValue?_lt ha
    have := hexValue?_lt hb
    have := hexValue?_lt hc
    have := hexValue?_lt hd
    have := Option.some.inj hn
    omega

theorem readHex_append {digits : List Char} {n : Nat} (h : IsHex digits n) (rest : List Char) :
    readHex (digits ++ rest) = .ok (n, rest) := by
  obtain ⟨hlen, hn⟩ := h
  match digits, hlen with
  | [a, b, c, d], _ => simp only [readHex, List.cons_append, List.nil_append, hn]

theorem exists_isHex_of_readHex {s rest : List Char} {n : Nat} (h : readHex s = .ok (n, rest)) :
    ∃ digits, IsHex digits n ∧ s = digits ++ rest := by
  unfold readHex at h
  split at h
  · rename_i a b c d r
    split at h
    · rename_i m hm
      obtain ⟨rfl, rfl⟩ := Prod.mk.inj (Except.ok.inj h)
      exact ⟨[a, b, c, d], ⟨rfl, hm⟩, rfl⟩
    · cases h
  · cases h

/-! ## Escapes -/

theorem isHighHalf_iff {n : Nat} : isHighHalf n = true ↔ 0xD800 ≤ n ∧ n ≤ 0xDBFF := by
  simp only [isHighHalf, Bool.and_eq_true, decide_eq_true_eq]

theorem isLowHalf_iff {n : Nat} : isLowHalf n = true ↔ 0xDC00 ≤ n ∧ n ≤ 0xDFFF := by
  simp only [isLowHalf, Bool.and_eq_true, decide_eq_true_eq]

/-- The character of a pair is the one at the place that the halves tell. -/
theorem joinHalves_eq_iff {high low : Nat} {c : Char} (hhigh : 0xD800 ≤ high ∧ high ≤ 0xDBFF)
    (hlow : 0xDC00 ≤ low ∧ low ≤ 0xDFFF) :
    joinHalves high low = c ↔ c.toNat = 0x10000 + (high - 0xD800) * 0x400 + (low - 0xDC00) := by
  have hvalid : ((high - 0xD800) * 0x400 + (low - 0xDC00) + 0x10000).isValidChar :=
    Or.inr ⟨by omega, by omega⟩
  rw [← Char.toNat_inj, joinHalves, toNat_ofNat hvalid]
  omega

theorem mem_letterEscapes_of_escaped? {e c : Char} (h : escaped? e = some c) :
    (e, c) ∈ letterEscapes := by
  unfold escaped? at h
  repeat' split at h
  all_goals cases h
  · rename_i he
    rcases he with rfl | rfl | rfl <;> decide
  all_goals subst e; decide

theorem escaped?_of_mem_letterEscapes {e c : Char} (h : (e, c) ∈ letterEscapes) :
    escaped? e = some c := by
  have hall : ∀ p ∈ letterEscapes, escaped? p.1 = some p.2 := by decide
  exact hall (e, c) h

theorem readLowHalf_append {high low : Nat} {digits : List Char} (h : IsHex digits low)
    (hlow : isLowHalf low = true) (rest : List Char) :
    readLowHalf high ('\\' :: 'u' :: digits ++ rest) = .ok (joinHalves high low, rest) := by
  simp only [readLowHalf, List.cons_append, readHex_append h, hlow, if_true]

theorem exists_isHex_of_readLowHalf {high : Nat} {s rest : List Char} {c : Char}
    (h : readLowHalf high s = .ok (c, rest)) :
    ∃ digits low, IsHex digits low ∧ isLowHalf low = true ∧ joinHalves high low = c ∧
      s = '\\' :: 'u' :: digits ++ rest := by
  unfold readLowHalf at h
  split at h
  · cases h
  · cases h
  · split at h
    · cases h
    · rename_i hr
      split at h
      · rename_i hlow
        obtain ⟨digits, hd, rfl⟩ := exists_isHex_of_readHex hr
        obtain ⟨rfl, rfl⟩ := Prod.mk.inj (Except.ok.inj h)
        exact ⟨digits, _, hd, hlow, rfl, rfl⟩
      · cases h
  · cases h
  · cases h

/-- A code point that is read is spelled by one escape or by two. -/
theorem exists_escape_of_readCodePoint {s rest : List Char} {c : Char}
    (h : readCodePoint s = .ok (c, rest)) : ∃ e, Escape ('u' :: e) c ∧ s = e ++ rest := by
  unfold readCodePoint at h
  split at h
  · cases h
  · rename_i n r hr
    obtain ⟨digits, hd, rfl⟩ := exists_isHex_of_readHex hr
    split at h
    · cases h
    · rename_i hnlow
      split at h
      · rename_i hhigh
        obtain ⟨digits', low, hd', hlow, hc, rfl⟩ := exists_isHex_of_readLowHalf h
        rw [isHighHalf_iff] at hhigh
        rw [isLowHalf_iff] at hlow
        exact ⟨_, .pair hd hd' hhigh hlow ((joinHalves_eq_iff hhigh hlow).mp hc),
          (List.append_assoc _ _ _).symm⟩
      · rename_i hnhigh
        rw [isLowHalf_iff] at hnlow
        rw [isHighHalf_iff] at hnhigh
        obtain ⟨rfl, rfl⟩ := Prod.mk.inj (Except.ok.inj h)
        have hvalid : n.isValidChar := by
          have := hd.lt
          unfold Nat.isValidChar
          omega
        exact ⟨digits, .codePoint (by rwa [toNat_ofNat hvalid]), rfl⟩

theorem exists_escape_of_readEscape {s rest : List Char} {c : Char}
    (h : readEscape s = .ok (c, rest)) : ∃ e, Escape e c ∧ s = e ++ rest := by
  unfold readEscape at h
  split at h
  · cases h
  · obtain ⟨e, he, rfl⟩ := exists_escape_of_readCodePoint h
    exact ⟨'u' :: e, he, rfl⟩
  · rename_i l r _
    split at h
    · rename_i d hd
      obtain ⟨rfl, rfl⟩ := Prod.mk.inj (Except.ok.inj h)
      exact ⟨[l], .letter (mem_letterEscapes_of_escaped? hd), rfl⟩
    · cases h

theorem readEscape_append {e : List Char} {c : Char} (h : Escape e c) (rest : List Char) :
    readEscape (e ++ rest) = .ok (c, rest) := by
  cases h with
  | @letter l _ h =>
    have hl : l ≠ 'u' := by
      rintro rfl
      simp [letterEscapes] at h
    rw [List.singleton_append]
    unfold readEscape
    split
    · rename_i heq
      cases heq
    · rename_i heq
      exact absurd (List.cons.inj heq).1 hl
    · rename_i heq
      obtain ⟨rfl, rfl⟩ := List.cons.inj heq
      rw [escaped?_of_mem_letterEscapes h]
  | codePoint h =>
    have hvalid : c.toNat.isValidChar := c.valid
    have hlow : isLowHalf c.toNat = false := by
      rw [← Bool.not_eq_true, isLowHalf_iff]
      unfold Nat.isValidChar at hvalid
      omega
    have hhigh : isHighHalf c.toNat = false := by
      rw [← Bool.not_eq_true, isHighHalf_iff]
      unfold Nat.isValidChar at hvalid
      omega
    simp [readEscape, readCodePoint, readHex_append h, hlow, hhigh]
  | @pair digits digits' high low _ h h' hhigh hlow hc =>
    have hnlow : isLowHalf high = false := by
      rw [← Bool.not_eq_true, isLowHalf_iff]
      omega
    obtain rfl := (joinHalves_eq_iff hhigh hlow).mpr hc
    rw [← isHighHalf_iff] at hhigh
    rw [← isLowHalf_iff] at hlow
    have hrest := @readLowHalf_append high _ _ h' hlow rest
    simp only [List.cons_append, List.append_assoc] at hrest ⊢
    simp [readEscape, readCodePoint, readHex_append h, hnlow, hhigh, hrest]

/-! ## Strings -/

theorem exists_spells_of_read {s cs rest : List Char} (h : read s = .ok (cs, rest)) :
    ∃ w, Spells w cs ∧ s = w ++ '"' :: rest := by
  fun_induction read s generalizing cs rest with
  | case1 => cases h
  | case2 r =>
    obtain ⟨rfl, rfl⟩ := Prod.mk.inj (Except.ok.inj h)
    exact ⟨[], .nil, rfl⟩
  | case3 r f hr => cases h
  | case4 r c r' hr ih =>
    obtain ⟨cs', h', rfl⟩ := exists_of_map_ok h
    obtain ⟨w, hw, rfl⟩ := ih h'
    obtain ⟨e, he, rfl⟩ := exists_escape_of_readEscape hr
    exact ⟨'\\' :: e ++ w, .escape he hw, by simp only [List.cons_append, List.append_assoc]⟩
  | case5 c r hquote hbackslash hc => cases h
  | case6 c r hquote hbackslash hc ih =>
    obtain ⟨cs', h', rfl⟩ := exists_of_map_ok h
    obtain ⟨w, hw, rfl⟩ := ih h'
    exact ⟨c :: w, .plain (Nat.le_of_not_lt hc) hquote hbackslash hw, rfl⟩

theorem read_plain {c : Char} (hc : 0x20 ≤ c.toNat) (hquote : c ≠ '"') (hbackslash : c ≠ '\\')
    (s : List Char) : read (c :: s) = (read s).map fun p => (c :: p.1, p.2) := by
  rw [read, if_neg (Nat.not_lt.mpr hc)]
  · exact hquote
  · exact hbackslash

theorem read_escape {s rest : List Char} {c : Char} (h : readEscape s = .ok (c, rest)) :
    read ('\\' :: s) = (read rest).map fun p => (c :: p.1, p.2) := by
  rw [read]
  split
  · rename_i hr
    cases h.symm.trans hr
  · rename_i hr
    obtain ⟨rfl, rfl⟩ := Prod.mk.inj (Except.ok.inj (h.symm.trans hr))
    rfl

theorem read_escape_error {s : List Char} {f : Failure} (h : readEscape s = .error f) :
    read ('\\' :: s) = .error f := by
  rw [read]
  split
  · rename_i hr
    rw [Except.error.inj (h.symm.trans hr)]
  · rename_i hr
    cases h.symm.trans hr

theorem read_append {w cs : List Char} (h : Spells w cs) (rest : List Char) :
    read (w ++ '"' :: rest) = .ok (cs, rest) := by
  induction h with
  | nil => rw [List.nil_append, read]
  | plain hc hquote hbackslash _ ih =>
    rw [List.cons_append, read_plain hc hquote hbackslash, ih]
    rfl
  | @escape e c w cs he _ ih =>
    rw [List.cons_append, List.cons_append, List.append_assoc,
      read_escape (readEscape_append he (w ++ '"' :: rest)), ih]
    rfl

/-- **A string is read exactly if it is spelled**, and then as the text that it spells. -/
theorem read_eq_ok_iff {s cs rest : List Char} :
    read s = .ok (cs, rest) ↔ ∃ w, Spells w cs ∧ s = w ++ '"' :: rest := by
  refine ⟨exists_spells_of_read, ?_⟩
  rintro ⟨w, hw, rfl⟩
  exact read_append hw rest

end CardText.Literal
