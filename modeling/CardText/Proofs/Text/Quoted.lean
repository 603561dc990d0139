import CardText.Proofs.Text.Decimal
import CardText.Text.Quoted

/-!
# Quoted texts are shown whole, and as one text only

Between quotes a character stands as it is, by a letter, or by its code point, and from what stands
there the character is told: no two characters start a text in the same way. So a text that starts
with a quoted text starts with no other. Nothing that has to be hidden is left between the quotes.

Results:

* `append_mark_inj`: what stands before a mark is told by the text.
* `hexFrom?_hexadecimal`, `hexadecimal_injective`: code points are read back.
* `stands_quoteChar`: the three ways in which a character stands between quotes.
* `visible_quoted`, `Visible.not_isControl`: a quoted text has no hidden character, and so no
  control.
* **`quoted_append_inj`**: a text that starts with a quoted text starts with no other.
-/

namespace CardText.Text

/-- What stands before the first mark in a text is told by the text. -/
theorem append_mark_inj {mark : Char} : ∀ {s t r r' : List Char}, mark ∉ s → mark ∉ t →
    s ++ mark :: r = t ++ mark :: r' → s = t ∧ r = r'
  | [], [], _, _, _, _, h => ⟨rfl, (List.cons.inj h).2⟩
  | [], d :: t, _, _, _, ht, h => absurd ((List.cons.inj h).1 ▸ List.mem_cons_self) ht
  | c :: s, [], _, _, hs, _, h => absurd ((List.cons.inj h).1 ▸ List.mem_cons_self) hs
  | c :: s, d :: t, _, _, hs, ht, h => by
    obtain ⟨rfl, hrest⟩ := List.cons.inj h
    obtain ⟨rfl, hr⟩ := append_mark_inj (List.not_mem_of_not_mem_cons hs)
      (List.not_mem_of_not_mem_cons ht) hrest
    exact ⟨rfl, hr⟩

/-! ## Hexadecimal numbers -/

theorem hexFrom?_append : ∀ (xs ys : List Char) (m : Nat),
    hexFrom? m (xs ++ ys) = (hexFrom? m xs).bind fun n => hexFrom? n ys
  | [], _, _ => rfl
  | c :: xs, ys, m => by
    simp only [List.cons_append, hexFrom?, Option.bind_assoc]
    refine congrArg _ (funext fun d => ?_)
    exact hexFrom?_append xs ys _

theorem hexValue?_digitChar : ∀ d < 16, hexValue? (Nat.digitChar d) = some d := by
  decide

/-- **The hexadecimal digits of a number spell it.** -/
theorem hexFrom?_hexadecimal (n : Nat) : hexFrom? 0 (hexadecimal n) = some n := by
  induction n using Nat.strongRecOn with
  | ind n ih =>
    rw [hexadecimal]
    split
    · rename_i hn
      simp [hexFrom?, hexValue?_digitChar n hn]
    · rename_i hn
      have hrest := ih (n / 16) (by omega)
      have hlast := hexValue?_digitChar (n % 16) (Nat.mod_lt _ (by decide))
      rw [hexFrom?_append, hrest, Option.bind_some]
      simp only [hexFrom?, hlast, Option.bind_some, Option.some.injEq]
      omega

theorem hexadecimal_injective : Function.Injective hexadecimal := by
  intro m n h
  have hm := hexFrom?_hexadecimal m
  rw [h, hexFrom?_hexadecimal] at hm
  exact (Option.some.inj hm).symm

theorem exists_digitChar_of_mem_hexadecimal {n : Nat} {c : Char} (h : c ∈ hexadecimal n) :
    ∃ d < 16, c = Nat.digitChar d := by
  induction n using Nat.strongRecOn with
  | ind n ih =>
    rw [hexadecimal] at h
    split at h
    · rename_i hn
      exact ⟨n, hn, List.mem_singleton.mp h⟩
    · rename_i hn
      rcases List.mem_append.mp h with h | h
      · exact ih (n / 16) (by omega) h
      · exact ⟨n % 16, Nat.mod_lt _ (by decide), List.mem_singleton.mp h⟩

theorem brace_not_mem_hexadecimal (n : Nat) : '}' ∉ hexadecimal n := by
  intro h
  obtain ⟨d, hd, heq⟩ := exists_digitChar_of_mem_hexadecimal h
  have hall : ∀ d < 16, '}' ≠ Nat.digitChar d := by decide
  exact hall d hd heq

/-! ## Hidden characters -/

/-- Nothing in a text is hidden. -/
def Visible (s : List Char) : Prop := ∀ c ∈ s, isHidden c = false

-- a search would take the instance for finite types, which runs through all characters
instance (s : List Char) : Decidable (Visible s) := List.decidableBAll _ s

@[simp] theorem visible_nil : Visible [] := fun _ hc => absurd hc List.not_mem_nil

@[simp] theorem visible_cons {c : Char} {s : List Char} :
    Visible (c :: s) ↔ isHidden c = false ∧ Visible s := List.forall_mem_cons

@[simp] theorem visible_append {s t : List Char} : Visible (s ++ t) ↔ Visible s ∧ Visible t :=
  List.forall_mem_append

theorem visible_flatMap {α : Type} {xs : List α} {f : α → List Char}
    (h : ∀ x ∈ xs, Visible (f x)) : Visible (xs.flatMap f) := by
  intro c hc
  obtain ⟨x, hx, hmem⟩ := List.mem_flatMap.mp hc
  exact h x hx c hmem

theorem visible_hexadecimal (n : Nat) : Visible (hexadecimal n) := by
  have hall : ∀ d < 16, isHidden (Nat.digitChar d) = false := by decide
  intro c hc
  obtain ⟨d, hd, rfl⟩ := exists_digitChar_of_mem_hexadecimal hc
  exact hall d hd

theorem visible_decimal (n : Nat) : Visible (decimal n) := by
  have hall : ∀ d < 10, isHidden (Nat.digitChar d) = false := by decide
  intro c hc
  obtain ⟨d, hd, rfl⟩ := exists_digitChar_of_mem_decimal hc
  exact hall d hd

theorem visible_signedDecimal : ∀ n, Visible (signedDecimal n)
  | .ofNat n => visible_decimal n
  | .negSucc n => visible_cons.mpr ⟨by decide, visible_decimal (n + 1)⟩

/-- The control characters, which leave the line or start something else in it. -/
def IsControl (c : Char) : Prop := c.toNat < 0x20 ∨ 0x7F ≤ c.toNat ∧ c.toNat ≤ 0x9F

/-- Every control character is hidden. -/
theorem isHidden_of_isControl {c : Char} (h : IsControl c) : isHidden c = true := by
  unfold isHidden
  by_cases hascii : c.toNat < 0x80
  · rw [if_pos hascii, Bool.or_eq_true, decide_eq_true_eq, decide_eq_true_eq]
    rcases h with h | h
    · exact Or.inl h
    · exact Or.inr (by omega)
  · rw [if_neg hascii]
    refine List.any_eq_true.mpr ⟨(0x80, 0xA0), List.mem_cons_self, ?_⟩
    rw [Bool.and_eq_true, decide_eq_true_eq, decide_eq_true_eq]
    rcases h with h | h
    · omega
    · omega

theorem Visible.not_isControl {s : List Char} (h : Visible s) : ∀ c ∈ s, ¬ IsControl c := by
  intro c hc hcontrol
  exact Bool.false_ne_true ((h c hc).symm.trans (isHidden_of_isControl hcontrol))

/-! ## Characters between quotes -/

/-- The escapes by a letter or a digit, each with the character that it stands for. -/
def quoteEscapes : List (Char × Char) :=
  [('0', '\x00'), ('t', '\t'), ('r', '\r'), ('n', '\n'), ('\\', '\\'), ('"', '"')]

/-- What stands between quotes for a character. -/
inductive Stands : Char → List Char → Prop
  | plain {c : Char} (h : isHidden c = false) (hquote : c ≠ '"') (hbackslash : c ≠ '\\') :
      Stands c [c]
  | letter {e c : Char} (h : (e, c) ∈ quoteEscapes) : Stands c ['\\', e]
  | codePoint (c : Char) : Stands c (byCodePoint c)

theorem stands_quoteChar (c : Char) : Stands c (quoteChar c) := by
  unfold quoteChar
  -- the six characters that have an escape by a letter
  iterate 6
    split
    · subst c
      exact .letter (by decide)
  split
  · exact .codePoint c
  · rename_i hbackslash hquote hhidden
    exact .plain (Bool.eq_false_iff.mpr hhidden) hquote hbackslash

/-- An escape by a letter tells its character. -/
theorem eq_of_mem_quoteEscapes {e c d : Char} (hc : (e, c) ∈ quoteEscapes)
    (hd : (e, d) ∈ quoteEscapes) : c = d := by
  have hall : ∀ x ∈ quoteEscapes, ∀ y ∈ quoteEscapes, x.1 = y.1 → x.2 = y.2 := by decide
  exact hall _ hc _ hd rfl

theorem ne_u_of_mem_quoteEscapes {e c : Char} (h : (e, c) ∈ quoteEscapes) : e ≠ 'u' := by
  have hall : ∀ x ∈ quoteEscapes, x.1 ≠ 'u' := by decide
  exact hall _ h

namespace Stands

variable {c d : Char} {s t r r' : List Char}

/-- No character starts as the closing quote. -/
theorem append_ne_quote (h : Stands c s) : s ++ r ≠ '"' :: r' := by
  intro heq
  cases h with
  | plain _ hquote _ => exact hquote (List.cons.inj heq).1
  | letter _ => exact absurd (List.cons.inj heq).1 (by decide)
  | codePoint => exact absurd (List.cons.inj heq).1 (by decide)

/-- **No two characters start a text in the same way.** -/
theorem append_inj (hc : Stands c s) (hd : Stands d t) (h : s ++ r = t ++ r') :
    c = d ∧ r = r' := by
  cases hc with
  | plain _ _ hbackslash =>
    cases hd with
    | plain => exact List.cons.inj h
    | letter => exact absurd (List.cons.inj h).1 hbackslash
    | codePoint => exact absurd (List.cons.inj h).1 hbackslash
  | letter he =>
    cases hd with
    | plain _ _ hbackslash => exact absurd (List.cons.inj h).1.symm hbackslash
    | letter he' =>
      obtain ⟨rfl, hr⟩ := List.cons.inj (List.cons.inj h).2
      exact ⟨eq_of_mem_quoteEscapes he he', hr⟩
    | codePoint =>
      exact absurd (List.cons.inj (List.cons.inj h).2).1 (ne_u_of_mem_quoteEscapes he)
  | codePoint =>
    cases hd with
    | plain _ _ hbackslash => exact absurd (List.cons.inj h).1.symm hbackslash
    | letter he' =>
      exact absurd (List.cons.inj (List.cons.inj h).2).1.symm (ne_u_of_mem_quoteEscapes he')
    | codePoint =>
      -- the digits end at the closing brace
      simp only [byCodePoint, List.append_assoc, List.cons_append, List.nil_append,
        List.cons.injEq, true_and] at h
      obtain ⟨hhex, hr⟩ := append_mark_inj (brace_not_mem_hexadecimal _)
        (brace_not_mem_hexadecimal _) h
      exact ⟨Char.toNat_inj.mp (hexadecimal_injective hhex), hr⟩

/-- What stands for a character is not hidden. -/
theorem visible (h : Stands c s) : Visible s := by
  cases h with
  | plain h _ _ => exact visible_cons.mpr ⟨h, visible_nil⟩
  | letter h =>
    have hall : ∀ x ∈ quoteEscapes, Visible ['\\', x.1] := by decide
    exact hall _ h
  | codePoint =>
    have hstart : Visible ['\\', 'u', '{'] := by decide
    have hend : Visible ['}'] := by decide
    exact visible_append.mpr ⟨visible_append.mpr ⟨hstart, visible_hexadecimal _⟩, hend⟩

end Stands

/-! ## Quoted texts -/

/-- A quoted text has no hidden character. -/
theorem visible_quoted (s : List Char) : Visible (quoted s) := by
  have hquote : Visible ['"'] := by decide
  have hchars := visible_flatMap fun c (_ : c ∈ s) => (stands_quoteChar c).visible
  exact visible_append.mpr ⟨visible_append.mpr ⟨hquote, hchars⟩, hquote⟩

theorem flatMap_quoteChar_append_inj : ∀ {s t r r' : List Char},
    s.flatMap quoteChar ++ '"' :: r = t.flatMap quoteChar ++ '"' :: r' → s = t ∧ r = r'
  | [], [], _, _, h => ⟨rfl, (List.cons.inj h).2⟩
  | [], d :: t, _, _, h => by
    rw [List.flatMap_cons, List.append_assoc] at h
    exact absurd h.symm (stands_quoteChar d).append_ne_quote
  | c :: s, [], _, _, h => by
    rw [List.flatMap_cons, List.append_assoc] at h
    exact absurd h (stands_quoteChar c).append_ne_quote
  | c :: s, d :: t, r, r', h => by
    rw [List.flatMap_cons, List.flatMap_cons, List.append_assoc, List.append_assoc] at h
    obtain ⟨rfl, hrest⟩ := (stands_quoteChar c).append_inj (stands_quoteChar d) h
    obtain ⟨rfl, hr⟩ := flatMap_quoteChar_append_inj hrest
    exact ⟨rfl, hr⟩

/-- **A text starts with one quoted text only.** -/
theorem quoted_append_inj {s t r r' : List Char} (h : quoted s ++ r = quoted t ++ r') :
    s = t ∧ r = r' := by
  refine flatMap_quoteChar_append_inj ?_
  simpa only [quoted, List.cons_append, List.append_assoc, List.nil_append, List.cons.injEq,
    true_and] using h

end CardText.Text
