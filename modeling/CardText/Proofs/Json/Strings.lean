import CardText.Json
import CardText.Proofs.Card.Literal

/-!
# Strings that are written read back

A written string is a string that a card may hold, and the text that it spells is the one that it
was written for. So a text that starts with a string starts with the string of one text only.

Results:

* `escapeChar_cases`: the three ways in which a character is written.
* `quotes_stringText`: a written string spells its text.
* `stringText_append_inj`: a text that starts with a string starts with no other.
-/

namespace CardText.Json

open Literal

/-- A character is written as it is, by a letter, or by its number. -/
theorem escapeChar_cases (c : Char) :
    (0x20 ≤ c.toNat ∧ c ≠ '"' ∧ c ≠ '\\' ∧ escapeChar c = [c]) ∨
      (∃ e, (e, c) ∈ letterEscapes ∧ escapeChar c = ['\\', e]) ∨
      (c.toNat < 0x20 ∧ escapeChar c = controlEscape c) := by
  by_cases hquote : c = '"'
  · subst c
    exact Or.inr (Or.inl ⟨'"', by decide, rfl⟩)
  by_cases hbackslash : c = '\\'
  · subst c
    exact Or.inr (Or.inl ⟨'\\', by decide, rfl⟩)
  unfold escapeChar
  rw [if_neg hquote, if_neg hbackslash]
  -- the five controls that have a letter
  iterate 5
    split
    · subst c
      exact Or.inr (Or.inl ⟨_, by decide, rfl⟩)
  split
  · rename_i hc
    exact Or.inr (Or.inr ⟨hc, rfl⟩)
  · rename_i hc
    exact Or.inl ⟨Nat.le_of_not_lt hc, hquote, hbackslash, rfl⟩

/-- A control character is spelled by the number that is written for it. -/
theorem isHex_control : ∀ n < 0x20,
    IsHex ['0', '0', Nat.digitChar (n / 16), Nat.digitChar (n % 16)] n := by
  unfold IsHex
  decide

theorem spells_escapeChar_append (c : Char) {w cs : List Char} (h : Spells w cs) :
    Spells (escapeChar c ++ w) (c :: cs) := by
  obtain ⟨hc, hquote, hbackslash, heq⟩ | ⟨e, he, heq⟩ | ⟨hc, heq⟩ := escapeChar_cases c
  · rw [heq]
    exact .plain hc hquote hbackslash h
  · rw [heq]
    exact .escape (.letter he) h
  · rw [heq]
    exact .escape (.codePoint (isHex_control _ hc)) h

theorem spells_flatMap_escapeChar : ∀ cs : List Char, Spells (cs.flatMap escapeChar) cs
  | [] => .nil
  | c :: cs => by
    rw [List.flatMap_cons]
    exact spells_escapeChar_append c (spells_flatMap_escapeChar cs)

/-- **A written string spells its text.** -/
theorem quotes_stringText (s : String) : Quotes (stringText s) s.toList :=
  ⟨_, spells_flatMap_escapeChar s.toList, rfl⟩

/-- What is read from behind the opening quote of a written string is its text. -/
theorem read_stringText_append (s : String) (rest : List Char) :
    ∃ w, stringText s ++ rest = '"' :: w ∧ Literal.read w = .ok (s.toList, rest) := by
  refine ⟨s.toList.flatMap escapeChar ++ '"' :: rest, ?_,
    read_append (spells_flatMap_escapeChar s.toList) rest⟩
  simp only [stringText, List.cons_append, List.append_assoc, List.nil_append]

/-- **A text starts with one string only.** -/
theorem stringText_append_inj {s t : String} {r r' : List Char}
    (h : stringText s ++ r = stringText t ++ r') : s = t ∧ r = r' := by
  obtain ⟨w, hw, hread⟩ := read_stringText_append s r
  obtain ⟨w', hw', hread'⟩ := read_stringText_append t r'
  obtain rfl := (List.cons.inj (hw.symm.trans (h.trans hw'))).2
  rw [hread'] at hread
  obtain ⟨hs, hr⟩ := Prod.mk.inj (Except.ok.inj hread)
  exact ⟨(String.toList_injective hs).symm, hr.symm⟩

end CardText.Json
