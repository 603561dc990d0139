import CardText.Card.ReadError
import CardText.Text.Character

/-!
# Strings in the text of a card

A string of the text that `parse_input` reads is read from behind its opening quote on. An escape of
four hexadecimal digits gives a character of the basic plane; a character beyond it is a pair of
escapes, whose halves are no characters of their own. Characters below U+0020 have to be escaped.
-/

namespace CardText.Literal

open Text

/-- The failure of four bytes that are no hexadecimal digits, or of fewer than four. -/
def notHex (s : List Char) : Failure :=
  if Text.byteCount s < 4 then .ended .endInString else ⟨.invalidEscape, s, 4⟩

/-- The number that four hexadecimal digits spell. -/
def readHex (s : List Char) : Except Failure (Nat × List Char) :=
  match s with
  | a :: b :: c :: d :: rest =>
    match hexFrom? 0 [a, b, c, d] with
    | some n => .ok (n, rest)
    | none => .error (notHex s)
  | _ => .error (notHex s)

/-- Whether a number is the first half of a pair. -/
def isHighHalf (n : Nat) : Bool := 0xD800 ≤ n && n ≤ 0xDBFF

/-- Whether a number is the second half of a pair. -/
def isLowHalf (n : Nat) : Bool := 0xDC00 ≤ n && n ≤ 0xDFFF

/-- The character of a pair. -/
def joinHalves (high low : Nat) : Char :=
  Char.ofNat ((high - 0xD800) * 0x400 + (low - 0xDC00) + 0x10000)

/-- The second half of a pair, from behind the first half on. -/
def readLowHalf (high : Nat) (s : List Char) : Except Failure (Char × List Char) :=
  match s with
  | [] => .error (.ended .endInString)
  | ['\\'] => .error (.ended .endInString)
  | '\\' :: 'u' :: r =>
    match readHex r with
    | .error f => .error f
    | .ok (low, rest) =>
      if isLowHalf low then .ok (joinHalves high low, rest)
      else .error (.before .loneSurrogate rest)
  | '\\' :: r => .error (.onByte .unfinishedSurrogate r)
  | s => .error (.onByte .unfinishedSurrogate s)

/-- An escape by number, from behind the `u` on. -/
def readCodePoint (s : List Char) : Except Failure (Char × List Char) :=
  match readHex s with
  | .error f => .error f
  | .ok (n, rest) =>
    if isLowHalf n then .error (.before .loneSurrogate rest)
    else if isHighHalf n then readLowHalf n rest
    else .ok (Char.ofNat n, rest)

/-- The character that a letter behind a backslash stands for. -/
def escaped? (c : Char) : Option Char :=
  if c = '"' ∨ c = '\\' ∨ c = '/' then some c
  else if c = 'b' then some '\x08'
  else if c = 'f' then some '\x0c'
  else if c = 'n' then some '\n'
  else if c = 'r' then some '\r'
  else if c = 't' then some '\t'
  else none

/-- An escape, from behind the backslash on. -/
def readEscape (s : List Char) : Except Failure (Char × List Char) :=
  match s with
  | [] => .error (.ended .endInString)
  | 'u' :: r => readCodePoint r
  | c :: r =>
    match escaped? c with
    | some d => .ok (d, r)
    | none => .error (.onByte .invalidEscape (c :: r))

theorem length_of_readHex {s : List Char} {n : Nat} {rest : List Char}
    (h : readHex s = .ok (n, rest)) : rest.length < s.length := by
  unfold readHex at h
  split at h
  · split at h
    · obtain ⟨-, rfl⟩ := Prod.mk.inj (Except.ok.inj h)
      simp only [List.length_cons]
      omega
    · cases h
  · cases h

theorem length_of_readLowHalf {high : Nat} {s : List Char} {c : Char} {rest : List Char}
    (h : readLowHalf high s = .ok (c, rest)) : rest.length < s.length := by
  unfold readLowHalf at h
  split at h
  · cases h
  · cases h
  · split at h
    · cases h
    · rename_i hr
      split at h
      · obtain ⟨-, rfl⟩ := Prod.mk.inj (Except.ok.inj h)
        have := length_of_readHex hr
        simp only [List.length_cons]
        omega
      · cases h
  · cases h
  · cases h

theorem length_of_readEscape {s : List Char} {c : Char} {rest : List Char}
    (h : readEscape s = .ok (c, rest)) : rest.length < s.length := by
  unfold readEscape at h
  split at h
  · cases h
  · rename_i r
    unfold readCodePoint at h
    split at h
    · cases h
    · rename_i hr
      have := length_of_readHex hr
      simp only [List.length_cons]
      split at h
      · cases h
      · split at h
        · have := length_of_readLowHalf h
          omega
        · obtain ⟨-, rfl⟩ := Prod.mk.inj (Except.ok.inj h)
          omega
  · split at h
    · obtain ⟨-, rfl⟩ := Prod.mk.inj (Except.ok.inj h)
      simp
    · cases h

/-- A string and what comes behind its closing quote. -/
def read (s : List Char) : Except Failure (List Char × List Char) :=
  match s with
  | [] => .error (.ended .endInString)
  | '"' :: r => .ok ([], r)
  | '\\' :: r =>
    match _h : readEscape r with
    | .error f => .error f
    | .ok (c, r') => (read r').map fun (cs, rest) => (c :: cs, rest)
  | c :: r =>
    if c.toNat < 0x20 then .error (.onByte .controlCharacter (c :: r))
    else (read r).map fun (cs, rest) => (c :: cs, rest)
termination_by s.length
decreasing_by
  · have := length_of_readEscape _h
    simp only [List.length_cons]
    omega
  · simp only [List.length_cons]
    omega

/-- What was read when a list was read behind its first item. -/
theorem exists_of_map_ok {α : Type} {r : Except Failure (List α × List Char)} {a : α}
    {as : List α} {rest : List Char}
    (h : (r.map fun (as, rest) => (a :: as, rest)) = .ok (as, rest)) :
    ∃ as', r = .ok (as', rest) ∧ as = a :: as' := by
  cases r with
  | error f => cases h
  | ok p =>
    obtain ⟨as', rest'⟩ := p
    obtain ⟨rfl, rfl⟩ := Prod.mk.inj (Except.ok.inj h)
    exact ⟨as', rfl, rfl⟩

theorem length_of_read {s cs rest : List Char} (h : read s = .ok (cs, rest)) :
    rest.length < s.length := by
  induction hn : s.length using Nat.strongRecOn generalizing s cs rest with
  | ind n ih =>
    subst hn
    unfold read at h
    split at h
    · cases h
    · obtain ⟨-, rfl⟩ := Prod.mk.inj (Except.ok.inj h)
      simp
    · split at h
      · cases h
      · rename_i he
        obtain ⟨cs', h', -⟩ := exists_of_map_ok h
        have h1 := length_of_readEscape he
        have h2 := ih _ (by simp only [List.length_cons]; omega) h' rfl
        simp only [List.length_cons]
        omega
    · split at h
      · cases h
      · obtain ⟨cs', h', -⟩ := exists_of_map_ok h
        have h2 := ih _ (by simp) h' rfl
        simp only [List.length_cons]
        omega

end CardText.Literal
