import CardText.Text.Character

/-!
# Strings in a settings file

In a settings file (`load`) a string stands between quotes or between apostrophes, three of them at
each end if it goes over several lines. Between quotes a backslash starts an escape; between
apostrophes it is a character like any other. A line feed right behind the opening marks of a string
of several lines does not belong to it, and between quotes neither does the white space behind a
backslash that ends a line. One or two marks in a row are part of such a string, even right before
its end.

No string holds control characters, except tabs and, if it goes over several lines, line feeds. The
readers start behind the opening marks, and line ends are line feeds alone.
-/

namespace CardText.Settings

open Text

/-- A blank inside a line. -/
def isBlank (c : Char) : Bool := c = ' ' || c = '\t'

/-- A character that may stand anywhere in a line. -/
def isPlain (c : Char) : Bool := c = '\t' || (0x20 ≤ c.toNat && c.toNat ≠ 0x7F)

/-- The character of a code point; half of a pair has none. -/
def ofCodePoint? (n : Nat) : Option Char := if n.isValidChar then some (Char.ofNat n) else none

/-- An escape by number, of a fixed count of digits. -/
def readCodePoint (count : Nat) (s : List Char) : Option (Char × List Char) :=
  if s.length < count then none
  else ((hexFrom? 0 (s.take count)).bind ofCodePoint?).map fun c => (c, s.drop count)

/-- The character that a letter behind a backslash stands for. -/
def escaped? (c : Char) : Option Char :=
  if c = '"' ∨ c = '\\' then some c
  else if c = 'b' then some '\x08'
  else if c = 'f' then some '\x0c'
  else if c = 'n' then some '\n'
  else if c = 'r' then some '\r'
  else if c = 't' then some '\t'
  else none

/-- An escape, from behind the backslash on. -/
def readEscape (s : List Char) : Option (Char × List Char) :=
  match s with
  | [] => none
  | 'u' :: r => readCodePoint 4 r
  | 'U' :: r => readCodePoint 8 r
  | c :: r => (escaped? c).map fun d => (d, r)

theorem length_of_readEscape {s : List Char} {c : Char} {rest : List Char}
    (h : readEscape s = some (c, rest)) : rest.length < s.length := by
  have key : ∀ {count : Nat} {r : List Char}, readCodePoint count r = some (c, rest) →
      rest.length ≤ r.length := by
    intro count r h
    unfold readCodePoint at h
    split at h
    · cases h
    · obtain ⟨d, -, hd⟩ := Option.map_eq_some_iff.mp h
      obtain ⟨-, rfl⟩ := Prod.mk.inj hd
      rw [List.length_drop]
      omega
  unfold readEscape at h
  split at h
  · cases h
  · exact Nat.lt_succ_of_le (key h)
  · exact Nat.lt_succ_of_le (key h)
  · obtain ⟨d, -, hd⟩ := Option.map_eq_some_iff.mp h
    obtain ⟨-, rfl⟩ := Prod.mk.inj hd
    exact Nat.lt_succ_self _

/-- The character put before what has been read behind it. -/
def consRead (c : Char) (r : Option (List Char × List Char)) : Option (List Char × List Char) :=
  r.map fun (cs, rest) => (c :: cs, rest)

/-- A string in one line, up to its closing mark. -/
def readInLine (mark : Char) (s : List Char) : Option (List Char × List Char) :=
  match s with
  | [] => none
  | c :: r =>
    if c = mark then some ([], r)
    else if c = '\\' ∧ mark = '"' then
      match _h : readEscape r with
      | some (d, r') => consRead d (readInLine mark r')
      | none => none
    else if isPlain c then consRead c (readInLine mark r)
    else none
termination_by s.length
decreasing_by
  · have := length_of_readEscape _h
    simp only [List.length_cons]
    omega
  · simp only [List.length_cons]
    omega

/-- The marks in a row at the start of a text. -/
def countMarks (mark : Char) (s : List Char) : Nat := (s.takeWhile fun c => c = mark).length

/-- The text behind the marks at its start. -/
def dropMarks (mark : Char) (s : List Char) : List Char := s.dropWhile fun c => c = mark

/-- The text behind the line end that a backslash hides, from behind the backslash on. -/
def readHiddenEnd (s : List Char) : Option (List Char) :=
  match s.dropWhile isBlank with
  | '\n' :: r => some (r.dropWhile fun c => isBlank c || c = '\n')
  | _ => none

theorem length_dropWhile_le (p : Char → Bool) (s : List Char) :
    (s.dropWhile p).length ≤ s.length := (List.dropWhile_suffix p).length_le

theorem length_of_readHiddenEnd {s rest : List Char} (h : readHiddenEnd s = some rest) :
    rest.length ≤ s.length := by
  have hs := length_dropWhile_le isBlank s
  unfold readHiddenEnd at h
  split at h
  · rename_i r heq
    obtain rfl := Option.some.inj h
    rw [heq, List.length_cons] at hs
    have := length_dropWhile_le (fun c => isBlank c || c = '\n') r
    omega
  · cases h

/-- A string over several lines, up to its three closing marks. -/
def readOverLines (mark : Char) (s : List Char) : Option (List Char × List Char) :=
  match s with
  | [] => none
  | c :: r =>
    if c = mark then
      if countMarks mark r < 2 then
        (readOverLines mark (dropMarks mark r)).map fun (cs, rest) =>
          (List.replicate (countMarks mark r + 1) mark ++ cs, rest)
      else if countMarks mark r ≤ 4 then
        some (List.replicate (countMarks mark r - 2) mark, dropMarks mark r)
      else none
    else if c = '\\' ∧ mark = '"' then
      match _h : readHiddenEnd r with
      | some r' => readOverLines mark r'
      | none =>
        match _h : readEscape r with
        | some (d, r') => consRead d (readOverLines mark r')
        | none => none
    else if isPlain c ∨ c = '\n' then consRead c (readOverLines mark r)
    else none
termination_by s.length
decreasing_by
  · have := length_dropWhile_le (fun c => c = mark) r
    simp only [dropMarks, List.length_cons]
    omega
  · have := length_of_readHiddenEnd _h
    simp only [List.length_cons]
    omega
  · have := length_of_readEscape _h
    simp only [List.length_cons]
    omega
  · simp only [List.length_cons]
    omega

/-- The text behind a line feed at its start. -/
def dropFirstEnd : List Char → List Char
  | '\n' :: r => r
  | s => s

/-- A string, from its first mark on. -/
def readString (s : List Char) : Option (List Char × List Char) :=
  match s with
  | [] => none
  | mark :: r =>
    if mark ≠ '"' ∧ mark ≠ '\'' then none
    else if countMarks mark r < 2 then readInLine mark r
    else readOverLines mark (dropFirstEnd (r.drop 2))

theorem length_dropMarks_le (mark : Char) (s : List Char) :
    (dropMarks mark s).length ≤ s.length := length_dropWhile_le _ s

theorem length_of_consRead {c : Char} {r : Option (List Char × List Char)} {cs rest : List Char}
    (h : consRead c r = some (cs, rest)) : ∃ cs', r = some (cs', rest) := by
  obtain ⟨⟨cs', rest'⟩, hr, he⟩ := Option.map_eq_some_iff.mp h
  obtain ⟨-, rfl⟩ := Prod.mk.inj he
  exact ⟨cs', hr⟩

theorem length_of_readInLine {mark : Char} {s cs rest : List Char}
    (h : readInLine mark s = some (cs, rest)) : rest.length < s.length := by
  fun_induction readInLine mark s generalizing cs with
  | case1 => cases h
  | case2 r =>
    obtain ⟨-, rfl⟩ := Prod.mk.inj (Option.some.inj h)
    exact Nat.lt_succ_self _
  | case3 c r _ _ d r' he ih =>
    obtain ⟨cs', h'⟩ := length_of_consRead h
    have := length_of_readEscape he
    have := ih h'
    simp only [List.length_cons]
    omega
  | case4 => cases h
  | case5 c r _ _ _ ih =>
    obtain ⟨cs', h'⟩ := length_of_consRead h
    exact Nat.lt_succ_of_lt (ih h')
  | case6 => cases h

theorem length_of_readOverLines {mark : Char} {s cs rest : List Char}
    (h : readOverLines mark s = some (cs, rest)) : rest.length < s.length := by
  fun_induction readOverLines mark s generalizing cs with
  | case1 => cases h
  | case2 r hn ih =>
    obtain ⟨⟨cs', rest'⟩, hr, he⟩ := Option.map_eq_some_iff.mp h
    obtain ⟨-, rfl⟩ := Prod.mk.inj he
    have := ih hr
    have := length_dropMarks_le mark r
    simp only [List.length_cons]
    omega
  | case3 r =>
    obtain ⟨-, rfl⟩ := Prod.mk.inj (Option.some.inj h)
    exact Nat.lt_succ_of_le (length_dropMarks_le _ _)
  | case4 => cases h
  | case5 c r _ _ r' he ih =>
    have := length_of_readHiddenEnd he
    have := ih h
    simp only [List.length_cons]
    omega
  | case6 c r _ _ _ d r' he ih =>
    obtain ⟨cs', h'⟩ := length_of_consRead h
    have := length_of_readEscape he
    have := ih h'
    simp only [List.length_cons]
    omega
  | case7 => cases h
  | case8 c r _ _ _ ih =>
    obtain ⟨cs', h'⟩ := length_of_consRead h
    exact Nat.lt_succ_of_lt (ih h')
  | case9 => cases h

theorem length_dropFirstEnd_le (s : List Char) : (dropFirstEnd s).length ≤ s.length := by
  unfold dropFirstEnd
  split
  · exact Nat.le_succ _
  · exact Nat.le_refl _

theorem length_of_readString {s cs rest : List Char} (h : readString s = some (cs, rest)) :
    rest.length ≤ s.length := by
  unfold readString at h
  split at h
  · cases h
  · rename_i mark r
    split at h
    · cases h
    · split at h
      · have := length_of_readInLine h
        simp only [List.length_cons]
        omega
      · have := length_of_readOverLines h
        have := length_dropFirstEnd_le (r.drop 2)
        simp only [List.length_drop, List.length_cons] at *
        omega

end CardText.Settings
