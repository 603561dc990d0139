import CardText.Document.Basic
import CardText.Card.Literal
import CardText.Card.Numeral

/-!
# Reading a card

A card is read from a JSON text (`parse_input`): a list of objects that map names of tiers to
strings. White space may stand around every part. A key may come twice in an object, and its last
text stays.

The text is read once from the left. A value of another type is read to its end before it is
reported, but a list or an object in the wrong place is reported before its bracket. A key that
names no tier is reported when the reader has passed the white space behind it, and the end of the
object if that comes next.
-/

namespace CardText.Reader

/-- White space in JSON. -/
def isBlank (c : Char) : Bool := c = ' ' || c = '\t' || c = '\n' || c = '\r'

/-- The text behind its white space. -/
def skipBlank (s : List Char) : List Char := s.dropWhile isBlank

theorem length_skipBlank_le (s : List Char) : (skipBlank s).length ≤ s.length := by
  induction s with
  | nil => exact Nat.le_refl _
  | cons c s ih =>
    unfold skipBlank at ih ⊢
    rw [List.dropWhile_cons]
    split
    · exact Nat.le_succ_of_le ih
    · exact Nat.le_refl _

/-- The rest of a word of which the first letter has been read. -/
def readIdent : List Char → List Char → Except Failure (List Char)
  | [], s => .ok s
  | _ :: _, [] => .error (.ended .endInValue)
  | e :: es, c :: s => if c = e then readIdent es s else .error (.onByte .expectedIdent (c :: s))

/-- What is wrong with a value that is not of the type that is due. -/
def misplaced (due : Due) (s : List Char) : Failure :=
  let wrong (found : Found) (rest : List Char) : Failure := .before (.wrongType found due) rest
  let word (found : Found) (r : Except Failure (List Char)) : Failure :=
    match r with
    | .error f => f
    | .ok rest => wrong found rest
  let number (r : Except Failure (Found × List Char)) : Failure :=
    match r with
    | .error f => f
    | .ok (found, rest) => wrong found rest
  match s with
  | [] => .ended .endInValue
  | 'n' :: r => word .null (readIdent "ull".toList r)
  | 't' :: r => word (.bool true) (readIdent "rue".toList r)
  | 'f' :: r => word (.bool false) (readIdent "alse".toList r)
  | '-' :: r => number (Numeral.read true r)
  | '"' :: r =>
    match Literal.read r with
    | .error f => f
    | .ok (cs, rest) => wrong (.string cs) rest
  | '[' :: r => wrong .sequence ('[' :: r)
  | '{' :: r => wrong .map ('{' :: r)
  | c :: r =>
    if Numeral.isNumeral c then number (Numeral.read false (c :: r))
    else .onByte .expectedValue (c :: r)

/-- Where a key that names no tier is reported: behind the white space and the end of the object. -/
def behindBadKey (s : List Char) : List Char :=
  match skipBlank s with
  | '}' :: r => r
  | r => r

/-- A text, with white space before it. -/
def readText (s : List Char) : Except Failure (List Char × List Char) :=
  match skipBlank s with
  | [] => .error (.ended .endInValue)
  | '"' :: r => Literal.read r
  | s => .error (misplaced .string s)

/-- The colon behind a key. -/
def readColon (s : List Char) : Except Failure (List Char) :=
  match skipBlank s with
  | [] => .error (.ended .endInObject)
  | ':' :: r => .ok r
  | s => .error (.onByte .expectedColon s)

/-- A tier and its text, from behind the opening quote of the key on. -/
def readMember (s : List Char) : Except Failure ((Tier × String) × List Char) :=
  match Literal.read s with
  | .error f => .error f
  | .ok (name, r) =>
    match Tier.ofName? (String.ofList name) with
    | none => .error (.before (.invalidTier name) (behindBadKey r))
    | some tier =>
      match readColon r with
      | .error f => .error f
      | .ok r =>
        match readText r with
        | .error f => .error f
        | .ok (text, rest) => .ok ((tier, String.ofList text), rest)

theorem length_of_readColon {s rest : List Char} (h : readColon s = .ok rest) :
    rest.length < s.length := by
  have hs := length_skipBlank_le s
  unfold readColon at h
  split at h
  · cases h
  · rename_i heq
    obtain rfl := Except.ok.inj h
    rw [heq] at hs
    exact hs
  · cases h

theorem length_of_readText {s cs rest : List Char} (h : readText s = .ok (cs, rest)) :
    rest.length < s.length := by
  have hs := length_skipBlank_le s
  unfold readText at h
  split at h
  · cases h
  · rename_i heq
    have := Literal.length_of_read h
    rw [heq, List.length_cons] at hs
    omega
  · cases h

theorem length_of_readMember {s : List Char} {m : Tier × String} {rest : List Char}
    (h : readMember s = .ok (m, rest)) : rest.length < s.length := by
  unfold readMember at h
  split at h
  · cases h
  · rename_i h1
    split at h
    · cases h
    · split at h
      · cases h
      · rename_i h2
        split at h
        · cases h
        · rename_i h3
          obtain ⟨-, rfl⟩ := Prod.mk.inj (Except.ok.inj h)
          have := Literal.length_of_read h1
          have := length_of_readColon h2
          have := length_of_readText h3
          omega

/-- What comes next in a list or in an object. -/
inductive Next
  /-- an element: a value from its first character on, or a member from behind its first quote -/
  | element (s : List Char)
  /-- the end, and what is behind it -/
  | close (rest : List Char)

/-- The text that is left. -/
def Next.rest : Next → List Char
  | element s => s
  | close s => s

/-- The next member of an object, or its end. Members but the first stand behind a comma. -/
def nextMember (first : Bool) (s : List Char) : Except Failure Next :=
  match skipBlank s with
  | [] => .error (.ended .endInObject)
  | '}' :: r => .ok (.close r)
  | c :: r =>
    if first then
      if c = '"' then .ok (.element r) else .error (.onByte .keyNotString (c :: r))
    else if c = ',' then
      match skipBlank r with
      | [] => .error (.ended .endInValue)
      | '"' :: r => .ok (.element r)
      | '}' :: r => .error (.onByte .trailingComma ('}' :: r))
      | s => .error (.onByte .keyNotString s)
    else .error (.onByte .expectedObjectEnd (c :: r))

theorem length_of_nextMember {first : Bool} {s : List Char} {n : Next}
    (h : nextMember first s = .ok n) : n.rest.length < s.length := by
  have hs := length_skipBlank_le s
  unfold nextMember at h
  split at h
  · cases h
  · rename_i heq
    obtain rfl := Except.ok.inj h
    rw [heq] at hs
    exact hs
  · rename_i c r _ heq
    rw [heq, List.length_cons] at hs
    split at h
    · split at h
      · obtain rfl := Except.ok.inj h
        exact hs
      · cases h
    · split at h
      · have hr := length_skipBlank_le r
        split at h
        · cases h
        · rename_i heq'
          obtain rfl := Except.ok.inj h
          rw [heq', List.length_cons] at hr
          simp only [Next.rest]
          omega
        · cases h
        · cases h
      · cases h

/-- The members of an object up to its end, put into a line that has been read so far. -/
def readMembers (first : Bool) (line : Line) (s : List Char) : Except Failure (Line × List Char) :=
  match _hn : nextMember first s with
  | .error f => .error f
  | .ok (.close rest) => .ok (line, rest)
  | .ok (.element r) =>
    match _hm : readMember r with
    | .error f => .error f
    | .ok (m, rest) => readMembers false (line.insert m.1 m.2) rest
termination_by s.length
decreasing_by
  have := length_of_nextMember _hn
  have := length_of_readMember _hm
  simp only [Next.rest] at *
  omega

theorem length_of_readMembers {first : Bool} {line line' : Line} {s rest : List Char}
    (h : readMembers first line s = .ok (line', rest)) : rest.length < s.length := by
  induction hn : s.length using Nat.strongRecOn generalizing first line s with
  | ind n ih =>
    subst hn
    unfold readMembers at h
    split at h
    · cases h
    · rename_i h1
      obtain ⟨-, rfl⟩ := Prod.mk.inj (Except.ok.inj h)
      exact length_of_nextMember h1
    · rename_i h1
      have h1 := length_of_nextMember h1
      split at h
      · cases h
      · rename_i h2
        have h2 := length_of_readMember h2
        simp only [Next.rest] at h1
        have := ih _ (by omega) h rfl
        omega

/-- A line, from its first character on. -/
def readLine (s : List Char) : Except Failure (Line × List Char) :=
  match s with
  | '{' :: r => readMembers true .empty r
  | s => .error (misplaced .map s)

theorem length_of_readLine {s rest : List Char} {line : Line}
    (h : readLine s = .ok (line, rest)) : rest.length < s.length := by
  unfold readLine at h
  split at h
  · have := length_of_readMembers h
    simp only [List.length_cons]
    omega
  · cases h

/-- The next element of a list, or its end. Elements but the first stand behind a comma. -/
def nextElement (first : Bool) (s : List Char) : Except Failure Next :=
  match skipBlank s with
  | [] => .error (.ended .endInList)
  | ']' :: r => .ok (.close r)
  | c :: r =>
    if first then .ok (.element (c :: r))
    else if c = ',' then
      match skipBlank r with
      | [] => .error (.ended .endInValue)
      | ']' :: r => .error (.onByte .trailingComma (']' :: r))
      | s => .ok (.element s)
    else .error (.onByte .expectedListEnd (c :: r))

theorem length_of_nextElement {first : Bool} {s : List Char} {n : Next}
    (h : nextElement first s = .ok n) : n.rest.length ≤ s.length := by
  have hs := length_skipBlank_le s
  unfold nextElement at h
  split at h
  · cases h
  · rename_i heq
    obtain rfl := Except.ok.inj h
    rw [heq, List.length_cons] at hs
    simp only [Next.rest]
    omega
  · rename_i c r _ heq
    rw [heq] at hs
    split at h
    · obtain rfl := Except.ok.inj h
      exact hs
    · split at h
      · have hr := length_skipBlank_le r
        split at h
        · cases h
        · cases h
        · obtain rfl := Except.ok.inj h
          simp only [Next.rest, List.length_cons] at *
          omega
      · cases h

/-- The lines of a list up to its end. -/
def readLines (first : Bool) (s : List Char) : Except Failure (Card × List Char) :=
  match _hn : nextElement first s with
  | .error f => .error f
  | .ok (.close rest) => .ok ([], rest)
  | .ok (.element r) =>
    match _hl : readLine r with
    | .error f => .error f
    | .ok (line, rest) => (readLines false rest).map fun (lines, rest) => (line :: lines, rest)
termination_by s.length
decreasing_by
  have := length_of_nextElement _hn
  have := length_of_readLine _hl
  simp only [Next.rest] at *
  omega

/-- A card, with white space around it. -/
def read (s : List Char) : Except Failure Card :=
  match skipBlank s with
  | [] => .error (.ended .endInValue)
  | '[' :: r =>
    match readLines true r with
    | .error f => .error f
    | .ok (card, rest) =>
      match skipBlank rest with
      | [] => .ok card
      | rest => .error (.onByte .trailingCharacters rest)
  | s => .error (misplaced .sequence s)

end CardText.Reader

namespace CardText.Card

/-- The card of a text, or what is wrong with the text. -/
def read (text : String) : Except ReadError Card :=
  match Reader.read text.toList with
  | .ok card => .ok card
  | .error f => .error (f.inText text.toList)

end CardText.Card
