import CardText.Text.Character

/-!
# Patterns

A pattern is a row of pieces: characters that have to stand there, runs of digits, and places where
one apostrophe may stand. It is looked for in a text from the left, and the first place where it
matches counts. A run of digits always takes all the digits there are; since no pattern asks for a
digit right behind a run, or for an apostrophe right behind a possible one, nothing is lost by that.

A pattern may be bound to the start of the text, and it may take its letters in either case. What is
asked of a pattern is whether it occurs (`is_match`) and which number one of its runs of digits
spells (`capture_number`).
-/

namespace CardText

/-- One piece of a pattern. -/
inductive Piece
  /-- this character -/
  | char (c : Char)
  /-- one apostrophe, straight or curly, or nothing -/
  | apostrophe
  /-- one or more digits; a captured run can be asked for by its number -/
  | digits (captured : Bool)
  deriving DecidableEq

/-- What is looked for in a text. -/
structure Pattern where
  pieces : List Piece
  /-- matches at the start of the text only -/
  anchored : Bool := false
  /-- takes letters in either case -/
  anyCase : Bool := false
  deriving DecidableEq

/-- A place where a pattern matches: the characters it takes, the captured runs among them from
left to right, and what comes after. -/
structure Match where
  taken : List Char
  groups : List (List Char)
  rest : List Char
  deriving DecidableEq

namespace Piece

/-- The pieces for the characters of a phrase. -/
def phrase (s : String) : List Piece := s.toList.map char

/-- A number that can be asked for. -/
def number : List Piece := [digits true]

/-- Whether a character is an apostrophe, straight or curly. -/
def isApostrophe (c : Char) : Bool := c = '\'' || c = '’'

end Piece

namespace Match

/-- The match with characters before it that belong to no captured run. -/
def skipping (m : Match) (cs : List Char) : Match := { m with taken := cs ++ m.taken }

/-- The match with a captured run before it. -/
def capturing (m : Match) (run : List Char) : Match :=
  { m with taken := run ++ m.taken, groups := run :: m.groups }

/-- The number that a group spells: group 0 is all of the match, group `n + 1` the captured run
number `n`. -/
def number? (m : Match) : Nat → Option Int
  | 0 => Text.number? m.taken
  | n + 1 => m.groups[n]?.bind Text.number?

end Match

namespace Pattern

/-- Whether a character of a text may stand where the pattern has `c`. -/
def accepts (anyCase : Bool) (c a : Char) : Bool :=
  if anyCase then Text.sameFolded c a else c = a

/-- The match of the pieces at the start of a text. -/
def matchPieces (anyCase : Bool) : List Piece → List Char → Option Match
  | [], s => some ⟨[], [], s⟩
  | .char _ :: _, [] => none
  | .char c :: ps, a :: s =>
    if accepts anyCase c a then (matchPieces anyCase ps s).map (·.skipping [a]) else none
  | .apostrophe :: ps, [] => matchPieces anyCase ps []
  | .apostrophe :: ps, a :: s =>
    if Piece.isApostrophe a then (matchPieces anyCase ps s).map (·.skipping [a])
    else matchPieces anyCase ps (a :: s)
  | .digits captured :: ps, s =>
    match s.takeWhile Text.isDigit with
    | [] => none
    | d :: ds =>
      (matchPieces anyCase ps (s.dropWhile Text.isDigit)).map fun m =>
        if captured then m.capturing (d :: ds) else m.skipping (d :: ds)

/-- The match at the start of a text. -/
def matchAt (p : Pattern) (s : List Char) : Option Match := matchPieces p.anyCase p.pieces s

/-- The match at the first place of a text that has one. -/
def findFrom (p : Pattern) : List Char → Option Match
  | [] => p.matchAt []
  | c :: s =>
    match p.matchAt (c :: s) with
    | some m => some m
    | none => p.findFrom s

/-- The match that counts: the first one in the text, or the one at its start. -/
def find (p : Pattern) (s : List Char) : Option Match :=
  if p.anchored then p.matchAt s else p.findFrom s

/-- Whether a pattern matches somewhere in a text (`is_match`). -/
def isMatch (p : Pattern) (text : String) : Bool := (p.find text.toList).isSome

/-- The number that a group of the match spells (`capture_number`). None when there is no match, no
such group, or the group spells no number that fits. -/
def capture (p : Pattern) (group : Nat) (text : String) : Option Int :=
  (p.find text.toList).bind fun m => m.number? group

end Pattern

end CardText
