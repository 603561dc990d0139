import CardText.Text.Character

/-!
# Positions in a text

The error of `parse_input` tells the position where reading stopped. A position is given by lines
from 1 on and columns in bytes of the text's encoding, so that the column is the number of bytes of
the line before the position. Only a line feed ends a line.
-/

namespace CardText.Text

/-- A line from 1 on and the number of bytes of it that stand before. -/
structure Position where
  line : Nat
  column : Nat
  deriving DecidableEq

/-- The number of bytes of a text. -/
def byteCount : List Char → Nat
  | [] => 0
  | c :: cs => c.utf8Size + byteCount cs

namespace Position

/-- The position before the first byte. -/
def start : Position := ⟨1, 0⟩

/-- The position after one more character of `n` bytes or a part of it. -/
def after (p : Position) (c : Char) (n : Nat) : Position :=
  if c = '\n' then ⟨p.line + 1, 0⟩ else ⟨p.line, p.column + n⟩

/-- The position that lies `n` bytes on. It may lie inside a character, but not past the end. -/
def advance (p : Position) : List Char → Nat → Position
  | [], _ => p
  | c :: cs, n =>
    if n = 0 then p
    else if n < c.utf8Size then p.after c n
    else (p.after c c.utf8Size).advance cs (n - c.utf8Size)

/-- The position behind the first `n` bytes of a text. -/
def ofOffset (text : List Char) (n : Nat) : Position := start.advance text n

/-- How a message says where it happened. -/
def describe (p : Position) : List Char :=
  " at line ".toList ++ decimal p.line ++ " column ".toList ++ decimal p.column

/-- Splits a text at the last place where a mark stands, and drops the mark. -/
def splitAtLast? (mark : List Char) : List Char → Option (List Char × List Char)
  | [] => none
  | c :: cs =>
    match splitAtLast? mark cs with
    | some (before, behind) => some (c :: before, behind)
    | none =>
      if mark.isPrefixOf (c :: cs) then some ([], (c :: cs).drop mark.length) else none

/-- The greatest line or column that can be told. -/
def maxTold : Nat := 0xFFFFFFFFFFFFFFFF

/-- The number that a text of digits tells. -/
def told? (s : List Char) : Option Nat :=
  if s.isEmpty then none else (natFrom? 0 s).filter (· ≤ maxTold)

/-- The position that a message ends with, and the message without it. Only the last place where a
message speaks of a line counts. -/
def atEnd? (message : List Char) : Option (List Char × Position) := do
  let (before, behind) ← splitAtLast? " at line ".toList message
  let line ← told? (behind.takeWhile fun c => (digitValue? c).isSome)
  let behind := behind.dropWhile fun c => (digitValue? c).isSome
  guard (" column ".toList.isPrefixOf behind)
  let column ← told? (behind.drop " column ".length)
  return (before, ⟨line, column⟩)

end Position

end CardText.Text
