import CardText.Decimal.Shortest
import CardText.Text.Position
import CardText.Text.Quoted
import CardText.Tier

/-!
# What can be wrong with the text of a card

A card is read from the left, and `parse_input` reports the first problem in reading order. A
problem is its cause and the place where reading stopped; the place is kept as the text that was
still ahead, and it becomes a line and a column only when the error is shown.

There are three kinds: the text ends too early, it breaks the rules of JSON, or it is JSON of a
shape that no card has.
-/

namespace CardText

/-- A value that stands where another is due. -/
inductive Found
  | null
  | bool (b : Bool)
  | integer (n : Int)
  | float (negative : Bool) (x : Decimal.Binary64)
  | string (s : List Char)
  | sequence
  | map
  deriving DecidableEq

/-- What a card has: a list of lines, lines of texts by tier, and texts. -/
inductive Due
  | sequence
  | map
  | string
  deriving DecidableEq

/-- Why a text is no card. -/
inductive Cause
  /-- the text ends where a value is due -/
  | endInValue
  /-- the text ends inside a list -/
  | endInList
  /-- the text ends inside an object -/
  | endInObject
  /-- the text ends inside a string -/
  | endInString
  /-- no value starts like this -/
  | expectedValue
  /-- the start of `true`, `false` or `null` does not go on like this -/
  | expectedIdent
  /-- neither a comma nor the end of the list -/
  | expectedListEnd
  /-- neither a comma nor the end of the object -/
  | expectedObjectEnd
  /-- no colon behind a key -/
  | expectedColon
  /-- a key without quotes -/
  | keyNotString
  /-- nothing behind a comma -/
  | trailingComma
  /-- something behind the card -/
  | trailingCharacters
  /-- no number is spelled like this -/
  | invalidNumber
  /-- a number that is too large -/
  | numberOutOfRange
  /-- a control character in a string -/
  | controlCharacter
  /-- no escape is spelled like this -/
  | invalidEscape
  /-- half of a pair of escapes that lacks the other half before it or has a wrong one behind it -/
  | loneSurrogate
  /-- the first half of a pair of escapes without another escape behind it -/
  | unfinishedSurrogate
  /-- a value of the wrong type -/
  | wrongType (found : Found) (due : Due)
  /-- a key that names no tier -/
  | invalidTier (name : List Char)
  deriving DecidableEq

/-- The kinds of causes. -/
inductive ReadErrorKind
  | syntactic
  | data
  | ending
  deriving DecidableEq

namespace Found

/-- How a message names the value. -/
def describe : Found → List Char
  | null => "null".toList
  | bool b => "boolean `".toList ++ (if b then "true" else "false").toList ++ ['`']
  | integer n => "integer `".toList ++ Text.signedDecimal n ++ ['`']
  | float negative x => "floating point `".toList ++ x.text negative ++ ['`']
  | string s => "string ".toList ++ Text.quoted s
  | sequence => "sequence".toList
  | map => "map".toList

end Found

namespace Due

/-- How a message names what is due. -/
def describe : Due → List Char
  | sequence => "a sequence".toList
  | map => "a map".toList
  | string => "a string".toList

end Due

namespace Cause

/-- The kind of a cause. -/
def kind : Cause → ReadErrorKind
  | endInValue | endInList | endInObject | endInString => .ending
  | wrongType _ _ | invalidTier _ => .data
  | _ => .syntactic

/-- The message of a cause, without the position. -/
def message : Cause → List Char
  | endInValue => "EOF while parsing a value".toList
  | endInList => "EOF while parsing a list".toList
  | endInObject => "EOF while parsing an object".toList
  | endInString => "EOF while parsing a string".toList
  | expectedValue => "expected value".toList
  | expectedIdent => "expected ident".toList
  | expectedListEnd => "expected `,` or `]`".toList
  | expectedObjectEnd => "expected `,` or `\x7d`".toList
  | expectedColon => "expected `:`".toList
  | keyNotString => "key must be a string".toList
  | trailingComma => "trailing comma".toList
  | trailingCharacters => "trailing characters".toList
  | invalidNumber => "invalid number".toList
  | numberOutOfRange => "number out of range".toList
  | controlCharacter =>
    "control character (\\u0000-\\u001F) found while parsing a string".toList
  | invalidEscape => "invalid escape".toList
  | loneSurrogate => "lone leading surrogate in hex escape".toList
  | unfinishedSurrogate => "unexpected end of hex escape".toList
  | wrongType found due =>
    "invalid type: ".toList ++ found.describe ++ ", expected ".toList ++ due.describe
  | invalidTier name => (Tier.invalidName (String.ofList name)).toList

end Cause

/-- A cause and the place where reading stopped: so many bytes into what was ahead. -/
structure Failure where
  cause : Cause
  ahead : List Char
  bytes : Nat := 0
  deriving DecidableEq

/-- Why a text is no card, and where reading stopped. -/
structure ReadError where
  cause : Cause
  stopped : Text.Position
  deriving DecidableEq

namespace Failure

/-- The text ended. -/
def ended (cause : Cause) : Failure := ⟨cause, [], 0⟩

/-- The problem is the first byte of what is ahead, and that byte counts as read. -/
def onByte (cause : Cause) (ahead : List Char) : Failure := ⟨cause, ahead, 1⟩

/-- The problem shows before what is ahead. -/
def before (cause : Cause) (ahead : List Char) : Failure := ⟨cause, ahead, 0⟩

/-- The number of bytes of a text before the place. -/
def offset (f : Failure) (text : List Char) : Nat :=
  Text.byteCount text - Text.byteCount f.ahead + f.bytes

/-- The failure as an error in a text. -/
def inText (f : Failure) (text : List Char) : ReadError :=
  ⟨f.cause, .ofOffset text (f.offset text)⟩

end Failure

namespace ReadError

/-- The kind of the error's cause. -/
def kind (e : ReadError) : ReadErrorKind := e.cause.kind

/-- The message of the cause and the position that is told. A message that ends with a position, as
one on a tier of such a name does, is taken at its word; lines start at 1, so line 0 tells
nothing. -/
def told (e : ReadError) : List Char × Text.Position :=
  match Text.Position.atEnd? e.cause.message with
  | some (what, p) => (what, if p.line = 0 then e.stopped else p)
  | none => (e.cause.message, e.stopped)

/-- What is wrong and where. -/
def message (e : ReadError) : List Char := e.told.1 ++ e.told.2.describe

/-- What an error means for the card. -/
def meaning : String := "invalid tooltip input"

/-- What the error means, and what is wrong and where. -/
def summary (e : ReadError) : String := meaning ++ ": " ++ String.ofList e.message

end ReadError

end CardText
