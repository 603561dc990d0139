import CardText.Text.Character

/-!
# JSON

The values that a document is written as by `to_json`. Numbers are integers, and the fields of an
object stand in the order in which they are written.

A value has two texts. The compact one holds no white space outside of its strings. In the indented
one every item and every field stands on a line of its own, two spaces deeper than what it belongs
to, and a space follows the colon; an empty list or object takes no more than its two brackets.

In a string the quote, the backslash and the characters below U+0020 are escaped, and no others.
-/

namespace CardText

/-! ## Values -/

/-- A JSON value. -/
inductive Json
  | null
  | bool (b : Bool)
  | int (n : Int)
  | str (s : String)
  | arr (items : List Json)
  | obj (fields : List (String × Json))

namespace Json

/-- A value or null. -/
def ofOption {α : Type} (f : α → Json) : Option α → Json
  | none => null
  | some a => f a

/-- An object that names its kind first. -/
def tagged (kind : String) (fields : List (String × Json)) : Json :=
  obj (("$type", str kind) :: fields)

/-! ## Texts -/

/-- A character below U+0020 by its number of four hexadecimal digits. -/
def controlEscape (c : Char) : List Char :=
  ['\\', 'u', '0', '0', Nat.digitChar (c.toNat / 16), Nat.digitChar (c.toNat % 16)]

/-- A character as it stands in a string. -/
def escapeChar (c : Char) : List Char :=
  if c = '"' then ['\\', '"']
  else if c = '\\' then ['\\', '\\']
  else if c = '\x08' then ['\\', 'b']
  else if c = '\x0c' then ['\\', 'f']
  else if c = '\n' then ['\\', 'n']
  else if c = '\r' then ['\\', 'r']
  else if c = '\t' then ['\\', 't']
  else if c.toNat < 0x20 then controlEscape c
  else [c]

/-- The text of a string. -/
def stringText (s : String) : List Char := '"' :: s.toList.flatMap escapeChar ++ ['"']

/-- The text of a truth value. -/
def boolText (b : Bool) : List Char := if b then "true".toList else "false".toList

mutual

/-- The text of a value without white space. -/
def compact : Json → List Char
  | .null => "null".toList
  | .bool b => boolText b
  | .int n => Text.signedDecimal n
  | .str s => stringText s
  | .arr [] => ['[', ']']
  | .arr (v :: vs) => '[' :: compact v ++ compactItems vs ++ [']']
  | .obj [] => ['{', '}']
  | .obj ((k, v) :: fs) => '{' :: stringText k ++ ':' :: compact v ++ compactFields fs ++ ['}']

/-- The further items of a list, each behind a comma. -/
def compactItems : List Json → List Char
  | [] => []
  | v :: vs => ',' :: compact v ++ compactItems vs

/-- The further fields of an object, each behind a comma. -/
def compactFields : List (String × Json) → List Char
  | [] => []
  | (k, v) :: fs => ',' :: stringText k ++ ':' :: compact v ++ compactFields fs

end

/-- The start of a line at a depth. -/
def newline (depth : Nat) : List Char := '\n' :: List.replicate (2 * depth) ' '

mutual

/-- The text of a value whose first line is at a depth, with a line for every item and field. -/
def indented (depth : Nat) : Json → List Char
  | .null => "null".toList
  | .bool b => boolText b
  | .int n => Text.signedDecimal n
  | .str s => stringText s
  | .arr [] => ['[', ']']
  | .arr (v :: vs) =>
    '[' :: newline (depth + 1) ++ indented (depth + 1) v ++ indentedItems (depth + 1) vs ++
      newline depth ++ [']']
  | .obj [] => ['{', '}']
  | .obj ((k, v) :: fs) =>
    '{' :: newline (depth + 1) ++ stringText k ++ ':' :: ' ' :: indented (depth + 1) v ++
      indentedFields (depth + 1) fs ++ newline depth ++ ['}']

/-- The further items of a list, each behind a comma and on its line. -/
def indentedItems (depth : Nat) : List Json → List Char
  | [] => []
  | v :: vs => ',' :: newline depth ++ indented depth v ++ indentedItems depth vs

/-- The further fields of an object, each behind a comma and on its line. -/
def indentedFields (depth : Nat) : List (String × Json) → List Char
  | [] => []
  | (k, v) :: fs =>
    ',' :: newline depth ++ stringText k ++ ':' :: ' ' :: indented depth v ++
      indentedFields depth fs

end

/-- The text of a value, compact or indented. -/
def render (pretty : Bool) (v : Json) : String :=
  String.ofList (if pretty then v.indented 0 else v.compact)

end Json

end CardText
