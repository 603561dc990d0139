import CardText.Card.ReadError

/-!
# Numbers in the text of a card

A card holds no numbers, but one in a wrong place is named in the error of `parse_input`, so its
value counts. An integer that no word of 64 bits holds, and minus zero, are floating point. The
digits of a floating point number are taken as long as they fit into such a word: further digits
before the point only raise the power of ten, and further ones behind it count for nothing. The
power of ten is then applied to the rounded digits, in steps that are rounded again.
-/

namespace CardText.Numeral

open Text Decimal

/-- The greatest number that the digits are taken up to. -/
def maxSignificand : Nat := 0xFFFFFFFFFFFFFFFF

/-- The greatest exponent that is read. -/
def maxExponent : Nat := 0x7FFFFFFF

/-- Whether a character is one of `0` to `9`. -/
def isNumeral (c : Char) : Bool := (digitValue? c).isSome

/-- The digits that a text starts with, and the rest. -/
def digits (s : List Char) : List Nat × List Char :=
  ((s.takeWhile isNumeral).filterMap digitValue?, s.dropWhile isNumeral)

/-- The digits before the point as far as they fit, and the number of those that do not. -/
def takeWhole : Nat → List Nat → Nat × Nat
  | n, [] => (n, 0)
  | n, d :: ds =>
    if maxSignificand < 10 * n + d then (n, (d :: ds).length) else takeWhole (10 * n + d) ds

/-- The digits before and behind the point as far as they fit, and the number of those behind it
that do. -/
def takeFraction : Nat → List Nat → Nat × Nat
  | n, [] => (n, 0)
  | n, d :: ds =>
    if maxSignificand < 10 * n + d then (n, 0)
    else
      let (m, taken) := takeFraction (10 * n + d) ds
      (m, taken + 1)

/-- The digits of an exponent, the rest, and whether it stopped at a digit for which the exponent
has no room. That digit is read. -/
def takeExponent : Nat → List Char → Nat × List Char × Bool
  | n, [] => (n, [], false)
  | n, c :: cs =>
    match digitValue? c with
    | none => (n, c :: cs, false)
    | some d => if maxExponent < 10 * n + d then (n, cs, true) else takeExponent (10 * n + d) cs

/-- The number of a significand and a power of ten. -/
def scaled (negative : Bool) (significand : Nat) (exponent : Int) (rest : List Char) :
    Except Failure (Found × List Char) :=
  match (Binary64.ofRatio? significand 1).bind (·.timesPowerOfTen? exponent) with
  | some x => .ok (.float negative x, rest)
  | none => .error (.before .numberOutOfRange rest)

/-- A number from its exponent on. -/
def readExponent (negative : Bool) (significand : Nat) (exponent : Int) (s : List Char) :
    Except Failure (Found × List Char) :=
  let (lowered, s) : Bool × List Char :=
    match s with
    | '+' :: r => (false, r)
    | '-' :: r => (true, r)
    | s => (false, s)
  match s with
  | [] => .error (.ended .endInValue)
  | c :: r =>
    if !isNumeral c then .error (.onByte .invalidNumber (c :: r))
    else
      match takeExponent 0 (c :: r) with
      | (n, rest, false) =>
        scaled negative significand (if lowered then exponent - n else exponent + n) rest
      | (_, rest, true) =>
        if significand ≠ 0 ∧ !lowered then .error (.before .numberOutOfRange rest)
        else .ok (.float negative .zero, rest.dropWhile isNumeral)

/-- A number from behind its point on. -/
def readFraction (negative : Bool) (significand dropped : Nat) (s : List Char) :
    Except Failure (Found × List Char) :=
  match digits s with
  | ([], []) => .error (.ended .endInValue)
  | ([], c :: r) => .error (.onByte .invalidNumber (c :: r))
  | (ds, rest) =>
    let (significand, taken) := takeFraction significand ds
    let exponent : Int := dropped - taken
    match rest with
    | 'e' :: r => readExponent negative significand exponent r
    | 'E' :: r => readExponent negative significand exponent r
    | rest => scaled negative significand exponent rest

/-- The integer of all its digits. -/
def whole (negative : Bool) (n : Nat) (rest : List Char) : Except Failure (Found × List Char) :=
  if !negative then .ok (.integer n, rest)
  else if 0 < n ∧ n ≤ 0x8000000000000000 then .ok (.integer (-n), rest)
  else scaled true n 0 rest

/-- A number from behind its whole digits on. -/
def readBehindWhole (negative : Bool) (significand dropped : Nat) (s : List Char) :
    Except Failure (Found × List Char) :=
  match s with
  | '.' :: r => readFraction negative significand dropped r
  | 'e' :: r => readExponent negative significand dropped r
  | 'E' :: r => readExponent negative significand dropped r
  | s => if dropped = 0 then whole negative significand s else scaled negative significand dropped s

/-- A number from behind its sign on. No digit follows a leading zero. -/
def read (negative : Bool) (s : List Char) : Except Failure (Found × List Char) :=
  match digits s with
  | ([], []) => .error (.ended .endInValue)
  | ([], c :: r) => .error (.onByte .invalidNumber (c :: r))
  | (0 :: _ :: _, _) => .error (.onByte .invalidNumber (s.drop 1))
  | (ds, rest) =>
    let (significand, dropped) := takeWhole 0 ds
    readBehindWhole negative significand dropped rest

end CardText.Numeral
