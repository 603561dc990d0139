import CardText.Decimal.Binary64
import CardText.Text.Character

/-!
# The shortest decimal text of a binary number

This is how the error of `parse_input` names a floating point number. The digits are the fewest that
read back as the number, and of those with the fewest the nearest to it. Numbers from `10 ^ -5` up
to `10 ^ 16` are written with a point in its place and at least one digit on both sides, the others
with one digit before the point and a power of ten, whose exponent always has a sign.
-/

namespace CardText.Decimal

/-- Decimal digits and a power of ten: `digits * 10 ^ exponent`. -/
structure Scaled where
  digits : Nat
  exponent : Int
  deriving DecidableEq

namespace Scaled

/-- The number as a fraction. -/
def fraction (s : Scaled) : Nat × Nat :=
  (s.digits * Nat.pow 10 s.exponent.toNat, Nat.pow 10 (-s.exponent).toNat)

/-- The binary number it reads as. -/
def read? (s : Scaled) : Option Binary64 := Binary64.ofRatio? s.fraction.1 s.fraction.2

/-- Moves zeros at the end of the digits into the power of ten. -/
def trim (digits : Nat) (exponent : Int) : Scaled :=
  if digits = 0 then ⟨0, exponent⟩
  else if digits % 10 = 0 then trim (digits / 10) (exponent + 1)
  else ⟨digits, exponent⟩
termination_by digits

end Scaled

/-- A power of ten by its exponent, with a sign even where that is a plus. -/
def powerText (exponent : Int) : List Char :=
  if exponent < 0 then 'e' :: Text.signedDecimal exponent
  else 'e' :: '+' :: Text.signedDecimal exponent

namespace Binary64

/-- The number of decimal digits before the point: the `k` with `10 ^ (k - 1) ≤ x < 10 ^ k`. -/
def decimalOrder (x : Binary64) : Int :=
  let n := x.numerator
  let d := x.denominator
  if d ≤ n then ((Text.decimal (n / d)).length : Int)
  else
    -- the least `j` with `d ≤ n * 10 ^ j`
    let j := (Text.decimal (d / n)).length
    if d ≤ n * Nat.pow 10 (j - 1) then 2 - (j : Int) else 1 - (j : Int)

/-- The decimal number of `n` digits that reads back as the number and is nearest to it. -/
def withDigits? (x : Binary64) (n : Nat) : Option Scaled :=
  let e := x.decimalOrder - n
  let num := x.numerator * Nat.pow 10 (-e).toNat
  let den := x.denominator * Nat.pow 10 e.toNat
  let low : Scaled := ⟨num / den, e⟩
  let high : Scaled := ⟨num / den + 1, e⟩
  let r := num % den
  let lowReads := low.read? = some x
  let highReads := high.read? = some x
  if lowReads ∧ highReads then
    if 2 * r < den then some low
    else if den < 2 * r then some high
    else if low.digits % 2 = 0 then some low else some high
  else if lowReads then some low
  else if highReads then some high
  else none

/-- The fewest digits that read back as the number. Seventeen are always enough. -/
def shortest (x : Binary64) : Scaled :=
  if x.mantissa = 0 then ⟨0, 0⟩
  else
    let s := ((List.range' 1 17).findSome? x.withDigits?).getD ⟨0, 0⟩
    Scaled.trim s.digits s.exponent

/-- The text of a number with its sign. -/
def text (negative : Bool) (x : Binary64) : List Char :=
  let s := x.shortest
  let ds := Text.decimal s.digits
  let point := (ds.length : Int) + s.exponent
  let unsigned :=
    if s.digits = 0 then "0.0".toList
    else if 0 ≤ s.exponent ∧ point ≤ 16 then
      ds ++ List.replicate s.exponent.toNat '0' ++ ".0".toList
    else if 0 < point ∧ point ≤ 16 then
      ds.take point.toNat ++ '.' :: ds.drop point.toNat
    else if -5 < point ∧ point ≤ 0 then
      "0.".toList ++ List.replicate (-point).toNat '0' ++ ds
    else
      let power := powerText (point - 1)
      match ds with
      | [d] => d :: power
      | ds => ds.take 1 ++ '.' :: ds.drop 1 ++ power
  if negative then '-' :: unsigned else unsigned

end Binary64

end CardText.Decimal
