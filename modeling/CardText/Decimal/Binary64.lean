/-!
# Numbers in binary floating point of 64 bits

The error of `parse_input` names a number that stands where a line or a text of a card is due, and a
number with a point or an exponent is floating point.

A finite number of the format is `mantissa * 2 ^ exponent` with a mantissa below `2 ^ 53` and an
exponent from `-1074` to `971`. A rational number is rounded to the nearest of them, and a tie to
the even mantissa; what lies at or above the middle between the greatest one and `2 ^ 1024` is out
of range. The sign is kept outside.
-/

namespace CardText.Decimal

/-- A finite number without its sign: `mantissa * 2 ^ exponent`. -/
structure Binary64 where
  mantissa : Nat
  exponent : Int
  deriving DecidableEq

namespace Binary64

/-- The least exponent. -/
def minExponent : Int := -1074

/-- The greatest exponent. -/
def maxExponent : Int := 971

/-- The number 0. -/
def zero : Binary64 := ⟨0, minExponent⟩

/-- The number as a fraction of natural numbers. -/
def numerator (x : Binary64) : Nat := x.mantissa * Nat.pow 2 x.exponent.toNat

/-- The lower part of the fraction, a power of two. -/
def denominator (x : Binary64) : Nat := Nat.pow 2 (-x.exponent).toNat

/-- The fraction `num / den` in units of `2 ^ e`, as a fraction again. -/
def inUnits (num den : Nat) (e : Int) : Nat × Nat :=
  (num * Nat.pow 2 (-e).toNat, den * Nat.pow 2 e.toNat)

/-- Division with the quotient rounded to the nearest, a tie to the even one. -/
def roundDiv (num den : Nat) : Nat :=
  let q := num / den
  let r := num % den
  if 2 * r < den then q
  else if den < 2 * r then q + 1
  else if q % 2 = 0 then q else q + 1

/-- The exponent under which the fraction has a mantissa of 53 binary digits, or the least one. -/
def exponentOf (num den : Nat) : Int :=
  let guess := max minExponent ((Nat.log2 num : Int) - (Nat.log2 den : Int) - 53)
  let (n, d) := inUnits num den guess
  if n / d < Nat.pow 2 53 then guess else guess + 1

/-- The number nearest to `num / den`; none when that is out of range. -/
def ofRatio? (num den : Nat) : Option Binary64 :=
  if num = 0 then some zero
  else
    let e := exponentOf num den
    let (n, d) := inUnits num den e
    let m := roundDiv n d
    let x : Binary64 := if m = Nat.pow 2 53 then ⟨Nat.pow 2 52, e + 1⟩ else ⟨m, e⟩
    if maxExponent < x.exponent then none else some x

/-- The product, rounded. -/
def mul? (x y : Binary64) : Option Binary64 :=
  ofRatio? (x.numerator * y.numerator) (x.denominator * y.denominator)

/-- The quotient, rounded. -/
def div? (x y : Binary64) : Option Binary64 :=
  ofRatio? (x.numerator * y.denominator) (x.denominator * y.numerator)

/-- The number nearest to a power of ten. -/
def powerOfTen? (n : Nat) : Option Binary64 := ofRatio? (Nat.pow 10 n) 1

/-- The greatest power of ten that is in range. -/
def maxPower : Nat := 308

/-- A number after `k` divisions by `10 ^ 308`, each of them rounded. -/
def divideByGreatest? (x : Binary64) : Nat → Option Binary64
  | 0 => some x
  | k + 1 =>
    if x.mantissa = 0 then some x
    else ((powerOfTen? maxPower).bind x.div?).bind fun y => y.divideByGreatest? k

/-- A number times a power of ten. A negative power below `10 ^ -308` is applied in steps, each of
them rounded; a power above `10 ^ 308` is out of range for every number but zero. -/
def timesPowerOfTen? (x : Binary64) : Int → Option Binary64
  | .ofNat n =>
    if n ≤ maxPower then (powerOfTen? n).bind x.mul?
    else if x.mantissa = 0 then some x
    else none
  | .negSucc n =>
    let steps := n / maxPower
    (x.divideByGreatest? steps).bind fun y =>
      (powerOfTen? (n + 1 - maxPower * steps)).bind y.div?

end Binary64

end CardText.Decimal
