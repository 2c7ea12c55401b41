/-!
# Binary64 Numbers

The finite numbers of the 64-bit binary format, held exactly as a sign, a
mantissa and a power of two. A quotient of natural numbers rounds to the
nearest such number, ties to the even mantissa, or overflows. Products,
quotients and decimal input are roundings of exact values, so nothing here
depends on a machine's floating point unit.

## Main definitions

* `Binary64`: A sign, a mantissa below `2^53` and an exponent of two.
* `roundQuotient`: The nearest mantissa and exponent of a quotient.
* `Binary64.scaleUp`, `Binary64.scaleDown`: Products and quotients.
* `Binary64.ofDecimal`: The number nearest to a short decimal.
-/

namespace CiteRender

/-- A finite number of the format: `mantissa * 2^exponent`, with a sign. A
    mantissa below `2^52` goes with the least exponent, `-1074`. -/
structure Binary64 where
  negative : Bool
  mantissa : Nat
  exponent : Int
  deriving DecidableEq

/-- The quotient rounded to the nearest natural number, a half to the even one. -/
def roundHalfEven (num den : Nat) : Nat :=
  let q := num / den
  let r := num % den
  if 2 * r < den then q
  else if den < 2 * r then q + 1
  else q + q % 2

/-- The quotient divided by a power of two, as a fraction. -/
def shiftQuotient (num den : Nat) (exponent : Int) : Nat × Nat :=
  if exponent < 0 then (num * Nat.pow 2 exponent.natAbs, den)
  else (num, den * Nat.pow 2 exponent.natAbs)

/-- The exponent with which a positive quotient has a mantissa of 53 bits,
    or the least exponent of the format. -/
def quotientExponent (num den : Nat) : Int :=
  let low := max ((num.log2 : Int) - (den.log2 : Int) - 53) (-1074)
  let scaled := shiftQuotient num den low
  if scaled.1 / scaled.2 < Nat.pow 2 53 then low else low + 1

/-- The mantissa and exponent nearest to a positive quotient, or nothing when
    the format has no number so large. -/
def roundQuotient (num den : Nat) : Option (Nat × Int) :=
  let exponent := quotientExponent num den
  let scaled := shiftQuotient num den exponent
  let mantissa := roundHalfEven scaled.1 scaled.2
  let rounded :=
    if mantissa = Nat.pow 2 53 then (Nat.pow 2 52, exponent + 1) else (mantissa, exponent)
  if rounded.2 ≤ 971 then some rounded else none

namespace Binary64

/-- Zero, with a sign. -/
def zero (negative : Bool) : Binary64 :=
  ⟨negative, 0, -1074⟩

/-- The magnitude as a fraction. -/
def fraction (x : Binary64) : Nat × Nat :=
  if x.exponent < 0 then (x.mantissa, Nat.pow 2 x.exponent.natAbs)
  else (x.mantissa * Nat.pow 2 x.exponent.natAbs, 1)

/-- The number nearest to a fraction, with a sign. -/
def ofFraction (negative : Bool) (num den : Nat) : Option Binary64 :=
  if num = 0 then some (zero negative)
  else (roundQuotient num den).map fun r => ⟨negative, r.1, r.2⟩

/-- The number nearest to `10^k`. -/
def powerOfTen (k : Nat) : Option Binary64 :=
  ofFraction false (Nat.pow 10 k) 1

/-- The rounded product with the number nearest to `10^k`. -/
def scaleUp (x : Binary64) (k : Nat) : Option Binary64 :=
  (powerOfTen k).bind fun p =>
    ofFraction x.negative (x.fraction.1 * p.fraction.1) (x.fraction.2 * p.fraction.2)

/-- The rounded quotient by the number nearest to `10^k`. -/
def scaleDown (x : Binary64) (k : Nat) : Option Binary64 :=
  (powerOfTen k).bind fun p =>
    ofFraction x.negative (x.fraction.1 * p.fraction.2) (x.fraction.2 * p.fraction.1)

/-- Divides by `10^308` until the exponent that is left has a power of ten in
    the format. Three divisions bring any 64-bit integer to zero, so `steps`
    never needs to be larger. -/
def scaleDownFar : (steps : Nat) → Binary64 → Nat → Option Binary64
  | 0, x, _ => some (zero x.negative)
  | steps + 1, x, k =>
    if k ≤ 308 then x.scaleDown k
    else if x.mantissa = 0 then some x
    else (x.scaleDown 308).bind fun y => scaleDownFar steps y (k - 308)

/-- The number read from a decimal `significand * 10^exponent`: the
    significand is rounded first, and then scaled once by a rounded power of
    ten. Nothing when the format has no number so large. -/
def ofDecimal (negative : Bool) (significand : Nat) (exponent : Int) : Option Binary64 :=
  (ofFraction negative significand 1).bind fun x =>
    if exponent < 0 then scaleDownFar 4 x exponent.natAbs
    else if exponent ≤ 308 then x.scaleUp exponent.natAbs
    else if x.mantissa = 0 then some x
    else none

end Binary64

end CiteRender
