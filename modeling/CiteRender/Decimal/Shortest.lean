import CiteRender.Decimal.Binary64

/-!
# Shortest Decimals

The text of a binary number is the decimal with the fewest digits that reads
back as that number; of several with equally few digits, the nearest. The
digits are found on the decimal grids of 1, 2, … 17 digits: a grid has a
point that reads back only if one of the two points next to the number does.

Where the point goes is a matter of layout, kept apart in one record.

## Main definitions

* `decimalExponent`: The power of ten of the leading digit.
* `shortestDigits`: The fewest digits that read back.
* `DecimalLayout`: When a number is written without an exponent.
* `Binary64.text`: A number in a layout.
-/

namespace CiteRender

/-- Whether `num / den` is at least `10^k`. -/
def atLeastPower (num den : Nat) (k : Int) : Bool :=
  if k < 0 then den ≤ num * Nat.pow 10 k.natAbs else den * Nat.pow 10 k.natAbs ≤ num

/-- Raises `k` while the fraction is at least `10^(k+1)`, at most `steps` times. -/
def raiseExponent (num den : Nat) : (steps : Nat) → Int → Int
  | 0, k => k
  | steps + 1, k => if atLeastPower num den (k + 1) then raiseExponent num den steps (k + 1) else k

/-- The exponent `k` with `10^k ≤ num / den < 10^(k+1)`, from an estimate by
    bit lengths that is low by at most three. -/
def decimalExponent (num den : Nat) : Int :=
  raiseExponent num den 4 (((num.log2 : Int) - (den.log2 : Int)) * 30103 / 100000 - 2)

/-- The fraction divided by `10^k`. -/
def unscale (num den : Nat) (k : Int) : Nat × Nat :=
  if k < 0 then (num * Nat.pow 10 k.natAbs, den) else (num, den * Nat.pow 10 k.natAbs)

/-- Whether `d * 10^k` reads back as the number. -/
def readsBack (x : Binary64) (d : Nat) (k : Int) : Bool :=
  let fraction := if k < 0 then (d, Nat.pow 10 k.natAbs) else (d * Nat.pow 10 k.natAbs, 1)
  Binary64.ofFraction x.negative fraction.1 fraction.2 = some x

/-- The point of the grid `10^k` that reads back, if one of the two next to
    the number does; of both, the nearer one, and the even one of a tie. -/
def gridPoint (x : Binary64) (k : Int) : Option Nat :=
  let scaled := unscale x.fraction.1 x.fraction.2 k
  let below := scaled.1 / scaled.2
  let nearest := roundHalfEven scaled.1 scaled.2
  let other := if nearest = below then below + 1 else below
  if readsBack x nearest k then some nearest
  else if readsBack x other k then some other
  else none

/-- The first of the grids from `digits` digits on with a point that reads
    back, as that point and the grid's power of ten. -/
def searchGrids (x : Binary64) (leading : Int) : (steps digits : Nat) → Nat × Int
  | 0, _ => (x.fraction.1, 0)
  | steps + 1, digits =>
    let k := leading - (digits - 1 : Int)
    match gridPoint x k with
    | some d => (d, k)
    | none => searchGrids x leading steps (digits + 1)

/-- The number without its trailing zeros in decimal, and how many it had. -/
def dropZeros : (steps : Nat) → Nat → Nat × Nat
  | 0, d => (d, 0)
  | steps + 1, d =>
    if d % 10 = 0 ∧ d ≠ 0 then
      let r := dropZeros steps (d / 10)
      (r.1, r.2 + 1)
    else (d, 0)

/-- The fewest digits that read back as a number other than zero, and the
    exponent of the first of them. -/
def shortestDigits (x : Binary64) : List Char × Int :=
  let leading := decimalExponent x.fraction.1 x.fraction.2
  let point := searchGrids x leading 17 1
  let short := dropZeros 20 point.1
  let digits := Nat.toDigits 10 short.1
  (digits, point.2 + short.2 + digits.length - 1)

/-- Exponents of the first digit from `fixedFrom` up to but not including
    `fixedBelow` are written without an exponent. -/
structure DecimalLayout where
  fixedFrom : Int
  fixedBelow : Int

/-- Digits with a point after the first `n + 1`, or behind all of them and a zero. -/
def pointAfter (n : Nat) (digits : List Char) : List Char :=
  let whole := digits.take (n + 1) ++ List.replicate (n + 1 - digits.length) '0'
  let part := digits.drop (n + 1)
  whole ++ '.' :: (if part.isEmpty then ['0'] else part)

/-- Digits in the layout, when the first has exponent `e`. -/
def DecimalLayout.place (layout : DecimalLayout) (digits : List Char) (e : Int) : List Char :=
  if layout.fixedFrom ≤ e ∧ e < layout.fixedBelow then
    if e < 0 then '0' :: '.' :: List.replicate (e.natAbs - 1) '0' ++ digits
    else pointAfter e.natAbs digits
  else
    let mantissa :=
      match digits with
      | [] => []
      | [d] => [d]
      | d :: rest => d :: '.' :: rest
    mantissa ++ 'e' :: (if e < 0 then '-' else '+') :: Nat.toDigits 10 e.natAbs

/-- The text of a number in a layout. -/
def Binary64.text (layout : DecimalLayout) (x : Binary64) : List Char :=
  let sign := if x.negative then ['-'] else []
  if x.mantissa = 0 then sign ++ ['0', '.', '0']
  else
    let shortest := shortestDigits x
    sign ++ layout.place shortest.1 shortest.2

end CiteRender
