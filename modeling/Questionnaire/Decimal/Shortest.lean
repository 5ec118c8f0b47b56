import Questionnaire.Decimal.Binary

/-!
# Decimal — the shortest digits that read back

A finite nonzero double stands for every real that rounds to it: the interval
reaching half a step towards each neighbouring double, its ends included when
the mantissa is even. The decimal written for the double is the one with the
fewest significant digits inside that interval, and of two such the one
nearer the double, an exact tie going to the even last digit.

The search is plain arithmetic on naturals: for one digit, then two, up to
seventeen, the two neighbours of the value on that decimal grid are tested,
and the first grid with a neighbour inside wins. If any point of a grid lies
in the interval, so does one of the two neighbours, since the interval is an
interval around the value; so no shorter decimal is missed.

**Main definition.** `Binary.shortest` gives the digits as a coefficient and
a power of ten, with no trailing zero in the coefficient.
-/

namespace Questionnaire
namespace Decimal

/-- **Significant digits** `coeff * 10^exp`; the coefficient has no trailing
zero unless it is zero itself. -/
structure Digits where
  coeff : Nat
  exp : Int
  deriving Repr, DecidableEq

namespace Digits

/-- The decimal digits of the coefficient, most significant first. -/
def chars (d : Digits) : List Char := Nat.toDigits 10 d.coeff

/-- How many significant digits there are. -/
def length (d : Digits) : Nat := d.chars.length

/-- Removes trailing zeros from the coefficient, moving them into the exponent. -/
def trim (coeff : Nat) (exp : Int) : Nat → Digits
  | 0 => ⟨coeff, exp⟩
  | fuel + 1 =>
    if coeff ≠ 0 ∧ coeff % 10 = 0 then trim (coeff / 10) (exp + 1) fuel else ⟨coeff, exp⟩

end Digits

/-- A nonnegative rational `num / den`, compared by cross multiplication. -/
structure Ratio where
  num : Nat
  den : Nat

namespace Ratio

/-- `a ≤ b` for ratios with positive denominators. -/
def le (a b : Ratio) : Bool := a.num * b.den ≤ b.num * a.den

/-- `a < b` for ratios with positive denominators. -/
def lt (a b : Ratio) : Bool := a.num * b.den < b.num * a.den

/-- `x * 2^e` as a ratio. -/
def ofPow2 (x : Nat) (e : Int) : Ratio :=
  if 0 ≤ e then ⟨x * Nat.pow 2 e.toNat, 1⟩ else ⟨x, Nat.pow 2 (-e).toNat⟩

/-- `x * 10^e` as a ratio. -/
def ofPow10 (x : Nat) (e : Int) : Ratio :=
  if 0 ≤ e then ⟨x * Nat.pow 10 e.toNat, 1⟩ else ⟨x, Nat.pow 10 (-e).toNat⟩

/-- `|a - b|` as a ratio. -/
def dist (a b : Ratio) : Ratio :=
  let x := a.num * b.den
  let y := b.num * a.den
  ⟨if x ≤ y then y - x else x - y, a.den * b.den⟩

/-- `⌊r / 10^e⌋`. -/
def floorPow10 (r : Ratio) (e : Int) : Nat :=
  if 0 ≤ e then r.num / (r.den * Nat.pow 10 e.toNat) else r.num * Nat.pow 10 (-e).toNat / r.den

/-- The decimal exponent `E` with `10^E ≤ r < 10^(E+1)`, found from the number
of digits of the integer part or of the reciprocal and corrected by one step
each way. -/
def floorLog10 (r : Ratio) : Int :=
  let guess : Int :=
    if r.den ≤ r.num then ((Nat.toDigits 10 (r.num / r.den)).length : Int) - 1
    else -((Nat.toDigits 10 (r.den / r.num)).length : Int)
  let g1 := if lt r (ofPow10 1 guess) then guess - 1 else guess
  if le (ofPow10 1 (g1 + 1)) r then g1 + 1 else g1

end Ratio

namespace Binary

/-- The real interval that rounds to a finite positive double
`mant * 2^exp`: its ends and whether they belong to it. Below a power of two
the lower neighbour is only half as far, except at the least exponent. -/
structure Interval where
  low : Ratio
  high : Ratio
  value : Ratio
  closed : Bool

/-- The rounding interval of `mant * 2^exp`, all three points on the grid `2^(exp-2)`. -/
def interval (mant : Nat) (exp : Int) : Interval :=
  let lowGap := if mant = Nat.pow 2 52 ∧ exp > minExp then 1 else 2
  { low := Ratio.ofPow2 (4 * mant - lowGap) (exp - 2)
    high := Ratio.ofPow2 (4 * mant + 2) (exp - 2)
    value := Ratio.ofPow2 (4 * mant) (exp - 2)
    closed := mant % 2 == 0 }

/-- Whether `x` rounds to the double whose interval is `iv`. -/
def Interval.holds (iv : Interval) (x : Ratio) : Bool :=
  if iv.closed then iv.low.le x && x.le iv.high else iv.low.lt x && x.lt iv.high

/-- Of the two neighbours of the value on the grid `10^p`, the one inside the
interval, the nearer if both are, the even one on an exact tie. -/
def pickOnGrid (iv : Interval) (p : Int) : Option Nat :=
  let c := iv.value.floorPow10 p
  let a := Ratio.ofPow10 c p
  let b := Ratio.ofPow10 (c + 1) p
  match iv.holds a, iv.holds b with
  | true, true =>
    let da := a.dist iv.value
    let db := b.dist iv.value
    if da.lt db then some c
    else if db.lt da then some (c + 1)
    else if c % 2 = 0 then some c else some (c + 1)
  | true, false => some c
  | false, true => some (c + 1)
  | false, false => none

/-- Tries grids of `k`, `k+1`, … significant digits below the leading power `top`. -/
def searchGrids (iv : Interval) (top : Int) (k : Nat) : Nat → Digits
  | 0 => ⟨iv.value.floorPow10 (top - 16), top - 16⟩
  | fuel + 1 =>
    let p := top - k + 1
    match pickOnGrid iv p with
    | some c => Digits.trim c p 20
    | none => searchGrids iv top (k + 1) fuel

/-- **Shortest digits** of a positive finite double `mant * 2^exp` (with
`mant > 0`): the fewest significant digits that round back to it. -/
def shortest (mant : Nat) (exp : Int) : Digits :=
  let iv := interval mant exp
  searchGrids iv iv.value.floorLog10 1 17

end Binary

end Decimal
end Questionnaire
