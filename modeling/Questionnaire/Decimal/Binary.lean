/-!
# Decimal — binary64 values as integers

A double is read through its bit pattern into a sign, an integer mantissa and
a power of two, and built back from an exact ratio of naturals by rounding to
the nearest double, ties to the even mantissa. Every later number format of
the library starts from these two maps, so none of them depends on how the
runtime prints or reads a `Float`.

**Main definitions.** `Binary.classify` splits a double into NaN, an infinity
or a finite `Binary`; `Binary.ofRatio` rounds `num / den` to a double.
-/

namespace Questionnaire
namespace Decimal

/-- **A finite double** as `(-1)^neg * mant * 2^exp`, exactly. -/
structure Binary where
  neg : Bool
  mant : Nat
  exp : Int
  deriving Repr, DecidableEq

/-- The three kinds of double. A finite one keeps the sign of zero. -/
inductive Kind where
  | nan
  | inf (neg : Bool)
  | finite (b : Binary)
  deriving Repr, DecidableEq

namespace Binary

/-- The mantissa of a normal double has this many bits, the hidden one included. -/
def precision : Nat := 53

/-- The exponent of the least subnormal step, `2^-1074`. -/
def minExp : Int := -1074

/-- The largest exponent a 53-bit mantissa may carry before the value overflows. -/
def maxExp : Int := 971

/-- Splits a double by its bit pattern: the top bit is the sign, the next
eleven the biased exponent, the last fifty-two the trailing mantissa. -/
def classify (x : Float) : Kind :=
  let bits : Nat := x.toBits.toNat
  let neg : Bool := bits / Nat.pow 2 63 == 1
  let biased : Nat := (bits / Nat.pow 2 52) % 2048
  let frac : Nat := bits % Nat.pow 2 52
  if biased == 2047 then
    if frac == 0 then .inf neg else .nan
  else if biased == 0 then
    .finite ⟨neg, frac, minExp⟩
  else
    .finite ⟨neg, frac + Nat.pow 2 52, (biased : Int) - 1075⟩

/-- The double with the given sign, biased exponent and trailing mantissa. -/
def pack (neg : Bool) (biased frac : Nat) : Float :=
  Float.ofBits (UInt64.ofNat ((if neg then Nat.pow 2 63 else 0) + biased * Nat.pow 2 52 + frac))

/-- Signed zero. -/
def zero (neg : Bool) : Float := pack neg 0 0

/-- Signed infinity. -/
def infinity (neg : Bool) : Float := pack neg 2047 0

/-- `⌊num * 2^-e / den⌋` and its remainder over the same denominator: the
quotient of the ratio read at exponent `e`. -/
def scaled (num den : Nat) (e : Int) : Nat × Nat × Nat :=
  if 0 ≤ e then
    let d := den * Nat.pow 2 e.toNat
    (num / d, num % d, d)
  else
    let n := num * Nat.pow 2 (-e).toNat
    (n / den, n % den, den)

/-- The exponent at which the quotient of `num / den` has exactly 53 bits,
raised to `minExp` when the value lies in the subnormal range. -/
def alignExp (num den : Nat) : Int :=
  let e0 : Int := (Nat.log2 num : Int) - (Nat.log2 den : Int) - 52
  let e1 := if (scaled num den e0).1 < Nat.pow 2 52 then e0 - 1 else e0
  let e2 := if (scaled num den e1).1 ≥ Nat.pow 2 53 then e1 + 1 else e1
  max e2 minExp

/-- **Rounding a ratio to a double.** `num / den` (with `den > 0`) goes to the
nearest double, and an exact tie goes to the even mantissa; a value beyond
the largest finite double becomes an infinity. -/
def ofRatio (neg : Bool) (num den : Nat) : Float :=
  if num = 0 ∨ den = 0 then zero neg
  else
    let e := alignExp num den
    let (q, r, d) := scaled num den e
    let up := 2 * r > d ∨ (2 * r = d ∧ q % 2 = 1)
    let q := if up then q + 1 else q
    let (q, e) := if q = Nat.pow 2 53 then (Nat.pow 2 52, e + 1) else (q, e)
    if e > maxExp then infinity neg
    else if q < Nat.pow 2 52 then pack neg 0 q
    else pack neg (e + 1075).toNat (q - Nat.pow 2 52)

/-- A natural number rounded to a double. -/
def ofNat (n : Nat) : Float := ofRatio false n 1

/-- `n * 10^e` rounded to a double, for a decimal exponent of either sign. -/
def ofDecimal (neg : Bool) (n : Nat) (e : Int) : Float :=
  if 0 ≤ e then ofRatio neg (n * Nat.pow 10 e.toNat) 1 else ofRatio neg n (Nat.pow 10 (-e).toNat)

end Binary

end Decimal
end Questionnaire
