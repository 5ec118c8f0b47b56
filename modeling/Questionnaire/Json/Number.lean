import Questionnaire.Decimal.Layout
import Questionnaire.Json.Value

/-!
# Json — numbers in text

Two rules about numbers in JSON text live here.

*Writing.* A double is written by its shortest digits, positionally while the
decimal point stands after at most sixteen digits and no more than four zeros
follow it, with a `.0` on whole numbers; otherwise in exponent form, a
power that is not negative with its `+` (`1e+21`, `1.5e-7`).

*Reading.* The digits of a number are gathered into a 64-bit significand,
digits past its capacity being dropped and counted in the exponent; the
significand is then scaled by a table of powers of ten, one multiplication
or division at a time. This is the quick reading of the JSON readers this
library answers for, and it can differ from the nearest double in the last
place for long inputs, so it is kept as its own rule.

**Main definitions.** `layout`, `Num.text`, `scaleByPow10`.
-/

namespace Questionnaire
namespace Json

/-- **The JSON layout of a double**: positional for point positions
`-5 < kk ≤ 16`, whole numbers with `.0`, exponent form otherwise, with
`e+` before a power that is not negative. -/
def layout : Decimal.Layout where
  positional := fun kk => decide (-5 < kk ∧ kk ≤ 16)
  pointZero := true
  plusSign := true
  nanText := "NaN"
  infText := "inf"

/-- A double in JSON layout. -/
def floatText (x : Float) : String := layout.render x

namespace Num

/-- The text of a number as JSON writes it. A non-finite double has no JSON
form and is written as `null`. -/
def text : Num → String
  | .nat n => toString n
  | .neg n => toString n
  | .float x => if x.isFinite then floatText x else "null"

end Num

/-- The largest 64-bit unsigned value. -/
def u64Max : Nat := Nat.pow 2 64 - 1

/-- The correctly rounded double nearest `10^i`, the table entry for `i`. -/
def pow10 (i : Nat) : Float := Decimal.Binary.ofDecimal false 1 i

/-- Why reading a number failed. -/
inductive NumberFault where
  | outOfRange

/-- **Scaling by the table.** `significand * 10^exponent` by one multiplication
or division with a table entry (entries exist up to `10^308`); a smaller
exponent first divides by `10^308` until the entry exists or the value is
zero. A product that overflows is out of range. -/
def scaleByPow10 (significand : Nat) (exponent : Int) : Except NumberFault Float :=
  go (Decimal.Binary.ofNat significand) exponent 8
where
  go (f : Float) (e : Int) : Nat → Except NumberFault Float
    | 0 => .ok f
    | fuel + 1 =>
      if e.natAbs ≤ 308 then
        if 0 ≤ e then
          let g := f * pow10 e.toNat
          if g.isInf then .error .outOfRange else .ok g
        else .ok (f / pow10 e.natAbs)
      else if f == 0 then .ok f
      else if 0 ≤ e then .error .outOfRange
      else go (f / pow10 308) (e + 308) fuel

end Json
end Questionnaire
