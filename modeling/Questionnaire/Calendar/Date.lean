/-!
# Calendar — dates

A date of the proleptic Gregorian calendar, for years -262144 to 262143. It
is written as `YYYY-MM-DD`: a year from 0 to 9999 with four digits, any
other year with its sign and at least four digits (`-0024`, `+10000`),
month and day with two.

**Main definitions.** `Date`, `Date.ofYmd?`, `Date.text`, `Date.lt`, `Date.ofUnixDays`.
-/

namespace Questionnaire
namespace Calendar

/-- **A calendar date.** -/
structure Date where
  year : Int
  month : Nat
  day : Nat
  deriving DecidableEq, Inhabited, Repr

namespace Date

/-- Leap years: divisible by 4, and by 400 when divisible by 100. -/
def isLeap (y : Int) : Bool := y % 4 == 0 && (y % 100 != 0 || y % 400 == 0)

/-- The number of days of a month of a year. -/
def daysIn (y : Int) (m : Nat) : Nat :=
  match m with
  | 2 => if isLeap y then 29 else 28
  | 4 | 6 | 9 | 11 => 30
  | _ => 31

/-- The least and greatest years a date may have. -/
def minYear : Int := -262144

/-- The greatest year a date may have. -/
def maxYear : Int := 262143

/-- **The date of a year, month and day**, if it exists. -/
def ofYmd? (y : Int) (m d : Nat) : Option Date :=
  if minYear ≤ y ∧ y ≤ maxYear ∧ 1 ≤ m ∧ m ≤ 12 ∧ 1 ≤ d ∧ d ≤ daysIn y m then some ⟨y, m, d⟩
  else none

/-- Strictly earlier. -/
def lt (a b : Date) : Bool :=
  a.year < b.year || (a.year == b.year && (a.month < b.month || (a.month == b.month && a.day < b.day)))

/-- `n` in decimal, padded with zeros to `width` digits. -/
def padded (width n : Nat) : String :=
  let s := toString n
  String.ofList (List.replicate (width - s.length) '0') ++ s

/-- The year as written: four digits, or a sign and at least four digits. -/
def yearText (y : Int) : String :=
  if 0 ≤ y ∧ y ≤ 9999 then padded 4 y.toNat
  else (if y < 0 then "-" else "+") ++ padded 4 y.natAbs

/-- **The text** `YYYY-MM-DD`. -/
def text (d : Date) : String := yearText d.year ++ "-" ++ padded 2 d.month ++ "-" ++ padded 2 d.day

/-- **The date `days` days after 1970-01-01** (before it when negative):
whole 400-year eras of 146097 days, then the year within the era counted
from March, so that the leap day falls last. -/
def ofUnixDays (days : Int) : Date :=
  let z := days + 719468
  let era := z / 146097
  let doe := z - era * 146097
  let yoe := (doe - doe / 1460 + doe / 36524 - doe / 146096) / 365
  let doy := doe - (365 * yoe + yoe / 4 - yoe / 100)
  let mp := (5 * doy + 2) / 153
  let d := doy - (153 * mp + 2) / 5 + 1
  let m := if mp < 10 then mp + 3 else mp - 9
  let y := yoe + era * 400 + (if m ≤ 2 then 1 else 0)
  ⟨y, m.toNat, d.toNat⟩

end Date

end Calendar
end Questionnaire
