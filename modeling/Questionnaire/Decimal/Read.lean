import Questionnaire.Decimal.Binary

/-!
# Decimal — reading decimal literals

A decimal literal is an optional sign, digits with at most one point and at
least one digit, and an optional exponent: `e` or `E`, an optional sign and
at least one digit. Its value is rounded to the nearest double, ties to the
even mantissa; a magnitude past the largest double is an infinity and one
below half the least subnormal is zero.

**Main definitions.** `Literal`, `Literal.parse`, `Literal.toFloat`, `readFloat`.
-/

namespace Questionnaire
namespace Decimal

/-- **A decimal literal** as read: its sign, all its digits as one natural
number, and the power of ten that scales them. -/
structure Literal where
  neg : Bool
  coeff : Nat
  exp : Int
  deriving Repr, DecidableEq

namespace Literal

/-- Splits leading decimal digits off, with their value and count. -/
def digits : List Char → Nat → Nat → Nat × Nat × List Char
  | c :: rest, acc, n =>
    if c.isDigit then digits rest (acc * 10 + (c.toNat - '0'.toNat)) (n + 1) else (acc, n, c :: rest)
  | [], acc, n => (acc, n, [])

/-- The exponent part after `e` or `E`: an optional sign and at least one digit,
and nothing after them. -/
def exponent (cs : List Char) : Option Int :=
  let (neg, rest) := match cs with
    | '-' :: r => (true, r)
    | '+' :: r => (false, r)
    | r => (false, r)
  let (v, n, tail) := digits rest 0 0
  if n = 0 ∨ !tail.isEmpty then none
  else some (if neg then -(v : Int) else v)

/-- **Reads a literal**, the whole text or nothing. -/
def parse (cs : List Char) : Option Literal :=
  let (neg, body) := match cs with
    | '-' :: r => (true, r)
    | '+' :: r => (false, r)
    | r => (false, r)
  let (intPart, intCount, afterInt) := digits body 0 0
  let (coeff, fracCount, afterFrac) := match afterInt with
    | '.' :: r =>
      let (v, n, tail) := digits r intPart 0
      (v, n, tail)
    | r => (intPart, 0, r)
  if intCount + fracCount = 0 then none
  else
    match afterFrac with
    | [] => some ⟨neg, coeff, -(fracCount : Int)⟩
    | c :: r =>
      if c = 'e' ∨ c = 'E' then
        (exponent r).map fun e => ⟨neg, coeff, e - fracCount⟩
      else none

/-- **The double nearest the literal.** -/
def toFloat (l : Literal) : Float :=
  if l.coeff = 0 then Binary.zero l.neg
  else
    let top : Int := (Nat.toDigits 10 l.coeff).length + l.exp
    if top > 310 then Binary.infinity l.neg
    else if top < -330 then Binary.zero l.neg
    else Binary.ofDecimal l.neg l.coeff l.exp

end Literal

/-- The double a decimal literal stands for, if the text is one. -/
def readFloat (s : String) : Option Float := (Literal.parse s.toList).map Literal.toFloat

end Decimal
end Questionnaire
