import Questionnaire.Decimal.Shortest

/-!
# Decimal — laying out the shortest digits

The digits of `Binary.shortest` are written either positionally or with a
power of ten, and a layout record fixes the choices: which positions of the
decimal point are written positionally, whether a whole number keeps a
trailing `.0`, whether a positive power of ten carries a `+`, and the
texts of NaN and infinity. The sign of a negative
value, zero included, is a leading `-`.

**Main definitions.** `Layout.render` writes a double by a layout; `plain`
is the layout of the library's messages and loose strings: always
positional, no trailing `.0`, `NaN`, `inf`.
-/

namespace Questionnaire
namespace Decimal

/-- **How digits are laid out.** With `k` digits and the value
`digits * 10^(kk - k)`, the decimal point stands after `kk` digits; the
value is written positionally when `positional kk` holds, else as
`d.ddd` followed by `e` and `kk - 1`, with a `+` before a power that is not
negative when `plusSign` holds. -/
structure Layout where
  /-- Positions of the point written without an exponent. -/
  positional : Int → Bool
  /-- A whole number written positionally ends in `.0`. -/
  pointZero : Bool
  /-- A power of ten that is not negative is written with a `+`. -/
  plusSign : Bool := false
  nanText : String
  infText : String

namespace Layout

/-- `n` zeros. -/
def zeros (n : Nat) : List Char := List.replicate n '0'

/-- The digits with the point after `kk` of them, padded with zeros. -/
def positionalChars (l : Layout) (ds : List Char) (kk : Int) : List Char :=
  if kk ≤ 0 then ['0', '.'] ++ zeros (-kk).toNat ++ ds
  else if ds.length ≤ kk.toNat then
    ds ++ zeros (kk.toNat - ds.length) ++ (if l.pointZero then ['.', '0'] else [])
  else ds.take kk.toNat ++ ['.'] ++ ds.drop kk.toNat

/-- One leading digit, the rest after a point, then the power of ten. -/
def exponentChars (l : Layout) (ds : List Char) (kk : Int) : List Char :=
  let head := ds.take 1
  let tail := ds.drop 1
  let sign := if l.plusSign && kk ≥ 1 then ['+'] else []
  head ++ (if tail.isEmpty then [] else '.' :: tail) ++ ['e'] ++ sign ++ (toString (kk - 1)).toList

/-- The text of significant digits by this layout, without a sign. -/
def digitsChars (l : Layout) (d : Digits) : List Char :=
  let ds := d.chars
  let kk : Int := ds.length + d.exp
  if l.positional kk then l.positionalChars ds kk else l.exponentChars ds kk

/-- **Writes a double**: NaN and infinities by their texts, zero as `0`, any
other finite value by its shortest digits; a negative sign, also of zero,
as a leading `-`. -/
def render (l : Layout) (x : Float) : String :=
  match Binary.classify x with
  | .nan => l.nanText
  | .inf neg => (if neg then "-" else "") ++ l.infText
  | .finite b =>
    let sign := if b.neg then "-" else ""
    if b.mant = 0 then sign ++ String.ofList (l.positionalChars ['0'] 1)
    else sign ++ String.ofList (l.digitsChars (Binary.shortest b.mant b.exp))

end Layout

/-- **The plain layout**: always positional, no `.0` on whole numbers, `NaN`,
`inf`. So `1e21` is `1000000000000000000000`, `1e-7` is `0.0000001` and
`-0.0` is `-0`. -/
def plain : Layout where
  positional := fun _ => true
  pointZero := false
  nanText := "NaN"
  infText := "inf"

/-- A double in the plain layout. -/
def plainText (x : Float) : String := plain.render x


end Decimal
end Questionnaire
