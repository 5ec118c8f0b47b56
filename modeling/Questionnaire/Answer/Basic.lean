import Questionnaire.Decimal.Layout
import Questionnaire.Decimal.Read
import Questionnaire.Text.Blank

/-!
# Answer — the value of one field

An answer is nothing, a truth value, a number, a text, a list of texts, or a
list of uploaded files (only their metadata travels with the answers). This
module gives the coercions every later rule reads answers through.

* Empty: nothing, the empty text, an empty list.
* As a number: a number itself, `1`/`0` for truth values, a numeric text,
  and NaN for everything else. A numeric text is, after trimming blanks, a
  decimal literal built only of digits, points, signs and `e`/`E`, so words
  such as `inf` or `NaN` are not numbers.
* The loose text: empty for nothing, `true`/`false`, the plain decimal of a
  number, the text, and list items (or file names) joined by commas.

**Main definitions.** `Answer`, `parseNumber`, `Answer.asNumber`,
`Answer.looseText`, `Answer.isEmpty`.
-/

namespace Questionnaire

/-- **An uploaded file**: its name and, when known, size in bytes, media
type and address. -/
structure FileRef where
  name : String
  size : Option Nat := none
  mimeType : Option String := none
  url : Option String := none
  deriving Inhabited, DecidableEq

/-- **An answer.** -/
inductive Answer where
  | null
  | bool (b : Bool)
  | number (x : Float)
  | text (s : String)
  | list (items : List String)
  | files (fs : List FileRef)
  deriving Inhabited

/-- Only these characters may make up a numeric text. -/
def isNumeralChar (c : Char) : Bool :=
  c.isDigit || c == '.' || c == '-' || c == '+' || c == 'e' || c == 'E'

/-- **Reads a numeric text**: after trimming blanks, a decimal literal of
digits, points, signs and exponent letters only; anything else is NaN. -/
def parseNumber (s : String) : Float :=
  let cs := Text.trimChars s.toList
  if cs.isEmpty || !cs.all isNumeralChar then (0.0 / 0.0 : Float)
  else
    match Decimal.Literal.parse cs with
    | some l => l.toFloat
    | none => (0.0 / 0.0 : Float)

/-- The plain decimal text of a number: always positional, `NaN`, `inf`. -/
def numberText (x : Float) : String := Decimal.plainText x

namespace Answer

/-- Whether the answer is a list of texts or of files. -/
def isSequence : Answer → Bool
  | .list _ | .files _ => true
  | _ => false

/-- **Empty**: nothing, the empty text, or an empty list. -/
def isEmpty : Answer → Bool
  | .null => true
  | .text s => s.isEmpty
  | .list items => items.isEmpty
  | .files fs => fs.isEmpty
  | .bool _ | .number _ => false

/-- **The answer as a number**; NaN when it is none. -/
def asNumber : Answer → Float
  | .number x => x
  | .bool b => if b then 1.0 else 0.0
  | .text s => parseNumber s
  | .null | .list _ | .files _ => (0.0 / 0.0 : Float)

/-- **The loose text** of an answer, used by equality and substring tests. -/
def looseText : Answer → String
  | .null => ""
  | .bool b => if b then "true" else "false"
  | .number x => numberText x
  | .text s => s
  | .list items => ",".intercalate items
  | .files fs => ",".intercalate (fs.map FileRef.name)

/-- The text an answer is shown as: the loose text. -/
def display (a : Answer) : String := a.looseText

end Answer

end Questionnaire
