import Questionnaire.Answer.Basic
import Questionnaire.Json.Value

/-!
# Rules — literals

The value a condition compares with is any JSON value, its literal. Like an
answer, a literal is read as a number (a number itself, `1`/`0` for truth
values, a numeric text, NaN otherwise) and as a text (empty for null, the
plain decimal of a number, array items joined by commas, and
`[object Object]` for an object).

**Main definitions.** `literalNumber`, `literalText`.
-/

namespace Questionnaire
namespace Rules

open Json

/-- **A literal as a number**; NaN when it is none. -/
def literalNumber : Value → Float
  | .num n => n.toFloat
  | .bool b => if b then 1.0 else 0.0
  | .str s => parseNumber s
  | _ => (0.0 / 0.0 : Float)

mutual

/-- **A literal as a text.** -/
def literalText : Value → String
  | .null => ""
  | .bool b => if b then "true" else "false"
  | .num n => numberText n.toFloat
  | .str s => s
  | .arr items => literalTexts items
  | .obj _ => "[object Object]"

/-- Items as texts joined by commas. -/
def literalTexts : List Value → String
  | [] => ""
  | [v] => literalText v
  | v :: rest => literalText v ++ "," ++ literalTexts rest

end

end Rules
end Questionnaire
