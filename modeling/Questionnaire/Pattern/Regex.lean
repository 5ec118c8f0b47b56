import Questionnaire.Pattern.Parse
import Questionnaire.Pattern.Message
import Questionnaire.Pattern.Size
import Questionnaire.Pattern.Automaton

/-!
# Pattern — compiled patterns

A pattern is compiled in three steps: parsed into a syntax tree, given its
meaning under its flags, and, if the automata it compiles to stay within
the size limit while they are built (`Expr.withinLimit`), made into an
automaton for matching. A fault in the first two steps is reported with
the pattern and carets under the offending part; a pattern past the size
limit is refused as too big.

**Main definitions.** `Regex`, `Regex.compile`, `Regex.isMatch`, `RegexError.text`.
-/

namespace Questionnaire
namespace Pattern

/-- **Why a pattern cannot be compiled.** -/
inductive RegexError where
  | malformed (message : String)
  | tooBig (limit : Nat)
  deriving DecidableEq, Inhabited, Repr

/-- The text of the fault. -/
def RegexError.text : RegexError → String
  | .malformed m => m
  | .tooBig limit => "Compiled regex exceeds size limit of " ++ toString limit ++ " bytes."

/-- **A compiled pattern.** -/
structure Regex where
  source : String
  automaton : Automaton
  deriving Inhabited

namespace Regex

/-- **Compiles a pattern.** -/
def compile (pattern : String) : Except RegexError Regex :=
  match parse pattern >>= translate with
  | .error e => .error (.malformed (e.message pattern))
  | .ok e =>
    if !e.withinLimit then .error (.tooBig sizeLimit)
    else .ok ⟨pattern, Automaton.ofExpr e⟩

/-- **Whether the pattern matches somewhere in a text.** -/
def isMatch (r : Regex) (text : String) : Bool := r.automaton.search text

end Regex

end Pattern
end Questionnaire
