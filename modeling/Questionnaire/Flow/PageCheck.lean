import Questionnaire.Validation.Compile
import Questionnaire.Rules.Outcome
import Questionnaire.Schema.Form

/-!
# Flow — checking a page

A page is checked by compiling validators for its fields under the derived
state and validating the answers of the fields that are visible; the check
passes when no field fails. The whole form is checked the same way over all
of its fields. A step past the last page has no fields and always passes.

**Main definitions.** `PageCheck`, `checkFields`, `checkPage`, `checkAll`,
`canAdvance`, `canSubmit`.
-/

namespace Questionnaire
namespace Flow

open Schema Validation Rules Json

/-- **The result of checking fields**: one message per failing field. -/
structure PageCheck where
  errors : IdMap String := {}
  deriving Inhabited

namespace PageCheck

/-- Whether every field passed. -/
def ok (p : PageCheck) : Bool := p.errors.isEmpty

/-- A message map as JSON. -/
def errorsValue (errors : IdMap String) : Value :=
  .obj (errors.toList.map fun (k, m) => (k, .str m))

/-- The check as JSON. -/
def toValue (p : PageCheck) : Value := .obj [("ok", .bool p.ok), ("errors", errorsValue p.errors)]

end PageCheck

/-- **Checks the given fields**: the visible ones, against their answers. -/
def checkFields (c : Compiler) (fields : List Field) (answers : Answers) (state : Derived) :
    PageCheck :=
  let validators := c.compile fields state.required state.visible
  ⟨validators.validateAnswers answers ((fields.map Field.id).filter state.visible.contains)⟩

/-- **Checks page `step`** of a form. -/
def checkPage (c : Compiler) (s : Schema) (answers : Answers) (step : Nat) (state : Derived) :
    PageCheck :=
  checkFields c ((s.pages[step]?.map Page.fields).getD []) answers state

/-- **Checks every page** of a form at once. -/
def checkAll (c : Compiler) (s : Schema) (answers : Answers) (state : Derived) : PageCheck :=
  checkFields c s.allFields answers state

/-- Whether page `step` may be left forwards. -/
def canAdvance (c : Compiler) (s : Schema) (answers : Answers) (step : Nat) (state : Derived) :
    Bool :=
  (checkPage c s answers step state).ok

/-- Whether the form may be submitted from page `step`: it is the last page
and the whole form passes. -/
def canSubmit (c : Compiler) (s : Schema) (answers : Answers) (step : Nat) (state : Derived) :
    Bool :=
  s.pageCount > 0 && step == s.pageCount - 1 && (checkAll c s answers state).ok

end Flow
end Questionnaire
