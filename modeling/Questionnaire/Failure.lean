import Questionnaire.Schema.Integrity

/-!
# Failures

Why an operation of the interpreter can fail, and the one sentence each
failure is reported with. A form that fails its integrity check carries the
error-severity issues; a step past the last page carries the step and the
page count; a refused submission carries the receiver's own reason.

**Main definitions.** `Failure`, `Failure.text`, `Failure.asRejection`,
`Schema.Report.result`.
-/

namespace Questionnaire

/-- **Why an operation failed.** -/
inductive Failure where
  | config (message : String)
  | schema (message : String)
  | integrity (issues : List Schema.Issue)
  | stepOutOfRange (step pageCount : Nat)
  | submission (message : String)
  | internal (message : String)
  deriving Inhabited

namespace Failure

/-- **The sentence a failure is reported with.** -/
def text : Failure → String
  | .config m => "Config error: " ++ m
  | .schema m => "Schema error: " ++ m
  | .integrity issues =>
    "Schema integrity check failed with " ++ toString issues.length ++ " error(s): " ++
      "; ".intercalate (issues.map Schema.Issue.text)
  | .stepOutOfRange step pageCount =>
    "Step " ++ toString step ++ " is out of range for a form with " ++ toString pageCount ++
      " page(s)"
  | .submission m => "Submission rejected: " ++ m
  | .internal m => "Internal error: " ++ m

/-- A receiver's failure as a refused submission: a refusal stays as it is,
any other failure becomes a refusal whose reason is its sentence. -/
def asRejection : Failure → Failure
  | .submission m => .submission m
  | f => .submission f.text

end Failure

/-- **A report as a verdict**: a failure listing the errors, if there are any. -/
def Schema.Report.result (r : Schema.Report) : Except Failure Unit :=
  if r.errors.isEmpty then .ok () else .error (.integrity r.errors)

end Questionnaire
