import Questionnaire.Flow.Stepper
import Questionnaire.Rules.Eval
import Questionnaire.Config

/-!
# Flow — a session of filling in a form

A session holds a form, the answers so far, the visible and required fields
they give, and where the pages stand. Every change of an answer forgets that
field's message, stores the change, counts one more version and evaluates
the rules again, so the derived state always belongs to the stored answers.
A caller that worked on an older version can tell by comparing versions.

**Main definitions.** `Session`, `Session.create`, `Session.setAnswer`,
`Session.clearAnswer`, `Session.validators`.
-/

namespace Questionnaire
namespace Flow

open Schema Validation Rules

/-- **A form being filled in.** -/
structure Session where
  schema : Schema
  fields : List Field
  answers : Answers := {}
  state : Derived
  limits : Limits
  stepper : Stepper
  version : Nat := 0
  deriving Inhabited

namespace Session

/-- The derived state of the stored answers. -/
def recompute (s : Session) : Session :=
  { s with state := evaluate s.limits s.schema.rules s.answers s.fields }

/-- **A fresh session** of a form under a configuration, checking future
dates against `today`. -/
def create (schema : Schema) (config : Config) (today : Calendar.Date) : Session :=
  let fields := schema.allFields
  { schema, fields, limits := config.limits
    state := evaluate config.limits schema.rules {} fields
    stepper := Stepper.new schema.pageCount { messages := config.messages, today } }

/-- The session resumed from saved answers: one version later. -/
def withAnswers (s : Session) (answers : Answers) : Session :=
  recompute { s with answers, version := s.version + 1 }

/-- The session checking future dates against another day. -/
def withToday (s : Session) (today : Calendar.Date) : Session :=
  { s with stepper := s.stepper.withToday today }

/-- Whether the session is still at `version`. -/
def isCurrent (s : Session) (version : Nat) : Bool := s.version == version

/-- The stored answer of a field. -/
def answer? (s : Session) (fieldId : String) : Option Answer := s.answers.get? fieldId

/-- **Stores an answer**; the new version. -/
def setAnswer (s : Session) (fieldId : String) (value : Answer) : Nat × Session :=
  let s := recompute { s with stepper := (s.stepper.answerChanged fieldId).2
                              answers := s.answers.insert fieldId value
                              version := s.version + 1 }
  (s.version, s)

/-- **Removes an answer**; the new version. -/
def clearAnswer (s : Session) (fieldId : String) : Nat × Session :=
  let s := recompute { s with stepper := (s.stepper.answerChanged fieldId).2
                              answers := s.answers.erase fieldId
                              version := s.version + 1 }
  (s.version, s)

/-- The evaluation of the stored answers, with the rules that fired. -/
def trace (s : Session) : Trace := evaluateWithTrace s.limits s.schema.rules s.answers s.fields

/-- **The validators** of the fields under the current derived state. -/
def validators (s : Session) : ValidatorSet :=
  s.stepper.compiler.compile s.fields s.state.required s.state.visible

/-- Checks the current page; the recorded messages stay as they are. -/
def validateCurrentPage (s : Session) : PageCheck :=
  checkPage s.stepper.compiler s.schema s.answers s.stepper.step s.state

/-- Moves forwards if the current page passes. -/
def next (s : Session) : Navigation × Session :=
  let (nav, st) := s.stepper.next s.schema s.answers s.state
  (nav, { s with stepper := st })

/-- Moves back one page. -/
def back (s : Session) : Navigation × Session :=
  let (nav, st) := s.stepper.back
  (nav, { s with stepper := st })

/-- Jumps back to an earlier page. -/
def jumpTo (s : Session) (target : Nat) : Except Failure (Navigation × Session) := do
  let (nav, st) ← s.stepper.jumpTo target
  pure (nav, { s with stepper := st })

/-- Submits the stored answers. -/
def submit (s : Session) : SubmitOutcome × Session :=
  let (outcome, st) := s.stepper.submit s.schema s.answers s.state
  (outcome, { s with stepper := st })

/-- Submits the stored answers to a receiver holding `sink`. -/
def submitTo {σ : Type} (s : Session) (accept : σ → Submission → Except Failure σ) (sink : σ) :
    Except Failure (SubmitOutcome × σ) × Session :=
  let (result, st) := s.stepper.submitTo s.schema s.answers s.state accept sink
  (result, { s with stepper := st })

end Session

end Flow
end Questionnaire
