import Questionnaire.Flow.PageCheck
import Questionnaire.Failure
import Questionnaire.Answer.Json

/-!
# Flow — moving through the pages

A stepper holds the current page, the page count, the messages of the fields
that failed, and whether the form went out. Moving forwards checks the
current page first: its old messages are dropped, the new ones recorded, and
a failing page blocks the move. Moving back, or jumping to an earlier page,
never checks anything; a jump forwards leaves the page as it is. Submitting
is possible from the last page only and checks the whole form, which replaces
every message; a form that passes goes out with the answers of its visible
fields that take input.

Each operation returns its result together with the stepper after it.

**Main definitions.** `Navigation`, `Submission`, `SubmitOutcome`, `Stepper`,
`Stepper.next`, `Stepper.submit`, `Stepper.submitTo`.
-/

namespace Questionnaire
namespace Flow

open Schema Validation Rules Json

/-- **What a move did.** -/
inductive Navigation where
  | moved (before after : Nat)
  | unchanged (step : Nat)
  | blocked (errors : IdMap String)
  deriving Inhabited

/-- A move as JSON. -/
def Navigation.toValue : Navigation → Value
  | .moved a b => .obj [("outcome", .str "moved"), ("from", .num (.nat a)), ("to", .num (.nat b))]
  | .unchanged s => .obj [("outcome", .str "unchanged"), ("step", .num (.nat s))]
  | .blocked errors => .obj [("outcome", .str "blocked"), ("errors", PageCheck.errorsValue errors)]

/-- **A form sent out**: its id and the answers it carries. -/
structure Submission where
  formId : Option String
  answers : Answers
  deriving Inhabited

namespace Submission

/-- **The submission of a form**: the answers of the fields that are visible
and take input; answers to other ids stay behind. -/
def collect (s : Schema) (answers : Answers) (state : Derived) : Submission :=
  let kept := (s.allFields.filter fun f => f.kind.isValidatable && state.isVisible f.id).map Field.id
  { formId := s.id, answers := answers.filter kept.contains }

/-- The entries of a submission as JSON. -/
def entries (s : Submission) : List (String × Value) :=
  [("form_id", match s.formId with | some i => .str i | none => .null),
   ("answers", s.answers.toValue)]

/-- A submission as JSON. -/
def toValue (s : Submission) : Value := .obj s.entries

end Submission

/-- **What a submission attempt did.** -/
inductive SubmitOutcome where
  | submitted (s : Submission)
  | blocked (firstInvalidStep : Nat) (errors : IdMap String)
  | notOnLastPage (step : Nat)
  deriving Inhabited

/-- A submission attempt as JSON. -/
def SubmitOutcome.toValue : SubmitOutcome → Value
  | .submitted s => .obj (("outcome", .str "submitted") :: s.entries)
  | .blocked step errors =>
    .obj [("outcome", .str "blocked"), ("first_invalid_step", .num (.nat step)),
      ("errors", PageCheck.errorsValue errors)]
  | .notOnLastPage step => .obj [("outcome", .str "notOnLastPage"), ("step", .num (.nat step))]

/-- **Where the pages stand.** -/
structure Stepper where
  step : Nat := 0
  pageCount : Nat
  errors : IdMap String := {}
  submitted : Bool := false
  compiler : Compiler
  deriving Inhabited

namespace Stepper

/-- A stepper on the first page of `pageCount`, checking with `compiler`. -/
def new (pageCount : Nat) (compiler : Compiler) : Stepper := { pageCount, compiler }

/-- Whether the current page is the first. -/
def isFirstPage (st : Stepper) : Bool := st.step == 0

/-- Whether the current page is the last; a form without pages is always on its last. -/
def isLastPage (st : Stepper) : Bool := st.pageCount == 0 || st.step == st.pageCount - 1

/-- The message of a field, if it failed. -/
def error? (st : Stepper) (fieldId : String) : Option String := st.errors.get? fieldId

/-- The stepper checking against another reference day. -/
def withToday (st : Stepper) (today : Calendar.Date) : Stepper :=
  { st with compiler := { st.compiler with today } }

/-- **Moves forwards** if the current page passes. -/
def next (st : Stepper) (s : Schema) (answers : Answers) (state : Derived) : Navigation × Stepper :=
  let check := checkPage st.compiler s answers st.step state
  let errors := (s.pageFieldIds st.step).foldl IdMap.erase st.errors
  if !check.ok then (.blocked check.errors, { st with errors := errors.union check.errors })
  else if st.isLastPage then (.unchanged st.step, { st with errors })
  else (.moved st.step (st.step + 1), { st with errors, step := st.step + 1 })

/-- **Moves back** one page, unless on the first. -/
def back (st : Stepper) : Navigation × Stepper :=
  if st.step == 0 then (.unchanged 0, st)
  else (.moved st.step (st.step - 1), { st with step := st.step - 1 })

/-- **Jumps back to an earlier page**; a later page leaves the stepper where
it is, a page past the last is a failure. -/
def jumpTo (st : Stepper) (target : Nat) : Except Failure (Navigation × Stepper) :=
  if target ≥ st.pageCount then .error (.stepOutOfRange target st.pageCount)
  else if target ≥ st.step then .ok (.unchanged st.step, st)
  else .ok (.moved st.step target, { st with step := target })

/-- **Forgets the message of a changed answer**; whether there was one. -/
def answerChanged (st : Stepper) (fieldId : String) : Bool × Stepper :=
  (st.errors.contains fieldId, { st with errors := st.errors.erase fieldId })

/-- The earliest page holding one of the ids, or `fallback` if none does. -/
def firstPageOf (s : Schema) (ids : List String) (fallback : Nat) : Nat :=
  match ids.filterMap s.pageIndexOf with
  | [] => fallback
  | p :: ps => ps.foldl min p

/-- **Submits the form** from the last page if every page passes. -/
def submit (st : Stepper) (s : Schema) (answers : Answers) (state : Derived) :
    SubmitOutcome × Stepper :=
  if st.pageCount == 0 || !st.isLastPage then (.notOnLastPage st.step, st)
  else
    let check := checkAll st.compiler s answers state
    let st := { st with errors := check.errors }
    if !check.ok then (.blocked (firstPageOf s check.errors.keys st.step) check.errors, st)
    else (.submitted (Submission.collect s answers state), { st with submitted := true })

/-- **Submits the form to a receiver** holding `sink`. A receiver that fails
leaves the form not submitted, and its failure becomes a refusal. -/
def submitTo {σ : Type} (st : Stepper) (s : Schema) (answers : Answers) (state : Derived)
    (accept : σ → Submission → Except Failure σ) (sink : σ) :
    Except Failure (SubmitOutcome × σ) × Stepper :=
  let (outcome, st) := st.submit s answers state
  match outcome with
  | .submitted sub =>
    match accept sink sub with
    | .ok sink => (.ok (outcome, sink), st)
    | .error f => (.error f.asRejection, { st with submitted := false })
  | _ => (.ok (outcome, sink), st)

end Stepper

/-- A receiver that keeps every submission, in order. -/
def collecting (sink : List Submission) (s : Submission) : Except Failure (List Submission) :=
  .ok (sink ++ [s])

/-- A receiver that refuses every submission with `f`. -/
def refusing (f : Failure) (_ : List Submission) (_ : Submission) : Except Failure (List Submission) :=
  .error f

end Flow
end Questionnaire
