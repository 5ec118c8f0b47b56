import Questionnaire.Validation.Check
import Questionnaire.Schema.Form
import Questionnaire.Answer.Json

/-!
# Validation — compiling a form's validators

Each field with a value gets one validator; decorative fields get none.
A hidden field's validator accepts everything. Otherwise the check follows
the field's type: text, text area and e-mail are texts (e-mail with the
address shape), select and radio are single choices, multiselect and a
checkbox with options are several choices, a checkbox without options is
an agreement, file is files. Broken constraints are dropped: an empty or
invalid pattern, and a blank or unreadable date bound.

Validators are keyed by field id; of two fields with one id the later wins.
Ids without a validator always pass.

**Main definitions.** `Compiler`, `Compiler.compileField`, `Compiler.compile`,
`ValidatorSet`, `ValidatorSet.validateAnswers`.
-/

namespace Questionnaire
namespace Validation

open Schema Calendar

/-- **A compiler of validators**: the messages, and the reference day against
which future dates are refused. -/
structure Compiler where
  messages : Catalog := {}
  today : Date
  deriving Inhabited

/-- The pattern of a constraint, unless empty or invalid. -/
def compilePattern (pattern : Option String) : Option Pattern.Regex :=
  match pattern with
  | some p => if p.isEmpty then none else (Pattern.Regex.compile p).toOption
  | none => none

/-- A date bound, unless blank or unreadable. -/
def dateBound (value : Option String) : Option Date :=
  match value with
  | some v => if Text.isBlankText v then none else parseDate v
  | none => none

namespace Compiler

/-- **The check of a visible field.** -/
def checkFor (c : Compiler) (f : Field) (required : Bool) : Check :=
  let v := f.validation.getD {}
  match f.kind with
  | .text | .textarea | .email =>
    .text { required, email := f.kind == .email, pattern := compilePattern v.pattern,
            patternMessage := v.patternMessage, minLength := v.minLength, maxLength := v.maxLength }
  | .number => .number required v.min v.max
  | .date => .date required (dateBound v.minDate) (dateBound v.maxDate) v.disallowFuture c.today
  | .select | .radio => .choice required v.allowedValues
  | .checkbox => if f.hasOptions then .multiChoice required v.allowedValues else .agreement required v.mustBeTrue
  | .multiselect => .multiChoice required v.allowedValues
  | .file => .files { required, maxFiles := v.maxFiles, maxFileSizeBytes := v.maxFileSizeBytes,
                      acceptedFileTypes := v.acceptedFileTypes }
  | .paragraph | .divider | .spacer | .image => .permissive

/-- **The validator of a field**, none for a decorative one. -/
def compileField (c : Compiler) (f : Field) (required visible : Bool) : Option Validator :=
  if !f.kind.isValidatable then none
  else some { fieldId := f.id, check := if visible then c.checkFor f required else .permissive,
              messages := c.messages }

end Compiler

/-- **The validators of a form**, keyed by field id. -/
structure ValidatorSet where
  validators : IdMap Validator := {}
  deriving Inhabited

namespace ValidatorSet

/-- The validator of an id. -/
def get? (s : ValidatorSet) (id : String) : Option Validator := s.validators.get? id

/-- How many validators the set holds. -/
def size (s : ValidatorSet) : Nat := s.validators.size

/-- **Validates one answer**; an id without a validator passes. -/
def validate (s : ValidatorSet) (id : String) (value : Option Answer) : Verdict :=
  match s.get? id with
  | some v => v.validate value
  | none => .ok ()

/-- **The failures** of the given ids, one message each, keyed by id. -/
def validateAnswers (s : ValidatorSet) (answers : Answers) (ids : List String) : IdMap String :=
  IdMap.ofList (ids.filterMap fun id =>
    match s.validate id (answers.get? id) with
    | .error m => some (id, m)
    | .ok () => none)

end ValidatorSet

/-- **Compiles the validators** of fields for the required and visible ids. -/
def Compiler.compile (c : Compiler) (fields : List Field) (required visible : IdSet) : ValidatorSet :=
  ⟨IdMap.ofList (fields.filterMap fun f =>
    (c.compileField f (required.contains f.id) (visible.contains f.id)).map fun v => (f.id, v))⟩

end Validation
end Questionnaire
