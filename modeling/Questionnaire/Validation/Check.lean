import Questionnaire.Validation.Catalog
import Questionnaire.Validation.Email
import Questionnaire.Calendar.Parse
import Questionnaire.Answer.Basic
import Questionnaire.Text.Lower

/-!
# Validation — the checks of one field

A field's check is compiled from its type and constraints; it accepts an
answer or fails with the one message of the first test that fails. A
missing answer and `null` are the same for every check.

* **Permissive** (hidden fields) accepts everything.
* **Text**: a text, else the wrong type. Empty is fine unless required;
  otherwise the e-mail shape (for e-mail fields), the pattern, then the
  least and greatest length in characters.
* **Number**: a blank text is no answer; a text is read as a number, a
  number is itself, anything else is not a number. It must be finite, then
  at least `min`, at most `max`.
* **Date**: a text, trimmed, else not a date. Empty is fine unless
  required; it must read as a date, then be on or after `min`, on or before
  `max`, and, when the future is refused, not after the reference day.
* **Choice**: a text, else not an option. Empty is fine unless required;
  it must be one of the allowed values when they are given.
* **Several choices**: a list, or the empty text as no choice, else the
  wrong type. None chosen fails if required; each must be allowed.
* **Agreement**: checked passes; unchecked fails if required or it must be
  checked; missing fails if required; anything else is the wrong type.
* **Files**: files, or an empty list, else the wrong type. None fails if
  required; then the count, each file's size, and each file's type.

**Main definitions.** `Check`, `Validator`, `Validator.validate`, `Verdict`.
-/

namespace Questionnaire
namespace Validation

open Calendar

/-- **The verdict** on an answer: accepted, or the message it fails with. -/
abbrev Verdict := Except String Unit

/-- The rules of a text field. -/
structure TextRules where
  required : Bool := false
  email : Bool := false
  pattern : Option Pattern.Regex := none
  patternMessage : Option String := none
  minLength : Option Nat := none
  maxLength : Option Nat := none
  deriving Inhabited

/-- The rules of a file field. -/
structure FileRules where
  required : Bool := false
  maxFiles : Option Nat := none
  maxFileSizeBytes : Option Nat := none
  acceptedFileTypes : Option (List String) := none
  deriving Inhabited

/-- **The compiled check of a field.** -/
inductive Check where
  | permissive
  | text (rules : TextRules)
  | number (required : Bool) (min max : Option Float)
  | date (required : Bool) (min max : Option Date) (disallowFuture : Bool) (today : Date)
  | choice (required : Bool) (allowed : Option (List String))
  | multiChoice (required : Bool) (allowed : Option (List String))
  | agreement (required mustBeTrue : Bool)
  | files (rules : FileRules)
  deriving Inhabited

/-- The name of a check's kind. -/
def Check.kindName : Check → String
  | .permissive => "permissive"
  | .text _ => "text"
  | .number .. => "number"
  | .date .. => "date"
  | .choice .. => "choice"
  | .multiChoice .. => "multiChoice"
  | .agreement .. => "agreement"
  | .files _ => "files"

/-- **A field's validator**: its id, its check, and the messages it fails with. -/
structure Validator where
  fieldId : String
  check : Check
  messages : Catalog
  deriving Inhabited

/-- Whether a file is of an accepted type: an entry `.ext` is a name suffix,
`type/*` a media type family, anything else a whole media type; names,
types and entries are compared trimmed and lowered. -/
def isAcceptedType (file : FileRef) (accepted : List String) : Bool :=
  let name := Text.toLower file.name
  let mime := file.mimeType.map Text.toLower
  accepted.any fun entry =>
    let e := Text.toLower (Text.trim entry)
    if e.startsWith "." then name.endsWith e
    else if e.endsWith "/*" then
      let family := String.ofList (e.toList.take (e.length - 2))
      match mime with
      | some m => (m.splitOn "/").head? == some family
      | none => false
    else mime == some e

namespace Validator

/-- Fails unless `required` does not hold. -/
def unlessRequired (required : Bool) (message : String) : Verdict :=
  if required then .error message else .ok ()

/-- The text check. -/
def validateText (c : Catalog) (r : TextRules) (value : Option Answer) : Verdict := do
  let text ← match value with
    | none => pure ""
    | some (.text s) => pure s
    | some _ => throw c.unexpectedType
  if text.isEmpty then return ← unlessRequired r.required c.required
  if r.email && !isValidEmail text then throw c.invalidEmail
  if let some re := r.pattern then
    if !re.isMatch text then throw (r.patternMessage.getD c.patternMismatch)
  let length := text.length
  if let some min := r.minLength then
    if length < min then throw (render c.minLength (some (toString min)) none none)
  if let some max := r.maxLength then
    if length > max then throw (render c.maxLength none (some (toString max)) none)

/-- The number check. -/
def validateNumber (c : Catalog) (required : Bool) (min max : Option Float)
    (value : Option Answer) : Verdict := do
  let number ← match value with
    | none => pure none
    | some (.text s) => pure (if Text.isBlankText s then none else some (parseNumber s))
    | some (.number n) => pure (some n)
    | some _ => throw c.invalidNumber
  match number with
  | none => unlessRequired required c.required
  | some n =>
    if n.isNaN || n.isInf then throw c.invalidNumber
    if let some lo := min then
      if n < lo then throw (render c.minValue (some (numberText lo)) none none)
    if let some hi := max then
      if n > hi then throw (render c.maxValue none (some (numberText hi)) none)

/-- The date check. -/
def validateDate (c : Catalog) (required : Bool) (min max : Option Date) (disallowFuture : Bool)
    (today : Date) (value : Option Answer) : Verdict := do
  let text ← match value with
    | none => pure ""
    | some (.text s) => pure (Text.trim s)
    | some _ => throw c.invalidDate
  if text.isEmpty then return ← unlessRequired required c.required
  match parseDate text with
  | none => throw c.invalidDate
  | some d =>
    if let some lo := min then
      if d.lt lo then throw (render c.minDate (some lo.text) none none)
    if let some hi := max then
      if hi.lt d then throw (render c.maxDate none (some hi.text) none)
    if disallowFuture && today.lt d then throw c.futureDate

/-- The single-choice check. -/
def validateChoice (c : Catalog) (required : Bool) (allowed : Option (List String))
    (value : Option Answer) : Verdict := do
  let choice ← match value with
    | none => pure ""
    | some (.text s) => pure s
    | some _ => throw c.invalidOption
  if choice.isEmpty then return ← unlessRequired required c.required
  if let some vs := allowed then
    if !vs.contains choice then throw c.invalidOption

/-- The several-choices check. -/
def validateMultiChoice (c : Catalog) (required : Bool) (allowed : Option (List String))
    (value : Option Answer) : Verdict := do
  let selected ← match value with
    | none => pure []
    | some (.list items) => pure items
    | some (.text s) => if s.isEmpty then pure [] else throw c.unexpectedType
    | some _ => throw c.unexpectedType
  if selected.isEmpty then return ← unlessRequired required c.selectAtLeastOne
  if let some vs := allowed then
    if selected.any (fun s => !vs.contains s) then throw c.invalidOption

/-- The agreement check. -/
def validateAgreement (c : Catalog) (required mustBeTrue : Bool) (value : Option Answer) : Verdict :=
  match value with
  | some (.bool true) => .ok ()
  | some (.bool false) => unlessRequired (required || mustBeTrue) c.mustAgree
  | none => unlessRequired required c.mustAgree
  | some _ => .error c.unexpectedType

/-- The files check. -/
def validateFiles (c : Catalog) (r : FileRules) (value : Option Answer) : Verdict := do
  let files ← match value with
    | none => pure []
    | some (.files fs) => pure fs
    | some (.list []) => pure []
    | some _ => throw c.unexpectedType
  if files.isEmpty then return ← unlessRequired r.required c.fileRequired
  if let some max := r.maxFiles then
    if files.length > max then throw (render c.tooManyFiles none (some (toString max)) none)
  if let some max := r.maxFileSizeBytes then
    if let some f := files.find? (fun f => f.size.any (· > max)) then
      throw (render c.fileTooLarge none (some (toString max)) (some f.name))
  if let some accepted := r.acceptedFileTypes then
    if let some f := files.find? (fun f => !isAcceptedType f accepted) then
      throw (render c.fileTypeNotAccepted none none (some f.name))

/-- **Validates an answer**; `null` counts as no answer. -/
def validate (v : Validator) (value : Option Answer) : Verdict :=
  let value := match value with
    | some .null => none
    | other => other
  let c := v.messages
  match v.check with
  | .permissive => .ok ()
  | .text r => validateText c r value
  | .number required min max => validateNumber c required min max value
  | .date required min max future today => validateDate c required min max future today value
  | .choice required allowed => validateChoice c required allowed value
  | .multiChoice required allowed => validateMultiChoice c required allowed value
  | .agreement required mustBeTrue => validateAgreement c required mustBeTrue value
  | .files r => validateFiles c r value

end Validator

end Validation
end Questionnaire
