import Questionnaire.Json.Decode

/-!
# Validation — the message catalog

Every message a check can fail with, keyed by what went wrong. Hosts replace
entries to localise; a catalog read from JSON takes each missing key from
the default catalog. Templates hold the placeholders `{min}`, `{max}` and
`{value}`, which `render` fills in that order, each only when a value for
it is given; a value that itself contains a placeholder is filled by the
later steps.

**Main definitions.** `Catalog`, `render`, `Catalog.decode`, `Catalog.toValue`.
-/

namespace Questionnaire
namespace Validation

/-- **The messages of the checks**, with their defaults. -/
structure Catalog where
  required : String := "this field is required"
  invalidEmail : String := "please enter a valid email address"
  selectAtLeastOne : String := "select at least one"
  invalidNumber : String := "please enter a valid number"
  invalidDate : String := "please enter a valid date"
  futureDate : String := "date cannot be in the future"
  invalidOption : String := "please select a valid option"
  mustAgree : String := "you must check this box to continue"
  fileRequired : String := "please upload at least one file"
  unexpectedType : String := "unexpected value type"
  patternMismatch : String := "invalid format"
  minLength : String := "must be at least \x7bmin\x7d characters"
  maxLength : String := "must be at most \x7bmax\x7d characters"
  minValue : String := "must be at least \x7bmin\x7d"
  maxValue : String := "must be at most \x7bmax\x7d"
  minDate : String := "date must be on or after \x7bmin\x7d"
  maxDate : String := "date must be on or before \x7bmax\x7d"
  tooManyFiles : String := "upload at most \x7bmax\x7d files"
  fileTooLarge : String := "\x7bvalue\x7d exceeds the maximum size of \x7bmax\x7d bytes"
  fileTypeNotAccepted : String := "\x7bvalue\x7d is not an accepted file type"
  deriving DecidableEq, Inhabited, Repr

/-- **Fills a template**: every `{min}`, then every `{max}`, then every
`{value}`, each only when given. -/
def render (template : String) (min max value : Option String) : String :=
  let fill (s : String) (key : String) : Option String → String
    | some v => s.replace key v
    | none => s
  fill (fill (fill template "\x7bmin\x7d" min) "\x7bmax\x7d" max) "\x7bvalue\x7d" value

namespace Catalog

open Json

/-- The keys of the catalog, in declaration order, with their readers and writers. -/
def entries : List (String × (Catalog → String) × (Catalog → String → Catalog)) :=
  [ ("required", (·.required), fun c v => { c with required := v }),
    ("invalidEmail", (·.invalidEmail), fun c v => { c with invalidEmail := v }),
    ("selectAtLeastOne", (·.selectAtLeastOne), fun c v => { c with selectAtLeastOne := v }),
    ("invalidNumber", (·.invalidNumber), fun c v => { c with invalidNumber := v }),
    ("invalidDate", (·.invalidDate), fun c v => { c with invalidDate := v }),
    ("futureDate", (·.futureDate), fun c v => { c with futureDate := v }),
    ("invalidOption", (·.invalidOption), fun c v => { c with invalidOption := v }),
    ("mustAgree", (·.mustAgree), fun c v => { c with mustAgree := v }),
    ("fileRequired", (·.fileRequired), fun c v => { c with fileRequired := v }),
    ("unexpectedType", (·.unexpectedType), fun c v => { c with unexpectedType := v }),
    ("patternMismatch", (·.patternMismatch), fun c v => { c with patternMismatch := v }),
    ("minLength", (·.minLength), fun c v => { c with minLength := v }),
    ("maxLength", (·.maxLength), fun c v => { c with maxLength := v }),
    ("minValue", (·.minValue), fun c v => { c with minValue := v }),
    ("maxValue", (·.maxValue), fun c v => { c with maxValue := v }),
    ("minDate", (·.minDate), fun c v => { c with minDate := v }),
    ("maxDate", (·.maxDate), fun c v => { c with maxDate := v }),
    ("tooManyFiles", (·.tooManyFiles), fun c v => { c with tooManyFiles := v }),
    ("fileTooLarge", (·.fileTooLarge), fun c v => { c with fileTooLarge := v }),
    ("fileTypeNotAccepted", (·.fileTypeNotAccepted), fun c v => { c with fileTypeNotAccepted := v }) ]

/-- **A catalog record**; every key is optional. -/
def decode {m : Type → Type} [Monad m] [Decoder m] : m Catalog :=
  Decoder.record "MessageCatalog"
    (entries.map fun (k, _, put) =>
      { key := k, read := fun c => do let v ← Decoder.string; pure (put c v) })
    {}

/-- The catalog as JSON, keys in declaration order. -/
def toValue (c : Catalog) : Value :=
  .obj (entries.map fun (k, get, _) => (k, .str (get c)))

end Catalog

end Validation
end Questionnaire
