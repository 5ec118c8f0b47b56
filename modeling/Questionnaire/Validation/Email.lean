import Questionnaire.Pattern.Regex

/-!
# Validation — e-mail addresses

An address is a local part of letters, digits and the characters
``.!#$%&'*+/=?^_`{|}~-``, an `@`, and a domain of at least two labels
separated by dots, each label one to 63 letters, digits or hyphens that
neither starts nor ends with a hyphen.

**Main definitions.** `emailPattern`, `isValidEmail`.
-/

namespace Questionnaire
namespace Validation

/-- The pattern of a valid address. -/
def emailPattern : String :=
  "^[A-Za-z0-9.!#$%&\x27*+/=?^_`\x7b|\x7d~-]+@[A-Za-z0-9](?:[A-Za-z0-9-]\x7b0,61\x7d[A-Za-z0-9])?" ++
  "(?:\\.[A-Za-z0-9](?:[A-Za-z0-9-]\x7b0,61\x7d[A-Za-z0-9])?)+$"

/-- The compiled pattern of a valid address. -/
def emailRegex : Option Pattern.Regex := (Pattern.Regex.compile emailPattern).toOption

/-- **Whether a text is a valid address.** -/
def isValidEmail (s : String) : Bool :=
  match emailRegex with
  | some r => r.isMatch s
  | none => false

end Validation
end Questionnaire
