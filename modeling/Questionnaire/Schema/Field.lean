/-!
# Schema — fields

A field has an id, a kind, a label, an intrinsic required flag, optional
choices and an optional bag of constraints. Of the fourteen kinds, four are
decorative (paragraph, divider, spacer, image): they take no answer and are
never validated. Only the constraints that make sense for a field's kind are
consulted; the rest are ignored.

**Main definitions.** `FieldKind`, `FieldKind.isValidatable`, `Choice`,
`Constraints`, `Field`, `Field.hasOptions`.
-/

namespace Questionnaire
namespace Schema

/-- **The kind of a field.** -/
inductive FieldKind where
  | text | email | number | date | textarea | select | radio | checkbox | multiselect | file
  | paragraph | divider | spacer | image
  deriving DecidableEq, Inhabited

namespace FieldKind

/-- The kinds with their names, in declaration order. -/
def named : List (String × FieldKind) :=
  [("text", .text), ("email", .email), ("number", .number), ("date", .date),
   ("textarea", .textarea), ("select", .select), ("radio", .radio), ("checkbox", .checkbox),
   ("multiselect", .multiselect), ("file", .file), ("paragraph", .paragraph),
   ("divider", .divider), ("spacer", .spacer), ("image", .image)]

/-- The name of a kind. -/
def name : FieldKind → String
  | .text => "text" | .email => "email" | .number => "number" | .date => "date"
  | .textarea => "textarea" | .select => "select" | .radio => "radio"
  | .checkbox => "checkbox" | .multiselect => "multiselect" | .file => "file"
  | .paragraph => "paragraph" | .divider => "divider" | .spacer => "spacer"
  | .image => "image"

/-- The kind of an exact name. -/
def ofName? (s : String) : Option FieldKind := named.lookup s

/-- **Takes answers**: every kind but the four decorative ones. -/
def isValidatable : FieldKind → Bool
  | .paragraph | .divider | .spacer | .image => false
  | _ => true

end FieldKind

/-- One choice of a field: its value and, perhaps, a label. -/
structure Choice where
  value : String
  label : Option String := none
  deriving DecidableEq, Inhabited

/-- **The constraint bag** of a field. Lengths count characters; dates are
texts of the form `YYYY-MM-DD`. -/
structure Constraints where
  minLength : Option Nat := none
  maxLength : Option Nat := none
  pattern : Option String := none
  patternMessage : Option String := none
  min : Option Float := none
  max : Option Float := none
  minDate : Option String := none
  maxDate : Option String := none
  disallowFuture : Bool := false
  mustBeTrue : Bool := false
  allowedValues : Option (List String) := none
  maxFiles : Option Nat := none
  maxFileSizeBytes : Option Nat := none
  acceptedFileTypes : Option (List String) := none
  deriving Inhabited

/-- **A field** of a form. -/
structure Field where
  id : String
  kind : FieldKind
  label : String := ""
  required : Bool := false
  options : Option (List Choice) := none
  validation : Option Constraints := none
  deriving Inhabited

namespace Field

/-- A field of the given id and kind, labelled by its id. -/
def new (id : String) (kind : FieldKind) : Field := { id, kind, label := id }

/-- **Has options**: a non-empty list of choices. A checkbox with options
collects several values; without them it is a single agreement box. -/
def hasOptions (f : Field) : Bool :=
  match f.options with
  | some (_ :: _) => true
  | _ => false

/-- The field marked required. -/
def markRequired (f : Field) : Field := { f with required := true }

/-- The field with another label. -/
def withLabel (f : Field) (label : String) : Field := { f with label := label }

/-- The field with each value as a choice. -/
def withOptions (f : Field) (values : List String) : Field :=
  { f with options := some (values.map fun v => { value := v }) }

/-- The field with a constraint bag. -/
def withValidation (f : Field) (v : Constraints) : Field := { f with validation := some v }

end Field

end Schema
end Questionnaire
