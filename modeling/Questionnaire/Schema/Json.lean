import Questionnaire.Schema.Form
import Questionnaire.Rules.Json
import Questionnaire.Answer.Json

/-!
# Schema — forms as JSON

Every part of a form is an object with camel-case keys; unknown keys are
ignored everywhere. Only a page's id, a field's id and type, a choice's value
and an action's type and target are required; every other key has a default.
Field types are the fourteen lowercase names, and any other name is an error.
Counts and lengths are natural numbers below `2^64`, a form version below
`2^32`.

Written back, keys come in declaration order, missing optional parts are left
out, and a constraint bag always carries `disallowFuture` and `mustBeTrue`.

**Main definitions.** `Field.decode`, `Page.decode`, `Schema.decode` and the
`toValue` writers.
-/

namespace Questionnaire
namespace Schema

open Json

/-- The largest count a field may hold, that of a 64-bit machine word. -/
def usizeMax : Nat := Nat.pow 2 64 - 1

/-- A choice record. -/
def Choice.decode {m : Type → Type} [Monad m] [Decoder m] : m Choice :=
  Decoder.record "FieldOption"
    [ { key := "value", required := true, read := fun c => do
          let v ← Decoder.string
          pure { c with value := v } },
      { key := "label", read := fun c => do
          let v ← Decoder.option Decoder.string
          pure { c with label := v } } ]
    { value := "" }

/-- An optional count. -/
def optCount {m : Type → Type} [Monad m] [Decoder m] : m (Option Nat) :=
  Decoder.option (Decoder.natUpTo usizeMax "usize")

/-- An optional text. -/
def optText {m : Type → Type} [Monad m] [Decoder m] : m (Option String) :=
  Decoder.option Decoder.string

/-- An optional list of texts. -/
def optTexts {m : Type → Type} [Monad m] [Decoder m] : m (Option (List String)) :=
  Decoder.option (Decoder.seq Decoder.string)

/-- A constraint bag record. -/
def Constraints.decode {m : Type → Type} [Monad m] [Decoder m] : m Constraints :=
  Decoder.record "FieldValidation"
    [ { key := "minLength", read := fun c => do let v ← optCount; pure { c with minLength := v } },
      { key := "maxLength", read := fun c => do let v ← optCount; pure { c with maxLength := v } },
      { key := "pattern", read := fun c => do let v ← optText; pure { c with pattern := v } },
      { key := "patternMessage", read := fun c => do
          let v ← optText
          pure { c with patternMessage := v } },
      { key := "min", read := fun c => do
          let v ← Decoder.option Decoder.float
          pure { c with min := v } },
      { key := "max", read := fun c => do
          let v ← Decoder.option Decoder.float
          pure { c with max := v } },
      { key := "minDate", read := fun c => do let v ← optText; pure { c with minDate := v } },
      { key := "maxDate", read := fun c => do let v ← optText; pure { c with maxDate := v } },
      { key := "disallowFuture", read := fun c => do
          let v ← Decoder.bool
          pure { c with disallowFuture := v } },
      { key := "mustBeTrue", read := fun c => do
          let v ← Decoder.bool
          pure { c with mustBeTrue := v } },
      { key := "allowedValues", read := fun c => do
          let v ← optTexts
          pure { c with allowedValues := v } },
      { key := "maxFiles", read := fun c => do let v ← optCount; pure { c with maxFiles := v } },
      { key := "maxFileSizeBytes", read := fun c => do
          let v ← Decoder.option (Decoder.natUpTo u64Max "u64")
          pure { c with maxFileSizeBytes := v } },
      { key := "acceptedFileTypes", read := fun c => do
          let v ← optTexts
          pure { c with acceptedFileTypes := v } } ]
    {}

/-- **A field record.** -/
def Field.decode {m : Type → Type} [Monad m] [Decoder m] : m Field :=
  Decoder.record "FormField"
    [ { key := "id", required := true, read := fun f => do
          let v ← Decoder.string
          pure { f with id := v } },
      { key := "type", required := true, read := fun f => do
          let v ← Decoder.enumeration FieldKind.named none
          pure { f with kind := v } },
      { key := "label", read := fun f => do
          let v ← Decoder.string
          pure { f with label := v } },
      { key := "required", read := fun f => do
          let v ← Decoder.bool
          pure { f with required := v } },
      { key := "options", read := fun f => do
          let v ← Decoder.option (Decoder.seq Choice.decode)
          pure { f with options := v } },
      { key := "validation", read := fun f => do
          let v ← Decoder.option Constraints.decode
          pure { f with validation := v } } ]
    { id := "", kind := .text }

/-- A row record. -/
def Row.decode {m : Type → Type} [Monad m] [Decoder m] : m Row :=
  Decoder.record "Row"
    [ { key := "id", read := fun r => do let v ← optText; pure { r with id := v } },
      { key := "fields", read := fun r => do
          let v ← Decoder.seq Field.decode
          pure { r with fields := v } } ]
    {}

/-- A section record. -/
def Section.decode {m : Type → Type} [Monad m] [Decoder m] : m Section :=
  Decoder.record "Section"
    [ { key := "id", read := fun s => do
          let v ← Decoder.string
          pure { s with id := v } },
      { key := "title", read := fun s => do let v ← optText; pure { s with title := v } },
      { key := "rows", read := fun s => do
          let v ← Decoder.seq Row.decode
          pure { s with rows := v } } ]
    {}

/-- **A page record.** -/
def Page.decode {m : Type → Type} [Monad m] [Decoder m] : m Page :=
  Decoder.record "Page"
    [ { key := "id", required := true, read := fun p => do
          let v ← Decoder.string
          pure { p with id := v } },
      { key := "title", read := fun p => do
          let v ← Decoder.string
          pure { p with title := v } },
      { key := "description", read := fun p => do
          let v ← optText
          pure { p with description := v } },
      { key := "coverImage", read := fun p => do
          let v ← optText
          pure { p with coverImage := v } },
      { key := "sections", read := fun p => do
          let v ← Decoder.seq Section.decode
          pure { p with sections := v } } ]
    { id := "" }

/-- The largest form version, that of a 32-bit word. -/
def u32Max : Nat := Nat.pow 2 32 - 1

/-- **A form record.** -/
def decode {m : Type → Type} [Monad m] [Decoder m] : m Schema :=
  Decoder.record "FormSchema"
    [ { key := "id", read := fun s => do let v ← optText; pure { s with id := v } },
      { key := "title", read := fun s => do let v ← optText; pure { s with title := v } },
      { key := "version", read := fun s => do
          let v ← Decoder.option (Decoder.natUpTo u32Max "u32")
          pure { s with version := v } },
      { key := "pages", read := fun s => do
          let v ← Decoder.seq Page.decode
          pure { s with pages := v } },
      { key := "rules", read := fun s => do
          let v ← Decoder.seq Rules.Rule.decode
          pure { s with rules := v } } ]
    {}

/-! ## Writing -/

/-- An optional entry: present only when there is a value. -/
def optEntry {α : Type} (key : String) (f : α → Value) : Option α → List (String × Value)
  | some a => [(key, f a)]
  | none => []

/-- A list of texts as JSON. -/
def textsValue (ts : List String) : Value := .arr (ts.map Value.str)

/-- A choice as JSON. -/
def Choice.toValue (c : Choice) : Value :=
  .obj ([("value", .str c.value)] ++ optEntry "label" Value.str c.label)

/-- A constraint bag as JSON: the present entries, and both flags always. A
bound that is not finite is `null`. -/
def Constraints.toValue (c : Constraints) : Value :=
  .obj (optEntry "minLength" (fun n => .num (.nat n)) c.minLength ++
    optEntry "maxLength" (fun n => .num (.nat n)) c.maxLength ++
    optEntry "pattern" Value.str c.pattern ++
    optEntry "patternMessage" Value.str c.patternMessage ++
    optEntry "min" (fun x => if x.isFinite then .num (.float x) else .null) c.min ++
    optEntry "max" (fun x => if x.isFinite then .num (.float x) else .null) c.max ++
    optEntry "minDate" Value.str c.minDate ++
    optEntry "maxDate" Value.str c.maxDate ++
    [("disallowFuture", .bool c.disallowFuture), ("mustBeTrue", .bool c.mustBeTrue)] ++
    optEntry "allowedValues" textsValue c.allowedValues ++
    optEntry "maxFiles" (fun n => .num (.nat n)) c.maxFiles ++
    optEntry "maxFileSizeBytes" (fun n => .num (.nat n)) c.maxFileSizeBytes ++
    optEntry "acceptedFileTypes" textsValue c.acceptedFileTypes)

/-- A field as JSON. -/
def Field.toValue (f : Field) : Value :=
  .obj ([("id", .str f.id), ("type", .str f.kind.name), ("label", .str f.label),
    ("required", .bool f.required)] ++
    optEntry "options" (fun cs => .arr (cs.map Choice.toValue)) f.options ++
    optEntry "validation" Constraints.toValue f.validation)

/-- A row as JSON. -/
def Row.toValue (r : Row) : Value :=
  .obj (optEntry "id" Value.str r.id ++ [("fields", .arr (r.fields.map Field.toValue))])

/-- A section as JSON. -/
def Section.toValue (s : Section) : Value :=
  .obj ([("id", .str s.id)] ++ optEntry "title" Value.str s.title ++
    [("rows", .arr (s.rows.map Row.toValue))])

/-- A page as JSON. -/
def Page.toValue (p : Page) : Value :=
  .obj ([("id", .str p.id), ("title", .str p.title)] ++
    optEntry "description" Value.str p.description ++
    optEntry "coverImage" Value.str p.coverImage ++
    [("sections", .arr (p.sections.map Section.toValue))])

/-- A form as JSON. -/
def toValue (s : Schema) : Value :=
  .obj (optEntry "id" Value.str s.id ++ optEntry "title" Value.str s.title ++
    optEntry "version" (fun n => .num (.nat n)) s.version ++
    [("pages", .arr (s.pages.map Page.toValue)),
     ("rules", .arr (s.rules.map Rules.Rule.toValue))])

end Schema
end Questionnaire
