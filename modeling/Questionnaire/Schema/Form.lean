import Questionnaire.Schema.Field
import Questionnaire.Rules.Rule

/-!
# Schema — forms

A form is a list of pages, each of sections, each of rows, each of fields,
with rules over all of them. The nesting is for layout only: everything else
works on the flattened list of fields, pages first, then sections, rows and
fields in order. Field ids are expected to be unique, but the flattened list
keeps repeats.

**Main definitions.** `Row`, `Section`, `Page`, `Schema`, `Schema.allFields`,
`Schema.pageFieldIds`, `Schema.pageIndexOf`, `Schema.field?`,
`Page.withFields`.
-/

namespace Questionnaire

namespace Schema

/-- A row of fields. -/
structure Row where
  id : Option String := none
  fields : List Field := []
  deriving Inhabited

/-- A section of rows. -/
structure Section where
  id : String := ""
  title : Option String := none
  rows : List Row := []
  deriving Inhabited

/-- **A page** of sections. -/
structure Page where
  id : String
  title : String := ""
  description : Option String := none
  coverImage : Option String := none
  sections : List Section := []
  deriving Inhabited

namespace Page

/-- The fields of a page, sections, rows and fields in order. -/
def fields (p : Page) : List Field :=
  p.sections.flatMap fun s => s.rows.flatMap fun r => r.fields

/-- The ids of a page's fields, in order. -/
def fieldIds (p : Page) : List String := p.fields.map Field.id

/-- A page of the given id and title, without sections. -/
def new (id title : String) : Page := { id, title }

/-- **Adds a section** named `<page id>-section-<n>` holding one row per field. -/
def withFields (p : Page) (fs : List Field) : Page :=
  let s : Section :=
    { id := p.id ++ "-section-" ++ toString p.sections.length
      rows := fs.map fun f => { fields := [f] } }
  { p with sections := p.sections ++ [s] }

end Page

end Schema

/-- **A form**: pages and the rules over them. Its fields, pages and the
checks on them live in its namespace. -/
structure Schema where
  id : Option String := none
  title : Option String := none
  version : Option Nat := none
  pages : List Schema.Page := []
  rules : List Rules.Rule := []
  deriving Inhabited

namespace Schema

/-- A form of the given pages, without id, title, version or rules. -/
def new (pages : List Page) : Schema := { pages }

/-- The form with its rules replaced. -/
def withRules (s : Schema) (rules : List Rules.Rule) : Schema := { s with rules := rules }

/-- The number of pages. -/
def pageCount (s : Schema) : Nat := s.pages.length

/-- **Every field**, pages in order. -/
def allFields (s : Schema) : List Field := s.pages.flatMap Page.fields

/-- The ids of every field, pages in order, repeats kept. -/
def allFieldIds (s : Schema) : List String := s.allFields.map Field.id

/-- The ids of the fields on page `step`; none for a step past the last page. -/
def pageFieldIds (s : Schema) (step : Nat) : List String :=
  match s.pages[step]? with
  | some p => p.fieldIds
  | none => []

/-- The first page holding a field of the id. -/
def pageIndexOf (s : Schema) (fieldId : String) : Option Nat :=
  s.pages.findIdx? fun p => p.fields.any fun f => f.id == fieldId

/-- The first field of the id. -/
def field? (s : Schema) (fieldId : String) : Option Field :=
  s.allFields.find? fun f => f.id == fieldId

end Schema
end Questionnaire
