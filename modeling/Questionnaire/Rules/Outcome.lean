import Questionnaire.Rules.Rule
import Questionnaire.Schema.Field
import Questionnaire.Ids

/-!
# Rules — outcomes and derived state

The actions of the rules that fire are gathered into an outcome: the ids
hidden, shown, forced required and forced optional. Gathering only ever adds.
Precedence is applied once, when the outcome is resolved against the fields:
a field is visible unless hidden (showing never changes visibility), and
required when it is required by itself or forced so, unless forced optional.

**Main definitions.** `Outcome`, `Outcome.apply`, `Outcome.resolve`,
`Derived`, `Derived.baseline`.
-/

namespace Questionnaire
namespace Rules

/-- **The gathered actions** of the fired rules. -/
structure Outcome where
  hidden : IdSet := {}
  shown : IdSet := {}
  forceRequired : IdSet := {}
  forceOptional : IdSet := {}
  deriving DecidableEq, Inhabited

/-- **Visible and required field ids** for one set of answers. -/
structure Derived where
  visible : IdSet := {}
  required : IdSet := {}
  deriving DecidableEq, Inhabited

namespace Outcome

/-- Nothing hidden, nothing forced. -/
def baseline : Outcome := {}

/-- **Adds one action.** An unknown action adds nothing. -/
def apply (o : Outcome) (a : Action) : Outcome :=
  match a.kind with
  | .hide => { o with hidden := o.hidden.insert a.target }
  | .reveal => { o with shown := o.shown.insert a.target }
  | .require => { o with forceRequired := o.forceRequired.insert a.target }
  | .optional => { o with forceOptional := o.forceOptional.insert a.target }
  | .unknown => o

/-- Adds the actions in order. -/
def applyAll (o : Outcome) (as : List Action) : Outcome := as.foldl apply o

/-- Whether a field is visible under the outcome. -/
def visibleField (o : Outcome) (f : Schema.Field) : Bool := !o.hidden.contains f.id

/-- Whether a field is required under the outcome. -/
def requiredField (o : Outcome) (f : Schema.Field) : Bool :=
  (f.required || o.forceRequired.contains f.id) && !o.forceOptional.contains f.id

/-- **Resolves the outcome** against the fields. -/
def resolve (o : Outcome) (fields : List Schema.Field) : Derived :=
  { visible := IdSet.ofList ((fields.filter o.visibleField).map Schema.Field.id)
    required := IdSet.ofList ((fields.filter o.requiredField).map Schema.Field.id) }

end Outcome

namespace Derived

/-- **No rules applied**: every field visible, required by itself only. -/
def baseline (fields : List Schema.Field) : Derived := Outcome.baseline.resolve fields

/-- Whether a field id is visible. -/
def isVisible (d : Derived) (id : String) : Bool := d.visible.contains id

/-- Whether a field id is required. -/
def isRequired (d : Derived) (id : String) : Bool := d.required.contains id

end Derived

end Rules
end Questionnaire
