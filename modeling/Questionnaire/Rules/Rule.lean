import Questionnaire.Rules.Condition

/-!
# Rules — actions and rules

A rule pairs a condition tree with actions on target fields: hide, show,
require, or make optional. An action name the library does not know is kept
as `unknown` and does nothing.

**Main definitions.** `ActionKind`, `Action`, `Rule`.
-/

namespace Questionnaire
namespace Rules

/-- **What an action does** to its target field. -/
inductive ActionKind where
  | hide | reveal | require | optional | unknown
  deriving DecidableEq, Inhabited

namespace ActionKind

/-- The kinds with their names. -/
def named : List (String × ActionKind) :=
  [("hide", .hide), ("show", .reveal), ("require", .require), ("optional", .optional),
   ("unknown", .unknown)]

/-- The name of a kind of action. -/
def name : ActionKind → String
  | .hide => "hide" | .reveal => "show" | .require => "require" | .optional => "optional"
  | .unknown => "unknown"

/-- The kind of an exact name. -/
def ofName? (s : String) : Option ActionKind := named.lookup s

end ActionKind

/-- **An action** on a target field. -/
structure Action where
  kind : ActionKind
  target : String
  deriving Inhabited

/-- **A rule**: a condition tree and the actions it triggers. -/
structure Rule where
  id : Option String := none
  conditions : Group := {}
  actions : List Action := []
  deriving Inhabited

end Rules

end Questionnaire
