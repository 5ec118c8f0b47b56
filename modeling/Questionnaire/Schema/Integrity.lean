import Questionnaire.Schema.Form
import Questionnaire.Config
import Questionnaire.Pattern.Regex
import Questionnaire.Calendar.Parse

/-!
# Schema — integrity

A one-time check of a form, run when it is loaded or edited, that reports
every part of it the interpreter cannot honour. Errors break a
precondition: no pages, a field id used twice, a rule on or for a field the
form lacks, a pattern that does not compile, a date bound that is not a
date, a lower bound above its upper bound. Warnings mark parts that load
but do nothing: a decorative field marked required, an unknown operator,
combinator or action, `in` without a list, a condition tree past the
evaluation limits, a rule without actions.

Issues come in a fixed order: no pages; then each field in form order
(decorative and required, pattern, the date bounds, the length, value and
date bounds); then each repeated id, in order of first use, with the pages
of every use; then each rule in order (its size, its tree depth first, its
actions).

**Main definitions.** `Issue`, `Severity`, `Issue.text`, `Report`, `check`.
-/

namespace Questionnaire
namespace Schema

open Json

/-- **How serious an issue is.** -/
inductive Severity where
  | error
  | warning
  deriving DecidableEq, Inhabited, Repr

/-- The name of a severity. -/
def Severity.name : Severity → String
  | .error => "error"
  | .warning => "warning"

/-- **An integrity issue.** Rules are named by their id, or `#` and their index. -/
inductive Issue where
  | noPages
  | duplicateFieldId (fieldId : String) (pages : List Nat)
  | unknownConditionField (rule fieldId : String)
  | unknownActionTarget (rule fieldId : String)
  | unknownOperator (rule fieldId : String)
  | unknownCombinator (rule : String)
  | unknownActionType (rule fieldId : String)
  | inWithoutList (rule fieldId : String)
  | conditionTooLarge (rule : String) (depth nodes : Nat)
  | ruleWithoutActions (rule : String)
  | invalidPattern (fieldId message : String)
  | invalidDateBound (fieldId bound value : String)
  | invertedBounds (fieldId constraint : String)
  | requiredDecorativeField (fieldId : String)
  deriving DecidableEq, Inhabited, Repr

namespace Issue

/-- **The severity** of an issue. -/
def severity : Issue → Severity
  | .noPages | .duplicateFieldId .. | .unknownConditionField .. | .unknownActionTarget ..
  | .invalidPattern .. | .invalidDateBound .. | .invertedBounds .. => .error
  | .unknownOperator .. | .unknownCombinator .. | .unknownActionType .. | .inWithoutList ..
  | .conditionTooLarge .. | .ruleWithoutActions .. | .requiredDecorativeField .. => .warning

/-- A list of numbers as `[a, b]`. -/
def numbersText (ns : List Nat) : String := "[" ++ ", ".intercalate (ns.map toString) ++ "]"

/-- **The text** of an issue. -/
def text : Issue → String
  | .noPages => "Schema has no pages"
  | .duplicateFieldId f ps => "Duplicate field id '" ++ f ++ "' (pages " ++ numbersText ps ++ ")"
  | .unknownConditionField r f => "Rule " ++ r ++ ": condition references unknown field '" ++ f ++ "'"
  | .unknownActionTarget r f => "Rule " ++ r ++ ": action targets unknown field '" ++ f ++ "'"
  | .unknownOperator r f => "Rule " ++ r ++ ": unknown operator on field '" ++ f ++ "'"
  | .unknownCombinator r => "Rule " ++ r ++ ": unknown combinator"
  | .unknownActionType r f => "Rule " ++ r ++ ": unknown action type targeting '" ++ f ++ "'"
  | .inWithoutList r f => "Rule " ++ r ++ ": 'in' on field '" ++ f ++ "' needs a list value"
  | .conditionTooLarge r d n =>
    "Rule " ++ r ++ ": condition tree too large (depth " ++ toString d ++ ", nodes " ++ toString n ++ ")"
  | .ruleWithoutActions r => "Rule " ++ r ++ " has no actions"
  | .invalidPattern f m => "Field '" ++ f ++ "': invalid pattern: " ++ m
  | .invalidDateBound f b v => "Field '" ++ f ++ "': " ++ b ++ " '" ++ v ++ "' is not a YYYY-MM-DD date"
  | .invertedBounds f c => "Field '" ++ f ++ "': " ++ c ++ " lower bound exceeds upper bound"
  | .requiredDecorativeField f => "Field '" ++ f ++ "' is decorative and cannot be required"

/-- The name of an issue's kind. -/
def kindName : Issue → String
  | .noPages => "noPages"
  | .duplicateFieldId .. => "duplicateFieldId"
  | .unknownConditionField .. => "unknownConditionField"
  | .unknownActionTarget .. => "unknownActionTarget"
  | .unknownOperator .. => "unknownOperator"
  | .unknownCombinator .. => "unknownCombinator"
  | .unknownActionType .. => "unknownActionType"
  | .inWithoutList .. => "inWithoutList"
  | .conditionTooLarge .. => "conditionTooLarge"
  | .ruleWithoutActions .. => "ruleWithoutActions"
  | .invalidPattern .. => "invalidPattern"
  | .invalidDateBound .. => "invalidDateBound"
  | .invertedBounds .. => "invertedBounds"
  | .requiredDecorativeField .. => "requiredDecorativeField"

/-- The details of an issue as JSON entries, in declaration order. -/
def details : Issue → List (String × Value)
  | .noPages => []
  | .duplicateFieldId f ps => [("field_id", .str f), ("pages", .arr (ps.map fun p => .num (.nat p)))]
  | .unknownConditionField r f | .unknownActionTarget r f | .unknownOperator r f
  | .unknownActionType r f | .inWithoutList r f => [("rule", .str r), ("field_id", .str f)]
  | .unknownCombinator r | .ruleWithoutActions r => [("rule", .str r)]
  | .conditionTooLarge r d n => [("rule", .str r), ("depth", .num (.nat d)), ("nodes", .num (.nat n))]
  | .invalidPattern f m => [("field_id", .str f), ("message", .str m)]
  | .invalidDateBound f b v => [("field_id", .str f), ("bound", .str b), ("value", .str v)]
  | .invertedBounds f c => [("field_id", .str f), ("constraint", .str c)]
  | .requiredDecorativeField f => [("field_id", .str f)]

/-- **An issue as JSON**: its kind, then its details. -/
def toValue (i : Issue) : Value := .obj (("kind", .str i.kindName) :: i.details)

end Issue

/-- **The issues of a form.** -/
structure Report where
  issues : List Issue := []
  deriving Inhabited

namespace Report

/-- The issues of error severity. -/
def errors (r : Report) : List Issue := r.issues.filter fun i => i.severity == .error

/-- Whether no issue is an error. -/
def isOk (r : Report) : Bool := r.errors.isEmpty

/-- The report as JSON. -/
def toValue (r : Report) : Value := .obj [("issues", .arr (r.issues.map Issue.toValue))]

end Report

/-- **The issues of one field.** -/
def fieldIssues (f : Field) : List Issue :=
  let decorative := if !f.kind.isValidatable && f.required then [Issue.requiredDecorativeField f.id] else []
  match f.validation with
  | none => decorative
  | some v =>
    let pattern := match v.pattern with
      | some p =>
        match Pattern.Regex.compile p with
        | .error e => [Issue.invalidPattern f.id e.text]
        | .ok _ => []
      | none => []
    let bound (name : String) : Option String → List Issue
      | some s => if (Calendar.parseDate s).isNone then [Issue.invalidDateBound f.id name s] else []
      | none => []
    let lengths := match v.minLength, v.maxLength with
      | some lo, some hi => if lo > hi then [Issue.invertedBounds f.id "length"] else []
      | _, _ => []
    let values := match v.min, v.max with
      | some lo, some hi => if lo > hi then [Issue.invertedBounds f.id "value"] else []
      | _, _ => []
    let dates := match v.minDate.bind Calendar.parseDate, v.maxDate.bind Calendar.parseDate with
      | some lo, some hi => if hi.lt lo then [Issue.invertedBounds f.id "date"] else []
      | _, _ => []
    decorative ++ pattern ++ bound "minDate" v.minDate ++ bound "maxDate" v.maxDate ++ lengths ++ values ++ dates

/-- The pages each field id appears on, ids in order of first use. -/
def fieldPages (s : Schema) : List (String × List Nat) :=
  (s.pages.zipIdx).foldl (fun acc (p, i) =>
    p.fields.foldl (fun acc f =>
      match acc.lookup f.id with
      | some _ => acc.map fun (k, ps) => if k == f.id then (k, ps ++ [i]) else (k, ps)
      | none => acc ++ [(f.id, [i])]) acc) []

mutual

/-- The issues of a condition tree's nodes, depth first. -/
def nodeIssues (label : String) (known : List String) : Rules.Node → List Issue
  | .group comb children =>
    (if comb == .unknown then [Issue.unknownCombinator label] else []) ++ nodesIssues label known children
  | .leaf c =>
    (if known.contains c.fieldId then [] else [Issue.unknownConditionField label c.fieldId]) ++
    (match c.operator with
      | .unknown => [Issue.unknownOperator label c.fieldId]
      | .memberOf => if c.value.isArray then [] else [Issue.inWithoutList label c.fieldId]
      | _ => [])

/-- The issues of a list of nodes, in order. -/
def nodesIssues (label : String) (known : List String) : List Rules.Node → List Issue
  | [] => []
  | n :: rest => nodeIssues label known n ++ nodesIssues label known rest

end

/-- **The issues of one rule**, named by `label`. -/
def ruleIssues (config : Config) (known : List String) (label : String) (r : Rules.Rule) : List Issue :=
  let depth := r.conditions.depth
  let nodes := r.conditions.nodeCount
  let size := if depth > config.maxConditionDepth || nodes > config.maxConditionNodes
    then [Issue.conditionTooLarge label depth nodes] else []
  let empty := if r.actions.isEmpty then [Issue.ruleWithoutActions label] else []
  let actions := r.actions.flatMap fun a =>
    (if a.kind == .unknown then [Issue.unknownActionType label a.target] else []) ++
    (if known.contains a.target then [] else [Issue.unknownActionTarget label a.target])
  size ++ nodeIssues label known r.conditions.toNode ++ empty ++ actions

/-- The label of a rule: its id, or `#` and its index. -/
def ruleLabel (r : Rules.Rule) (index : Nat) : String := r.id.getD ("#" ++ toString index)

/-- **Checks a form's integrity** under the given settings. -/
def check (s : Schema) (config : Config := {}) : Report :=
  let pages := fieldPages s
  let known := pages.map Prod.fst
  let noPages := if s.pages.isEmpty then [Issue.noPages] else []
  let fields := s.allFields.flatMap fieldIssues
  let duplicates := pages.filterMap fun (id, ps) =>
    if ps.length > 1 then some (Issue.duplicateFieldId id ps) else none
  let rules := (s.rules.zipIdx).flatMap fun (r, i) => ruleIssues config known (ruleLabel r i) r
  ⟨noPages ++ fields ++ duplicates ++ rules⟩

end Schema
end Questionnaire
