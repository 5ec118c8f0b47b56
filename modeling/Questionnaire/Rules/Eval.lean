import Questionnaire.Rules.Outcome
import Questionnaire.Rules.Literal
import Questionnaire.Answer.Json
import Questionnaire.Text.Lower

/-!
# Rules — evaluating rules against answers

A condition holds or not for the answer of its field; it never fails. The
operators compare as follows.

* `eq` is loose equality: a missing answer or null equals only a null
  literal; an array, object or null literal equals no answer; texts and
  truth values compare as such; a list compares by its loose text with a
  text literal and as a number otherwise; anything else compares as numbers,
  where NaN equals nothing. `neq` is its negation.
* `contains` looks for the literal's text, both lowered, in the answer's loose
  text; in a list it looks for an item equal to a text literal; files and
  structured literals never match.
* `in` needs an array literal and an answer that is not a list: some item
  equal to it, texts to texts, truth values to truth values, numbers to
  numbers.
* `isEmpty` holds of a missing or empty answer; `isNotEmpty` is its negation.
* `gt`, `gte`, `lt`, `lte` compare both sides as numbers, false when either is NaN.

A group joins its children: `and` needs all, `or` needs one unless it has no
children, `unknown` never holds. Evaluating a rule first walks its tree once
with a shared count, stopping at the first group deeper than the depth limit
or the first node past the node limit; a tree past a limit never fires. A
condition on a field id the form does not have is false.

Every rule is tested against the same answers, in order; the actions of those
that fire are gathered, and the outcome is resolved against the fields.

**Main definitions.** `testCondition`, `Limits.withinLimits`, `Node.eval`,
`evaluate`, `Trace`.
-/

namespace Questionnaire
namespace Rules

open Json

/-- Numbers equal as numbers, NaN equal to nothing. -/
def numbersEqual (a b : Float) : Bool := !a.isNaN && !b.isNaN && a == b

/-- **Loose equality** of an answer with a literal. -/
def looseEq (value : Option Answer) (target : Value) : Bool :=
  match value with
  | none | some .null => target.isNull
  | some v =>
    match v, target with
    | _, .null | _, .arr _ | _, .obj _ => false
    | .text a, .str b => a == b
    | .bool a, .bool b => a == b
    | .list _, .str b | .files _, .str b => v.looseText == b
    | .list _, _ | .files _, _ => numbersEqual (parseNumber v.looseText) (literalNumber target)
    | _, _ => numbersEqual v.asNumber (literalNumber target)

/-- Strict equality of an answer with one item of an `in` literal. -/
def strictEq (v : Answer) (item : Value) : Bool :=
  match v, item with
  | .text a, .str b => a == b
  | .bool a, .bool b => a == b
  | .number a, .num b => a == b.toFloat
  | _, _ => false

/-- Whether `needle` occurs in `hay` as consecutive characters. -/
def occursIn (needle hay : List Char) : Bool :=
  match hay with
  | [] => needle.isEmpty
  | _ :: rest => needle.isPrefixOf hay || occursIn needle rest

/-- **Substring test** of an answer against a literal. -/
def containsTest (value : Option Answer) (target : Value) : Bool :=
  match target with
  | .null | .arr _ | .obj _ => false
  | _ =>
    match value with
    | none | some .null => false
    | some (.list items) =>
      match target with
      | .str t => items.contains t
      | _ => false
    | some (.files _) => false
    | some v =>
      occursIn (Text.toLower (literalText target)).toList (Text.toLower v.looseText).toList

/-- A numeric comparison, false when either side is NaN. -/
def compareTest (value : Option Answer) (target : Value) (op : Float → Float → Bool) : Bool :=
  let a := match value with
    | some v => v.asNumber
    | none => (0.0 / 0.0 : Float)
  let b := literalNumber target
  !a.isNaN && !b.isNaN && op a b

/-- **Tests one condition** against the answer of its field, if any. -/
def testCondition (c : Condition) (value : Option Answer) : Bool :=
  match c.operator with
  | .eq => looseEq value c.value
  | .neq => !looseEq value c.value
  | .contains => containsTest value c.value
  | .memberOf =>
    match value, c.value with
    | some v, .arr items => !v.isSequence && items.any (strictEq v)
    | _, _ => false
  | .isEmpty => (value.map Answer.isEmpty).getD true
  | .isNotEmpty => !(value.map Answer.isEmpty).getD true
  | .gt => compareTest value c.value fun a b => decide (a > b)
  | .gte => compareTest value c.value fun a b => decide (a ≥ b)
  | .lt => compareTest value c.value fun a b => decide (a < b)
  | .lte => compareTest value c.value fun a b => decide (a ≤ b)
  | .unknown => false

/-- **The evaluation limits** of a condition tree. -/
structure Limits where
  maxDepth : Nat := 16
  maxNodes : Nat := 256
  deriving DecidableEq, Inhabited

namespace Limits

mutual

/-- The walk over a group at `depth` having visited `visited` nodes: the
count after it, or `none` once a limit is passed. -/
def fitsGroup (l : Limits) (depth visited : Nat) (children : List Node) : Option Nat :=
  let v := visited + 1
  if depth > l.maxDepth || v > l.maxNodes then none else fitsChildren l depth v children

/-- The walk over the children of a group at `depth`, in order. -/
def fitsChildren (l : Limits) (depth visited : Nat) : List Node → Option Nat
  | [] => some visited
  | .leaf _ :: rest =>
    if visited + 1 ≤ l.maxNodes then fitsChildren l depth (visited + 1) rest else none
  | .group _ children :: rest =>
    match fitsGroup l (depth + 1) visited children with
    | some v => fitsChildren l depth v rest
    | none => none

end

/-- **Whether a tree is within the limits**, by one walk from depth 1. -/
def withinLimits (l : Limits) (g : Group) : Bool := (fitsGroup l 1 0 g.children).isSome

end Limits

mutual

/-- **Evaluates a node**; a condition on an unknown field id is false. -/
def Node.eval (answers : Answers) (known : IdSet) : Node → Bool
  | .leaf c => known.contains c.fieldId && testCondition c (answers.get? c.fieldId)
  | .group .and children => Node.evalAll answers known children
  | .group .or children => children.isEmpty || Node.evalAny answers known children
  | .group .unknown _ => false

/-- Whether every node holds. -/
def Node.evalAll (answers : Answers) (known : IdSet) : List Node → Bool
  | [] => true
  | n :: rest => n.eval answers known && Node.evalAll answers known rest

/-- Whether some node holds. -/
def Node.evalAny (answers : Answers) (known : IdSet) : List Node → Bool
  | [] => false
  | n :: rest => n.eval answers known || Node.evalAny answers known rest

end

/-- Evaluates a root group. -/
def Group.eval (g : Group) (answers : Answers) (known : IdSet) : Bool :=
  g.toNode.eval answers known

/-- **One evaluation pass**, with the rules that fired. -/
structure Trace where
  state : Derived
  outcome : Outcome
  fired : List Nat
  deriving Inhabited

/-- Whether a rule fires: within the limits and its tree holds. -/
def Rule.fires (l : Limits) (answers : Answers) (known : IdSet) (r : Rule) : Bool :=
  l.withinLimits r.conditions && r.conditions.eval answers known

/-- The indices of the rules that fire, ascending. -/
def firedRules (l : Limits) (answers : Answers) (known : IdSet) (rules : List Rule) : List Nat :=
  ((List.range rules.length).zip rules).filterMap fun (i, r) =>
    if r.fires l answers known then some i else none

/-- **Evaluates rules** against answers over the fields. -/
def evaluateWithTrace (l : Limits) (rules : List Rule) (answers : Answers)
    (fields : List Schema.Field) : Trace :=
  let known := IdSet.ofList (fields.map Schema.Field.id)
  let fired := firedRules l answers known rules
  let outcome := fired.foldl (fun o i => o.applyAll ((rules[i]?.map Rule.actions).getD [])) Outcome.baseline
  { state := outcome.resolve fields, outcome, fired }

/-- The derived state of one evaluation pass. -/
def evaluate (l : Limits) (rules : List Rule) (answers : Answers) (fields : List Schema.Field) :
    Derived :=
  (evaluateWithTrace l rules answers fields).state

end Rules
end Questionnaire
