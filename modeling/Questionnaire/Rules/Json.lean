import Questionnaire.Rules.Eval
import Questionnaire.Json.Decode

/-!
# Rules — rules as JSON

A condition is an object with `fieldId`, `operator` and an optional `value`
(null by default). A group has a `combinator` (`and` by default) and a list
of `conditions`, each of which is read as a condition if it can be, and as a
group otherwise: since every key of a group has a default, any object reads
as a group, so an object with a field id but no operator is an empty `and`
group. An action has a `type` and a `targetFieldId`. Unknown names of
operators, combinators and action types read as `unknown`; a name that is not
a text is an error.

**Main definitions.** `Condition.decode`, `Group.decodeWith`, `Node.ofValue`,
`Group.decode`, `Action.decode`, `Rule.decode`, and the `toValue` writers.
-/

namespace Questionnaire
namespace Rules

open Json

/-- A condition record. -/
def Condition.decode {m : Type → Type} [Monad m] [Decoder m] : m Condition :=
  Decoder.record "Condition"
    [ { key := "fieldId", required := true, read := fun c => do
          let v ← Decoder.string
          pure { c with fieldId := v } },
      { key := "operator", required := true, read := fun c => do
          let v ← Decoder.enumeration Operator.named (some .unknown)
          pure { c with operator := v } },
      { key := "value", read := fun c => do
          let v ← Decoder.value
          pure { c with value := v } } ]
    { fieldId := "", operator := .unknown }

/-- The shapes of a node given the reading of a group: a condition first. -/
def Node.shapesWith (group : Value → Except Error Group) : List (Value → Except Error Node) :=
  [ fun v => Node.leaf <$> decodeValue Condition.decode v,
    fun v => (fun g => Node.group g.combinator g.children) <$> group v ]

/-- **A group record**, its nodes read by `node`. -/
def Group.decodeWith {m : Type → Type} [Monad m] [Decoder m] (node : Value → Except Error Node) :
    m Group :=
  Decoder.record "ConditionGroup"
    [ { key := "combinator", read := fun g => do
          let v ← Decoder.enumeration Combinator.named (some .unknown)
          pure { g with combinator := v } },
      { key := "conditions", read := fun g => do
          let v ← Decoder.seq (Decoder.untagged "ConditionNode" [node])
          pure { g with children := v } } ]
    {}

/-- A node from a value, nesting at most `fuel` groups deep. -/
def Node.ofValueFuel : Nat → Value → Except Error Node
  | 0, _ => .error (.of (.untaggedMismatch "ConditionNode"))
  | fuel + 1, v =>
    match Decoder.firstOk (Node.shapesWith (decodeValue (Group.decodeWith (Node.ofValueFuel fuel)))) v with
    | some n => .ok n
    | none => .error (.of (.untaggedMismatch "ConditionNode"))

/-- **A node from a value**: a condition if it reads as one, else a group. -/
def Node.ofValue (v : Value) : Except Error Node := Node.ofValueFuel (v.depth + 1) v

/-- **A group record.** -/
def Group.decode {m : Type → Type} [Monad m] [Decoder m] : m Group := Group.decodeWith Node.ofValue

/-- An action record. -/
def Action.decode {m : Type → Type} [Monad m] [Decoder m] : m Action :=
  Decoder.record "Action"
    [ { key := "type", required := true, read := fun a => do
          let v ← Decoder.enumeration ActionKind.named (some .unknown)
          pure { a with kind := v } },
      { key := "targetFieldId", required := true, read := fun a => do
          let v ← Decoder.string
          pure { a with target := v } } ]
    { kind := .unknown, target := "" }

/-- **A rule record.** -/
def Rule.decode {m : Type → Type} [Monad m] [Decoder m] : m Rule :=
  Decoder.record "Rule"
    [ { key := "id", read := fun r => do
          let v ← Decoder.option Decoder.string
          pure { r with id := v } },
      { key := "conditions", read := fun r => do
          let v ← Group.decode
          pure { r with conditions := v } },
      { key := "actions", read := fun r => do
          let v ← Decoder.seq Action.decode
          pure { r with actions := v } } ]
    {}

/-! ## Writing -/

/-- A condition as JSON. -/
def Condition.toValue (c : Condition) : Value :=
  .obj [("fieldId", .str c.fieldId), ("operator", .str c.operator.name), ("value", c.value)]

mutual

/-- A node as JSON. -/
def Node.toValue : Node → Value
  | .leaf c => c.toValue
  | .group comb children =>
    .obj [("combinator", .str comb.name), ("conditions", .arr (Node.toValues children))]

/-- Nodes as JSON. -/
def Node.toValues : List Node → List Value
  | [] => []
  | n :: rest => n.toValue :: Node.toValues rest

end

/-- A group as JSON. -/
def Group.toValue (g : Group) : Value := g.toNode.toValue

/-- An action as JSON. -/
def Action.toValue (a : Action) : Value :=
  .obj [("type", .str a.kind.name), ("targetFieldId", .str a.target)]

/-- A rule as JSON; a missing id is left out. -/
def Rule.toValue (r : Rule) : Value :=
  .obj ((r.id.map fun i => [("id", Value.str i)]).getD [] ++
    [("conditions", r.conditions.toValue), ("actions", .arr (r.actions.map Action.toValue))])

/-- A set of ids as a JSON array, in order. -/
def IdSet.toValue (s : IdSet) : Value := .arr (s.toList.map Value.str)

/-- An outcome as JSON. -/
def Outcome.toValue (o : Outcome) : Value :=
  .obj [("hidden", IdSet.toValue o.hidden), ("shown", IdSet.toValue o.shown),
    ("forceRequired", IdSet.toValue o.forceRequired),
    ("forceOptional", IdSet.toValue o.forceOptional)]

/-- A derived state as JSON. -/
def Derived.toValue (d : Derived) : Value :=
  .obj [("visibleFieldIds", IdSet.toValue d.visible),
    ("requiredFieldIds", IdSet.toValue d.required)]

/-- An evaluation pass as JSON. -/
def Trace.toValue (t : Trace) : Value :=
  .obj [("state", t.state.toValue), ("outcome", t.outcome.toValue),
    ("firedRules", .arr (t.fired.map fun i => Value.num (.nat i)))]

end Rules
end Questionnaire
