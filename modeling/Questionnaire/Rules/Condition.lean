import Questionnaire.Json.Value

/-!
# Rules — conditions and condition trees

A condition compares the answer of one field with a literal by an operator.
Conditions combine into a tree: a group joins its children, conditions and
smaller groups, by `and` or `or`. An operator or combinator name the library
does not know is kept as `unknown`, which never holds.

The size of a tree is measured two ways: its depth (a group of conditions
only has depth 1) and its node count (every group and every condition).

**Main definitions.** `Operator`, `Combinator`, `Condition`, `Node`, `Group`,
`Group.depth`, `Group.nodeCount`, `Group.leaves`.
-/

namespace Questionnaire
namespace Rules

/-- **How a condition compares** the answer with its literal. -/
inductive Operator where
  | eq | neq | contains | memberOf | isEmpty | isNotEmpty | gt | gte | lt | lte | unknown
  deriving DecidableEq, Inhabited

namespace Operator

/-- The known operators with their names. -/
def named : List (String × Operator) :=
  [("eq", .eq), ("neq", .neq), ("contains", .contains), ("in", .memberOf),
   ("isEmpty", .isEmpty), ("isNotEmpty", .isNotEmpty), ("gt", .gt), ("gte", .gte),
   ("lt", .lt), ("lte", .lte), ("unknown", .unknown)]

/-- The name of an operator. -/
def name : Operator → String
  | .eq => "eq" | .neq => "neq" | .contains => "contains" | .memberOf => "in"
  | .isEmpty => "isEmpty" | .isNotEmpty => "isNotEmpty" | .gt => "gt" | .gte => "gte"
  | .lt => "lt" | .lte => "lte" | .unknown => "unknown"

/-- The operator of an exact name. -/
def ofName? (s : String) : Option Operator := named.lookup s

end Operator

/-- **How a group joins its children.** -/
inductive Combinator where
  | and | or | unknown
  deriving DecidableEq, Inhabited

namespace Combinator

/-- The combinators with their names. -/
def named : List (String × Combinator) := [("and", .and), ("or", .or), ("unknown", .unknown)]

/-- The name of a combinator. -/
def name : Combinator → String
  | .and => "and" | .or => "or" | .unknown => "unknown"

/-- The combinator of an exact name. -/
def ofName? (s : String) : Option Combinator := named.lookup s

end Combinator

/-- **A condition**: the answer of `fieldId` compared with `value`. -/
structure Condition where
  fieldId : String
  operator : Operator
  value : Json.Value := .null

/-- **A node of a condition tree**: a condition, or a group of nodes. -/
inductive Node where
  | leaf (c : Condition)
  | group (combinator : Combinator) (children : List Node)

/-- **The root group** of a rule's conditions. With no children it holds. -/
structure Group where
  combinator : Combinator := .and
  children : List Node := []

mutual

/-- Depth of a node: a condition has none, a group one more than its deepest child. -/
def Node.depth : Node → Nat
  | .leaf _ => 0
  | .group _ children => 1 + Node.depthList children

/-- The greatest depth of a list of nodes. -/
def Node.depthList : List Node → Nat
  | [] => 0
  | n :: rest => max n.depth (Node.depthList rest)

end

mutual

/-- Every group and every condition of a node. -/
def Node.count : Node → Nat
  | .leaf _ => 1
  | .group _ children => 1 + Node.countList children

/-- The node counts of a list of nodes, summed. -/
def Node.countList : List Node → Nat
  | [] => 0
  | n :: rest => n.count + Node.countList rest

end

mutual

/-- The conditions of a node, depth first, in order. -/
def Node.leaves : Node → List Condition
  | .leaf c => [c]
  | .group _ children => Node.leavesList children

/-- The conditions of a list of nodes, in order. -/
def Node.leavesList : List Node → List Condition
  | [] => []
  | n :: rest => n.leaves ++ Node.leavesList rest

end

namespace Group

/-- The group as a node. -/
def toNode (g : Group) : Node := .group g.combinator g.children

/-- **Depth**: a group of conditions only has depth 1. -/
def depth (g : Group) : Nat := g.toNode.depth

/-- **Node count**: every group and every condition. -/
def nodeCount (g : Group) : Nat := g.toNode.count

/-- The conditions, depth first, in order. -/
def leaves (g : Group) : List Condition := g.toNode.leaves

/-- A group joining `children` with `and`. -/
def all (children : List Node) : Group := ⟨.and, children⟩

/-- A group joining `children` with `or`. -/
def any (children : List Node) : Group := ⟨.or, children⟩

end Group

end Rules
end Questionnaire
