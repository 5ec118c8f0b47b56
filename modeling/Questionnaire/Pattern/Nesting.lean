import Questionnaire.Pattern.Syntax

/-!
# Pattern — nesting depth

A pattern may nest at most `nestLimit` levels deep. Groups, repetitions,
sequences, alternations and bracketed sets each open a level; inside
brackets, so do nested brackets, unions of several items and set
operations. Single items open none. A pattern nested deeper is a fault at
the first node, in reading order, that opens a level past the limit: the
tree is read top-down, left to right, so that node is the one whose
ancestors already fill the limit.

**Main definitions.** `nestLimit`, `Ast.tooDeep`.
-/

namespace Questionnaire
namespace Pattern

/-- The deepest nesting a pattern may have. -/
def nestLimit : Nat := 250

mutual

/-- The span of the first set expression, in reading order, that opens a
level past the limit, below a parent at depth `d`. -/
def SetExpr.tooDeep (d : Nat) : SetExpr → Option Span
  | .bracket body _ s => if d + 1 > nestLimit then some s else SetExpr.tooDeep (d + 1) body
  | .union [] _ => none
  | .union (e :: es) s =>
    if d + 1 > nestLimit then some s else SetExpr.tooDeepAll (d + 1) (e :: es)
  | .op _ lhs rhs s =>
    if d + 1 > nestLimit then some s
    else (SetExpr.tooDeep (d + 1) lhs).orElse fun _ => SetExpr.tooDeep (d + 1) rhs
  | .literal .. | .range .. | .ascii .. | .unicode .. | .perl .. => none

/-- The first of `SetExpr.tooDeep` over items in order. -/
def SetExpr.tooDeepAll (d : Nat) : List SetExpr → Option Span
  | [] => none
  | e :: es => (SetExpr.tooDeep d e).orElse fun _ => SetExpr.tooDeepAll d es

end

mutual

/-- **The span of the first node**, in reading order, that opens a level
past the limit, below a parent at depth `d`; `none` when the tree keeps
within it. -/
def Ast.tooDeep (d : Nat) : Ast → Option Span
  | .bracket body _ s => if d + 1 > nestLimit then some s else SetExpr.tooDeep (d + 1) body
  | .repetition body _ _ _ s => if d + 1 > nestLimit then some s else Ast.tooDeep (d + 1) body
  | .group _ body s => if d + 1 > nestLimit then some s else Ast.tooDeep (d + 1) body
  | .concat items s => if d + 1 > nestLimit then some s else Ast.tooDeepAll (d + 1) items
  | .alternation items s => if d + 1 > nestLimit then some s else Ast.tooDeepAll (d + 1) items
  | .empty .. | .literal .. | .dot .. | .assertion .. | .perl .. | .unicode .. | .flags .. => none

/-- The first of `Ast.tooDeep` over items in order. -/
def Ast.tooDeepAll (d : Nat) : List Ast → Option Span
  | [] => none
  | a :: as => (Ast.tooDeep d a).orElse fun _ => Ast.tooDeepAll d as

end

end Pattern
end Questionnaire
