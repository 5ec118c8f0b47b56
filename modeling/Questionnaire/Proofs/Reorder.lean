import Questionnaire.Proofs.Integrity
/-!
# Rules — the order of conditions does not matter

A rule's conditions are written as a tree, and the order of a group's
children is only the order they were written in. This file shows it is never
read. Put the children of one group, at any depth, in another order
(`Node.Reordered`): the tree keeps its depth and its node count, so the
evaluator's limit walk accepts it exactly when it accepted the old one, and
it evaluates to the same value for all answers (`reorder_keeps_firing`). So
whether a rule fires does not depend on the order its conditions are
written in.

The walk stops early and counts nodes in order, but it accepts a tree
exactly when both measures fit (`Limits.withinLimits_iff`), and both
measures are folds over the children by `max` and `+`, which do not depend
on the order. Evaluation joins the children by `all` or `any`.
-/

namespace Questionnaire
namespace Rules

/-- **One reordering of a condition tree**: the children of one group, at
any depth, put in another order. -/
inductive Node.Reordered : Node → Node → Prop
  /-- The children of this group, permuted. -/
  | here (comb : Combinator) {cs ds : List Node} (h : cs.Perm ds) :
      Node.Reordered (.group comb cs) (.group comb ds)
  /-- One child reordered inside, the others kept in place. -/
  | inside (comb : Combinator) (pre post : List Node) {n n' : Node} (h : Node.Reordered n n') :
      Node.Reordered (.group comb (pre ++ n :: post)) (.group comb (pre ++ n' :: post))

namespace Node

variable {n n' : Node} {answers : Answers} {known : IdSet}

/-! ## What a group reads of its children -/

theorem depthList_eq_foldr (cs : List Node) : depthList cs = (cs.map depth).foldr max 0 := by
  induction cs with
  | nil => rfl
  | cons c cs ih => rw [depthList, ih, List.map_cons, List.foldr_cons]

theorem countList_eq_foldr (cs : List Node) : countList cs = (cs.map count).foldr (· + ·) 0 := by
  induction cs with
  | nil => rfl
  | cons c cs ih => rw [countList, ih, List.map_cons, List.foldr_cons]

theorem evalAll_eq_all (cs : List Node) : evalAll answers known cs = cs.all (·.eval answers known) := by
  induction cs with
  | nil => rfl
  | cons c cs ih => rw [evalAll, ih, List.all_cons]

theorem evalAny_eq_any (cs : List Node) : evalAny answers known cs = cs.any (·.eval answers known) := by
  induction cs with
  | nil => rfl
  | cons c cs ih => rw [evalAny, ih, List.any_cons]

/-! ## A reordering keeps the measures and the value -/

theorem Reordered.depth_eq (h : n.Reordered n') : n.depth = n'.depth := by
  induction h with
  | here comb h =>
    rw [depth, depth, depthList_eq_foldr, depthList_eq_foldr,
      (h.map depth).foldr_eq' (fun x _ y _ z => max_left_comm y x z)]
  | inside comb pre post _ ih =>
    simp only [depth, depthList_eq_foldr, List.map_append, List.map_cons, ih]

theorem Reordered.count_eq (h : n.Reordered n') : n.count = n'.count := by
  induction h with
  | here comb h =>
    rw [count, count, countList_eq_foldr, countList_eq_foldr,
      (h.map count).foldr_eq' (fun x _ y _ z => Nat.add_left_comm y x z)]
  | inside comb pre post _ ih =>
    simp only [count, countList_eq_foldr, List.map_append, List.map_cons, ih]

theorem Reordered.eval_eq (h : n.Reordered n') : n.eval answers known = n'.eval answers known := by
  induction h with
  | here comb h =>
    -- `or` also asks whether there are children at all, which a permutation keeps
    cases comb <;> simp [eval, evalAll_eq_all, evalAny_eq_any, h.all_eq, h.any_eq, h.isEmpty_eq]
  | inside comb pre post _ ih =>
    -- the group has children before and after
    have hne : ∀ m : Node, (pre ++ m :: post).isEmpty = false := fun _ => by simp
    cases comb <;> simp [eval, evalAll_eq_all, evalAny_eq_any, hne, ih]

end Node

/-- **Reordering conditions changes nothing.** Put the children of one group
of a rule's conditions, at any depth, the root included, in another order:
for any limits the evaluator's walk accepts the tree exactly when it
accepted the old one; for any answers and known ids the tree evaluates to
the same value; so the rule fires exactly when it did. -/
theorem reorder_keeps_firing {g g' : Group} (h : g.toNode.Reordered g'.toNode) :
    (∀ l : Limits, l.withinLimits g = l.withinLimits g') ∧
      (∀ answers known, g.eval answers known = g'.eval answers known) ∧
      ∀ (r : Rule) l answers known,
        Rule.fires l answers known { r with conditions := g } =
          Rule.fires l answers known { r with conditions := g' } := by
  have hwithin : ∀ l : Limits, l.withinLimits g = l.withinLimits g' := fun l => by
    rw [Bool.eq_iff_iff, Limits.withinLimits_iff, Limits.withinLimits_iff, Group.depth,
      Group.depth, Group.nodeCount, Group.nodeCount, h.depth_eq, h.count_eq]
  have heval : ∀ answers known, g.eval answers known = g'.eval answers known :=
    fun _ _ => h.eval_eq
  refine ⟨hwithin, heval, fun r l answers known => ?_⟩
  simp only [Rule.fires, hwithin l, heval answers known]

/-- Swapping the two children of an `or` group inside the root `and`. -/
theorem reorder_keeps_firing_inner_or :
    let b : Node := .leaf ⟨"b", .isNotEmpty, .null⟩
    let c : Node := .leaf ⟨"c", .eq, .str "x"⟩
    let g := Group.all [.leaf ⟨"a", .isEmpty, .null⟩, .group .or [b, c]]
    let g' := Group.all [.leaf ⟨"a", .isEmpty, .null⟩, .group .or [c, b]]
    g.toNode.Reordered g'.toNode ∧
      (∀ l : Limits, l.withinLimits g = l.withinLimits g') ∧
      (∀ answers known, g.eval answers known = g'.eval answers known) ∧
      ∀ (r : Rule) l answers known,
        Rule.fires l answers known { r with conditions := g } =
          Rule.fires l answers known { r with conditions := g' } := by
  intro b c g g'
  have h : g.toNode.Reordered g'.toNode :=
    .inside .and [.leaf ⟨"a", .isEmpty, .null⟩] [] (.here .or (List.Perm.swap c b []))
  exact ⟨h, reorder_keeps_firing h⟩

end Rules
end Questionnaire
