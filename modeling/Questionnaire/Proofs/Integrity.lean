import Questionnaire.Proofs.Evaluation
import Questionnaire.Schema.Integrity
/-!
# Schema — what the integrity check guarantees of evaluation

The evaluator departs from plain boolean evaluation of a rule's conditions
in three places, each failing closed: a tree past the evaluation limits
never fires, a group of unknown combinator is false, and so is a condition
on an id the form does not have. The integrity check, run once when a form
is loaded, reports each of them: `conditionTooLarge`, `unknownCombinator`,
`unknownConditionField`. This file shows it reports them exactly where they
matter. On a form whose check reports none of the three, a rule fires
exactly when its conditions hold plainly (`Node.holds`); and a rule the
check reports too large fires for no answers (`fired_eq_holds`).

Two walks have to agree for that. The evaluator measures a tree by one walk
that stops at the first group past the depth limit or the first node past
the node limit; the check compares the tree's depth and node count with the
same limits. The walk succeeds exactly when both fit (`withinLimits_iff`),
so the check reports a rule too large exactly when the walk refuses it
(`withinLimits_iff_measures`).

The ids the check knows are gathered by one fold over the fields, which
records the page of each use. Its accumulator is always the grouping of the
uses seen so far (`groupUses`): one more use adds its page to a known id, or
puts a new id last. So the fold ends with the form's ids in order of first
use, each with the page of every use (`fieldPages_eq`).
-/

namespace Questionnaire
namespace Rules

/-! ## The limit walk -/

namespace Limits

/-- **The walk over the children of a group at depth `d`**, having counted
`v` nodes, succeeds exactly when the deepest group below reaches no deeper
than the depth limit and the count after all of them stays within the node
limit; it then returns that count. -/
theorem fitsChildren_eq (l : Limits) :
    ∀ (d v : Nat) (cs : List Node), d ≤ l.maxDepth → v ≤ l.maxNodes →
      l.fitsChildren d v cs =
        if d + Node.depthList cs ≤ l.maxDepth ∧ v + Node.countList cs ≤ l.maxNodes
        then some (v + Node.countList cs) else none
  | d, v, [], hd, hv => by
    simp [fitsChildren, Node.depthList, Node.countList, hd, hv]
  | d, v, .leaf c :: rest, hd, hv => by
    have hdl : Node.depthList (.leaf c :: rest) = Node.depthList rest := by
      simp [Node.depthList, Node.depth]
    have hcl : Node.countList (.leaf c :: rest) = 1 + Node.countList rest := by
      simp [Node.countList, Node.count]
    rw [hdl, hcl, fitsChildren]
    by_cases hn : v + 1 ≤ l.maxNodes
    · rw [if_pos hn, fitsChildren_eq l d (v + 1) rest hd hn, Nat.add_assoc]
    · rw [if_neg hn, if_neg (by omega)]
  | d, v, .group comb children :: rest, hd, hv => by
    have hdl : Node.depthList (.group comb children :: rest) =
        max (1 + Node.depthList children) (Node.depthList rest) := by
      simp [Node.depthList, Node.depth]
    have hcl : Node.countList (.group comb children :: rest) =
        1 + Node.countList children + Node.countList rest := by
      simp [Node.countList, Node.count]
    rw [hdl, hcl, fitsChildren]
    simp only [fitsGroup]
    -- the group itself is at depth `d + 1` and is the `v + 1`-th node
    by_cases hg : d + 1 ≤ l.maxDepth ∧ v + 1 ≤ l.maxNodes
    · rw [if_neg (by simp; omega), fitsChildren_eq l (d + 1) (v + 1) children hg.1 hg.2]
      by_cases hc : d + 1 + Node.depthList children ≤ l.maxDepth ∧
          v + 1 + Node.countList children ≤ l.maxNodes
      · rw [if_pos hc]
        dsimp only
        rw [fitsChildren_eq l d _ rest hd hc.2]
        by_cases hr : d + Node.depthList rest ≤ l.maxDepth ∧
            v + 1 + Node.countList children + Node.countList rest ≤ l.maxNodes
        · rw [if_pos hr, if_pos (by omega)]
          congr 1
          omega
        · rw [if_neg hr, if_neg (by omega)]
      · rw [if_neg hc, if_neg (by omega)]
    · rw [if_pos (by simp; omega), if_neg (by omega)]

/-- **The walk agrees with the measures**: a tree is within the limits
exactly when its depth and its node count are. -/
theorem withinLimits_iff (l : Limits) (g : Group) :
    l.withinLimits g = true ↔ g.depth ≤ l.maxDepth ∧ g.nodeCount ≤ l.maxNodes := by
  simp only [withinLimits, fitsGroup, Group.depth, Group.nodeCount, Group.toNode, Node.depth,
    Node.count, gt_iff_lt, Bool.or_eq_true, decide_eq_true_eq]
  by_cases h : l.maxDepth < 1 ∨ l.maxNodes < 0 + 1
  · rw [if_pos h]
    simp only [Option.isSome_none, Bool.false_eq_true, false_iff]
    omega
  · rw [if_neg h, fitsChildren_eq l 1 (0 + 1) g.children (by omega) (by omega)]
    split_ifs with hc
    · simp only [Option.isSome_some, true_iff]
      omega
    · simp only [Option.isSome_none, Bool.false_eq_true, false_iff]
      omega

end Limits

/-! ## Plain evaluation -/

/-- **Plain evaluation** of a condition tree: a condition tests the answer of
its field, `and` needs every child, `or` needs one unless it has none. The
combinator the library does not know holds nowhere. -/
def Node.holds (answers : Answers) : Node → Bool
  | .leaf c => testCondition c (answers.get? c.fieldId)
  | .group .and cs => cs.attach.all fun ⟨n, _⟩ => n.holds answers
  | .group .or cs => cs.isEmpty || cs.attach.any fun ⟨n, _⟩ => n.holds answers
  | .group .unknown _ => false
decreasing_by
  all_goals
    have := List.sizeOf_lt_of_mem ‹_›
    simp
    omega

/-- Plain evaluation of a rule's conditions. -/
def Group.holds (g : Group) (answers : Answers) : Bool := g.toNode.holds answers

section Holds

variable {answers : Answers} {cs : List Node}

@[simp] theorem Node.holds_leaf (c : Condition) :
    (Node.leaf c).holds answers = testCondition c (answers.get? c.fieldId) := by
  simp [Node.holds]

@[simp] theorem Node.holds_and : (Node.group .and cs).holds answers = cs.all (·.holds answers) := by
  simp [Node.holds]

@[simp] theorem Node.holds_or :
    (Node.group .or cs).holds answers = (cs.isEmpty || cs.any (·.holds answers)) := by
  simp [Node.holds]

@[simp] theorem Node.holds_unknown : (Node.group .unknown cs).holds answers = false := by
  simp [Node.holds]

end Holds

end Rules

/-! ## What the check reports -/

namespace Schema

open Rules

/-- **The issues that change how a rule evaluates**: a tree past the limits,
an unknown combinator, a condition on an id the form does not have. -/
def Issue.changesEvaluation : Issue → Bool
  | .conditionTooLarge .. | .unknownCombinator _ | .unknownConditionField .. => true
  | _ => false

section Tree

variable {answers : Answers} {known : IdSet} {names : List String} {label : String}

mutual

/-- **A tree the check finds nothing in evaluates plainly**, when the ids
the evaluator knows are the ids the check knows. -/
theorem eval_eq_holds (hk : ∀ x, known.contains x = true ↔ x ∈ names) :
    ∀ n : Node, (∀ i ∈ nodeIssues label names n, i.changesEvaluation = false) →
      n.eval answers known = n.holds answers
  | .leaf c, h => by
    -- a condition on an id the check does not know would be reported
    have hc : c.fieldId ∈ names := by
      by_contra hc
      have := h (.unknownConditionField label c.fieldId) (by simp [nodeIssues, hc])
      simp [Issue.changesEvaluation] at this
    simp [Node.eval, (hk _).2 hc]
  | .group .and cs, h => by
    rw [Node.eval, Node.holds_and]
    exact evalAll_eq_all hk cs fun i hi => h i (by simp [nodeIssues, hi])
  | .group .or cs, h => by
    rw [Node.eval, Node.holds_or]
    rw [evalAny_eq_any hk cs fun i hi => h i (by simp [nodeIssues, hi])]
  | .group .unknown cs, h => by
    have := h (.unknownCombinator label) (by simp [nodeIssues])
    simp [Issue.changesEvaluation] at this

theorem evalAll_eq_all (hk : ∀ x, known.contains x = true ↔ x ∈ names) :
    ∀ cs : List Node, (∀ i ∈ nodesIssues label names cs, i.changesEvaluation = false) →
      Node.evalAll answers known cs = cs.all (·.holds answers)
  | [], _ => rfl
  | n :: rest, h => by
    rw [Node.evalAll, eval_eq_holds hk n fun i hi => h i (by simp [nodesIssues, hi]),
      evalAll_eq_all hk rest fun i hi => h i (by simp [nodesIssues, hi]), List.all_cons]

theorem evalAny_eq_any (hk : ∀ x, known.contains x = true ↔ x ∈ names) :
    ∀ cs : List Node, (∀ i ∈ nodesIssues label names cs, i.changesEvaluation = false) →
      Node.evalAny answers known cs = cs.any (·.holds answers)
  | [], _ => rfl
  | n :: rest, h => by
    rw [Node.evalAny, eval_eq_holds hk n fun i hi => h i (by simp [nodesIssues, hi]),
      evalAny_eq_any hk rest fun i hi => h i (by simp [nodesIssues, hi]), List.any_cons]

end

/-- Whether an issue reports a tree past the limits. -/
def Issue.isTooLarge : Issue → Bool
  | .conditionTooLarge .. => true
  | _ => false

mutual

/-- The issues of a condition tree are of four kinds. -/
theorem kindName_mem_of_mem_nodeIssues {i : Issue} : ∀ n : Node, i ∈ nodeIssues label names n →
    i.kindName ∈ ["unknownCombinator", "unknownConditionField", "unknownOperator", "inWithoutList"]
  | .leaf c, hi => by
    simp only [nodeIssues, List.mem_append] at hi
    -- a condition reports only its field and its operator
    rcases hi with hi | hi
    · split at hi <;> simp_all [Issue.kindName]
    · split at hi <;> (try split at hi) <;> simp_all [Issue.kindName]
  | .group comb cs, hi => by
    simp only [nodeIssues, List.mem_append] at hi
    rcases hi with hi | hi
    · split at hi <;> simp_all [Issue.kindName]
    · exact kindName_mem_of_mem_nodesIssues cs hi

theorem kindName_mem_of_mem_nodesIssues {i : Issue} : ∀ cs : List Node, i ∈ nodesIssues label names cs →
    i.kindName ∈ ["unknownCombinator", "unknownConditionField", "unknownOperator", "inWithoutList"]
  | [], hi => by simp [nodesIssues] at hi
  | n :: rest, hi => by
    simp only [nodesIssues, List.mem_append] at hi
    rcases hi with hi | hi
    · exact kindName_mem_of_mem_nodeIssues n hi
    · exact kindName_mem_of_mem_nodesIssues rest hi

end

/-- The issues of a tree's nodes never report its size. -/
theorem not_isTooLarge_of_mem_nodeIssues (n : Node) : ∀ i ∈ nodeIssues label names n, i.isTooLarge = false := by
  intro i hi
  have h := kindName_mem_of_mem_nodeIssues n hi
  cases i <;> simp_all [Issue.kindName, Issue.isTooLarge]

end Tree

/-! ## The ids the check knows -/

/-- **Every use of a field id**, with the index of its page, in form order. -/
def fieldPlaces (s : Schema) : List (String × Nat) :=
  s.pages.zipIdx.flatMap fun e => e.1.fields.map fun f => (f.id, e.2)

/-- The pages of the uses of `x`, in order. -/
def usePages (x : String) (uses : List (String × Nat)) : List Nat :=
  (uses.filter (·.1 == x)).map (·.2)

/-- The ids used, in order of first use, each with the pages of all its uses. -/
def groupUses (uses : List (String × Nat)) : List (String × List Nat) :=
  (uses.map Prod.fst).eraseDups.map fun x => (x, usePages x uses)

section Uses

variable {x y : String} {i : Nat} {uses more : List (String × Nat)}

theorem map_fst_fieldPlaces (s : Schema) : (fieldPlaces s).map Prod.fst = s.allFieldIds := by
  simp only [fieldPlaces, Schema.allFieldIds, Schema.allFields, List.map_flatMap, List.map_map]
  conv_rhs => rw [← List.zipIdx_map_fst 0 s.pages, List.flatMap_map]
  rfl

theorem usePages_append : usePages x (uses ++ more) = usePages x uses ++ usePages x more := by
  simp only [usePages, List.filter_append, List.map_append]

theorem usePages_singleton : usePages x [(y, i)] = if y = x then [i] else [] := by
  by_cases h : y = x <;> simp [usePages, h]

theorem usePages_eq_nil (h : x ∉ uses.map Prod.fst) : usePages x uses = [] := by
  simp only [usePages, List.map_eq_nil_iff, List.filter_eq_nil_iff, beq_iff_eq]
  rintro ⟨y, j⟩ hy rfl
  exact h (List.mem_map_of_mem hy)

/-- An id is used on as many pages as it has uses, repeats on one page included. -/
theorem length_usePages : (usePages x uses).length = (uses.map Prod.fst).count x := by
  rw [usePages, List.length_map, ← List.countP_eq_length_filter, List.count, List.countP_map]
  rfl

theorem eraseDups_append_singleton (l : List String) :
    (l ++ [x]).eraseDups = if x ∈ l then l.eraseDups else l.eraseDups ++ [x] := by
  rw [List.eraseDups_append]
  by_cases h : x ∈ l <;> simp [List.removeAll, List.eraseDups_cons, h]

theorem lookup_groupUses_isSome : ((groupUses uses).lookup x).isSome ↔ x ∈ uses.map Prod.fst := by
  have h : x ∈ (groupUses uses).map Prod.fst ↔ ((groupUses uses).lookup x).isSome :=
    IdMap.mem_keys (m := ⟨groupUses uses⟩)
  rw [← h, groupUses, List.map_map]
  simp [Function.comp_def, List.mem_eraseDups]

/-- **A use of a known id** adds its page to that id, last. -/
theorem groupUses_append_of_mem (h : x ∈ uses.map Prod.fst) :
    groupUses (uses ++ [(x, i)]) =
      (groupUses uses).map fun e => if e.1 == x then (e.1, e.2 ++ [i]) else e := by
  simp only [groupUses, List.map_append, List.map_cons, List.map_nil, eraseDups_append_singleton,
    if_pos h, List.map_map]
  refine List.map_congr_left fun y _ => ?_
  by_cases hy : y = x
  · subst hy
    simp [usePages_append, usePages_singleton]
  · simp [usePages_append, usePages_singleton, Ne.symm hy, hy]

/-- **A use of a new id** puts that id last, with the one page. -/
theorem groupUses_append_of_not_mem (h : x ∉ uses.map Prod.fst) :
    groupUses (uses ++ [(x, i)]) = groupUses uses ++ [(x, [i])] := by
  simp only [groupUses, List.map_append, List.map_cons, List.map_nil, eraseDups_append_singleton,
    if_neg h, usePages_append, usePages_singleton, if_true, usePages_eq_nil h,
    List.nil_append]
  congr 1
  refine List.map_congr_left fun y hy => ?_
  -- every id seen before differs from the new one
  have hne : x ≠ y := fun hxy => h (hxy ▸ List.mem_eraseDups.1 hy)
  simp [hne]

/-- A fold that records the uses of each item, one grouping to the next,
ends with the grouping of all of them. -/
theorem foldl_groupUses {β : Type} (g : List (String × List Nat) → β → List (String × List Nat))
    (places : β → List (String × Nat))
    (hg : ∀ uses b, g (groupUses uses) b = groupUses (uses ++ places b)) :
    ∀ (l : List β) (uses : List (String × Nat)),
      l.foldl g (groupUses uses) = groupUses (uses ++ l.flatMap places)
  | [], uses => by simp
  | b :: l, uses => by
    rw [List.foldl_cons, hg, foldl_groupUses g places hg l, List.flatMap_cons, List.append_assoc]

end Uses

/-- **The pages of each id, as the check gathers them**, are the grouping of
the form's uses: ids in order of first use, each with the page of every use. -/
theorem fieldPages_eq (s : Schema) : fieldPages s = groupUses (fieldPlaces s) := by
  rw [fieldPages]
  refine (foldl_groupUses _ (fun e : Page × Nat => e.1.fields.map fun f => (f.id, e.2)) ?_
    s.pages.zipIdx []).trans (by rw [List.nil_append]; rfl)
  rintro uses ⟨p, i⟩
  dsimp only
  rw [foldl_groupUses _ (fun f : Field => [(f.id, i)]), ← List.map_eq_flatMap]
  rintro uses f
  -- the step of the check's fold: a known id gains the page, a new one is added
  split
  next ps hps =>
    have hmem := lookup_groupUses_isSome.1 (Option.isSome_iff_exists.2 ⟨ps, hps⟩)
    rw [groupUses_append_of_mem hmem]
  next hnone =>
    have hmem : f.id ∉ uses.map Prod.fst := by
      rw [← lookup_groupUses_isSome, hnone]
      exact Bool.false_ne_true
    rw [groupUses_append_of_not_mem hmem]

/-- **The ids the check knows are the form's field ids.** -/
theorem mem_map_fst_fieldPages {x : String} (s : Schema) :
    x ∈ (fieldPages s).map Prod.fst ↔ x ∈ s.allFieldIds := by
  rw [fieldPages_eq, groupUses, List.map_map]
  simp [Function.comp_def, List.mem_eraseDups, map_fst_fieldPlaces]

section Rule

variable {c : Config} {known : List String} {label : String} {r : Rule}

/-- **The check reports a rule too large exactly when the limit walk fails on
it**: only the rule's size reports it, and with the limits the walk uses. -/
theorem tooLarge_mem_ruleIssues_iff :
    (∃ d n, Issue.conditionTooLarge label d n ∈ ruleIssues c known label r) ↔
      c.limits.withinLimits r.conditions = false := by
  have hw : c.limits.withinLimits r.conditions = false ↔
      r.conditions.depth > c.maxConditionDepth ∨ r.conditions.nodeCount > c.maxConditionNodes := by
    rw [← Bool.not_eq_true, Limits.withinLimits_iff]
    simp only [Config.limits]
    omega
  rw [hw]
  constructor
  · rintro ⟨d, n, h⟩
    simp only [ruleIssues, List.mem_append] at h
    rcases h with ((h | h) | h) | h
    · split_ifs at h with hs
      · simpa using hs
      · simp at h
    · have := not_isTooLarge_of_mem_nodeIssues _ _ h
      simp [Issue.isTooLarge] at this
    · split_ifs at h <;> simp at h
    · simp at h
  · intro hs
    refine ⟨r.conditions.depth, r.conditions.nodeCount, ?_⟩
    simp [ruleIssues, hs]

/-- **The limit guard measures the tree.** The evaluator's one walk with a
shared count accepts a tree exactly when its depth and its node count
(every group and every condition) are within the limits, both limits
inclusive. The integrity check reports a rule too large with those same two
measures, and exactly when the walk refuses the rule. -/
theorem withinLimits_iff_measures :
    (∀ (l : Limits) (g : Group),
      l.withinLimits g = true ↔ g.depth ≤ l.maxDepth ∧ g.nodeCount ≤ l.maxNodes) ∧
    ∀ (c : Config) (known : List String) (label : String) (r : Rule),
      Issue.conditionTooLarge label r.conditions.depth r.conditions.nodeCount ∈
          ruleIssues c known label r ↔
        c.limits.withinLimits r.conditions = false := by
  refine ⟨Limits.withinLimits_iff, fun c known label r =>
    ⟨fun h => tooLarge_mem_ruleIssues_iff.1 ⟨_, _, h⟩, fun h => ?_⟩⟩
  -- the walk refuses, so one measure is past its limit and the check reports both
  rw [← Bool.not_eq_true, Limits.withinLimits_iff] at h
  simp only [Config.limits] at h
  have hs : r.conditions.depth > c.maxConditionDepth ∨
      r.conditions.nodeCount > c.maxConditionNodes := by omega
  simp [ruleIssues, hs]

theorem mem_ruleIssues_of_mem_nodeIssues {i : Issue}
    (hi : i ∈ nodeIssues label known r.conditions.toNode) : i ∈ ruleIssues c known label r := by
  simp only [ruleIssues, List.mem_append]
  exact Or.inl (Or.inl (Or.inr hi))

/-- The issues of each rule are among those of the form. -/
theorem mem_check_of_mem_ruleIssues {s : Schema} {j : Nat} (hj : j < s.rules.length) {i : Issue}
    (hi : i ∈ ruleIssues c ((fieldPages s).map Prod.fst) (ruleLabel s.rules[j] j) s.rules[j]) :
    i ∈ (check s c).issues := by
  simp only [check, List.mem_append]
  refine Or.inr (List.mem_flatMap.2 ⟨(s.rules[j], j), ?_, hi⟩)
  exact List.mk_mem_zipIdx_iff_getElem?.2 (List.getElem?_eq_getElem hj)

/-- **A rule fires exactly when its conditions hold**, on a form whose check
reports nothing that changes evaluation. -/
theorem fires_eq_holds {s : Schema} {j : Nat} (hj : j < s.rules.length)
    (hok : ∀ i ∈ (check s c).issues, i.changesEvaluation = false) (answers : Answers) :
    s.rules[j].fires c.limits answers (IdSet.ofList (s.allFields.map Field.id)) =
      s.rules[j].conditions.holds answers := by
  have hrule := fun i hi => hok i (mem_check_of_mem_ruleIssues hj hi)
  -- no issue of the rule reports its size, so the walk succeeds
  have hw : c.limits.withinLimits s.rules[j].conditions = true := by
    by_contra hw
    obtain ⟨d, n, h⟩ := tooLarge_mem_ruleIssues_iff.2 (Bool.not_eq_true _ ▸ hw)
    simpa [Issue.changesEvaluation] using hrule _ h
  have hk : ∀ x, (IdSet.ofList (s.allFields.map Field.id)).contains x = true ↔
      x ∈ (fieldPages s).map Prod.fst := by
    intro x
    rw [IdSet.contains_iff_mem, IdSet.mem_toList_ofList, mem_map_fst_fieldPages]
    rfl
  rw [Rule.fires, hw, Bool.true_and, Group.eval, Group.holds]
  exact eval_eq_holds hk _ fun i hi => hrule i (mem_ruleIssues_of_mem_nodeIssues hi)

/-- **Evaluation on a checked form.** When the check reports no tree past the
limits, no unknown combinator and no condition on an unknown id, the rules
that fire are those whose conditions hold plainly. A rule whose own issues
report its size fires for no answers; its issues, not the form's, since two
rules may share a label. -/
theorem fired_eq_holds (s : Schema) (c : Config) :
    ((∀ i ∈ (check s c).issues, i.changesEvaluation = false) →
      ∀ answers, (evaluateWithTrace c.limits s.rules answers s.allFields).fired =
        (List.range s.rules.length).filter fun j => s.rules[j]?.any (·.conditions.holds answers)) ∧
    ∀ j (hj : j < s.rules.length),
      (∃ d n, Issue.conditionTooLarge (ruleLabel s.rules[j] j) d n ∈
        ruleIssues c ((fieldPages s).map Prod.fst) (ruleLabel s.rules[j] j) s.rules[j]) →
      ∀ answers, j ∉ (evaluateWithTrace c.limits s.rules answers s.allFields).fired := by
  refine ⟨fun hok answers => ?_, fun j hj hlarge answers hfired => ?_⟩
  · rw [evaluateWithTrace_fired, firedRules_eq_filter]
    refine List.filter_congr fun j hj => ?_
    rw [List.mem_range] at hj
    rw [List.getElem?_eq_getElem hj, Option.any_some, Option.any_some, fires_eq_holds hj hok]
  · rw [evaluateWithTrace_fired, mem_firedRules] at hfired
    obtain ⟨_, hf⟩ := hfired
    rw [Rule.fires, tooLarge_mem_ruleIssues_iff.1 hlarge, Bool.false_and] at hf
    exact absurd hf Bool.false_ne_true

/-- A form whose rule reads a field it has fires by plain evaluation; a rule
whose `or` holds a group past a depth limit of 1 fires for no answers, though
its first condition holds. -/
theorem fired_eq_holds_plain_and_deep :
    let plain := (Schema.new [(Page.new "p" "P").withFields [Field.new "a" .text, Field.new "b" .text]]).withRules
      [{ conditions := Group.all [.leaf ⟨"a", .isEmpty, .null⟩], actions := [⟨.hide, "b"⟩] }]
    let deep := (Schema.new [(Page.new "p" "P").withFields [Field.new "a" .text]]).withRules
      [{ conditions := Group.any [.leaf ⟨"a", .isEmpty, .null⟩, .group .and []], actions := [⟨.hide, "a"⟩] }]
    let shallow : Config := { maxConditionDepth := 1 }
    ((∀ i ∈ (check plain {}).issues, i.changesEvaluation = false) ∧
      (evaluateWithTrace ({} : Config).limits plain.rules {} plain.allFields).fired =
        (List.range plain.rules.length).filter fun j => plain.rules[j]?.any (·.conditions.holds {})) ∧
    ((∃ d n, Issue.conditionTooLarge (ruleLabel deep.rules[0] 0) d n ∈
        ruleIssues shallow ((fieldPages deep).map Prod.fst) (ruleLabel deep.rules[0] 0) deep.rules[0]) ∧
      0 ∉ (evaluateWithTrace shallow.limits deep.rules {} deep.allFields).fired) := by
  intro plain deep shallow
  have hplain : ∀ i ∈ (check plain {}).issues, i.changesEvaluation = false := by decide
  -- depth 2 and three nodes, past the depth limit
  have hdeep : ∃ d n, Issue.conditionTooLarge (ruleLabel deep.rules[0] 0) d n ∈
      ruleIssues shallow ((fieldPages deep).map Prod.fst) (ruleLabel deep.rules[0] 0) deep.rules[0] :=
    ⟨2, 3, by decide⟩
  exact ⟨⟨hplain, (fired_eq_holds plain {}).1 hplain {}⟩,
    ⟨hdeep, (fired_eq_holds deep shallow).2 0 (by decide) hdeep {}⟩⟩

end Rule

end Schema
end Questionnaire
