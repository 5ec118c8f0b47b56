import Questionnaire.Proofs.Evaluation
/-!
# Rules — what a pass reads of the answers

A pass looks at an answer only through a condition on its field, and only
when the form has that field: a condition on an id the form does not have
is false before any answer is read. Every operator reads `null` as no
answer (`testCondition_given`). So two sets of answers that agree, up to
`null`, on the ids that are both fields of the form and fields of some
condition give the same pass: the same fired rules, outcome and state
(`evaluateWithTrace_congr_answers`). Answers for ids the form does not
have, and answers of fields no condition reads, change nothing.

The congruence follows the evaluator's own recursion: one lemma for a node
and one for each way a group joins its children.
-/

namespace Questionnaire

/-- **An answer as it is read**: `null` is no answer. -/
def Answer.given : Option Answer → Option Answer
  | some .null => none
  | v => v

namespace Rules

open Schema

/-- Every operator reads `null` as it reads a missing answer. -/
theorem testCondition_null (c : Condition) :
    testCondition c (some .null) = testCondition c none := by
  obtain ⟨x, op, lit⟩ := c
  cases op
  case memberOf =>
    -- `null` is strictly equal to no item of a list literal
    cases lit <;> simp [testCondition, Answer.isSequence, strictEq]
  case contains => cases lit <;> rfl
  all_goals rfl

/-- **A condition reads an answer as given**, `null` as no answer. -/
theorem testCondition_given (c : Condition) (v : Option Answer) :
    testCondition c (Answer.given v) = testCondition c v := by
  cases v with
  | none => rfl
  | some a =>
    cases a with
    | null => exact (testCondition_null c).symm
    | _ => rfl

section Congr

variable {known : IdSet} {a a' : Answers}

mutual

/-- **A node reads only the answers of its conditions' fields**, and of
those only the fields the form knows. -/
theorem Node.eval_congr_answers :
    ∀ n : Node, (∀ c ∈ n.leaves, known.contains c.fieldId = true →
        Answer.given (a.get? c.fieldId) = Answer.given (a'.get? c.fieldId)) →
      n.eval a known = n.eval a' known
  | .leaf c, h => by
    by_cases hk : known.contains c.fieldId = true
    · rw [Node.eval, Node.eval, ← testCondition_given, h c (by simp [Node.leaves]) hk,
        testCondition_given]
    -- a condition on a field the form does not have is false either way
    · simp [Node.eval, hk]
  | .group .and cs, h => by
    rw [Node.eval, Node.eval, Node.evalAll_congr_answers cs h]
  | .group .or cs, h => by
    rw [Node.eval, Node.eval, Node.evalAny_congr_answers cs h]
  | .group .unknown _, _ => rfl

theorem Node.evalAll_congr_answers :
    ∀ cs : List Node, (∀ c ∈ Node.leavesList cs, known.contains c.fieldId = true →
        Answer.given (a.get? c.fieldId) = Answer.given (a'.get? c.fieldId)) →
      Node.evalAll a known cs = Node.evalAll a' known cs
  | [], _ => rfl
  | n :: rest, h => by
    rw [Node.evalAll, Node.evalAll,
      Node.eval_congr_answers n fun c hc => h c (by simp [Node.leavesList, hc]),
      Node.evalAll_congr_answers rest fun c hc => h c (by simp [Node.leavesList, hc])]

theorem Node.evalAny_congr_answers :
    ∀ cs : List Node, (∀ c ∈ Node.leavesList cs, known.contains c.fieldId = true →
        Answer.given (a.get? c.fieldId) = Answer.given (a'.get? c.fieldId)) →
      Node.evalAny a known cs = Node.evalAny a' known cs
  | [], _ => rfl
  | n :: rest, h => by
    rw [Node.evalAny, Node.evalAny,
      Node.eval_congr_answers n fun c hc => h c (by simp [Node.leavesList, hc]),
      Node.evalAny_congr_answers rest fun c hc => h c (by simp [Node.leavesList, hc])]

end

/-- Whether a rule fires reads only the answers of its conditions' known fields. -/
theorem Rule.fires_congr_answers {l : Limits} {r : Rule}
    (h : ∀ c ∈ r.conditions.leaves, known.contains c.fieldId = true →
      Answer.given (a.get? c.fieldId) = Answer.given (a'.get? c.fieldId)) :
    r.fires l a known = r.fires l a' known := by
  rw [Rule.fires, Rule.fires, Group.eval, Group.eval, Node.eval_congr_answers _ h]

theorem firedRules_congr_answers {l : Limits} {rules : List Rule}
    (h : ∀ r ∈ rules, ∀ c ∈ r.conditions.leaves, known.contains c.fieldId = true →
      Answer.given (a.get? c.fieldId) = Answer.given (a'.get? c.fieldId)) :
    firedRules l a known rules = firedRules l a' known rules := by
  rw [firedRules_eq_filter, firedRules_eq_filter]
  refine List.filter_congr fun i hi => ?_
  rw [List.mem_range] at hi
  rw [List.getElem?_eq_getElem hi, Option.any_some, Option.any_some,
    Rule.fires_congr_answers (h _ (List.getElem_mem hi))]

end Congr

/-- **A pass reads only the answers its conditions read.** Every operator
reads an absent answer and `null` alike; so two sets of answers that agree,
up to `null`, on every id that is both a field of the form and the field of
some condition, at any depth of any rule, give the same pass. -/
theorem evaluateWithTrace_congr_answers :
    (∀ c : Condition, testCondition c none = testCondition c (some .null)) ∧
    ∀ (l : Limits) (rules : List Rule) (fields : List Field) (a a' : Answers),
      (∀ x ∈ fields.map Field.id, (∃ r ∈ rules, ∃ c ∈ r.conditions.leaves, c.fieldId = x) →
        Answer.given (a.get? x) = Answer.given (a'.get? x)) →
      evaluateWithTrace l rules a fields = evaluateWithTrace l rules a' fields := by
  refine ⟨fun c => (testCondition_null c).symm, fun l rules fields a a' h => ?_⟩
  -- only the fired rules read the answers; the outcome and state follow them
  have hfired : firedRules l a (IdSet.ofList (fields.map Field.id)) rules =
      firedRules l a' (IdSet.ofList (fields.map Field.id)) rules :=
    firedRules_congr_answers fun r hr c hc hk =>
      h c.fieldId (by simpa using hk) ⟨r, hr, c, hc, rfl⟩
  simp only [evaluateWithTrace, hfired]

/-- A condition on `a` hiding `b`: answers that differ on `b`, on an id the
form does not have, and by `null` against absence on `a` evaluate alike. -/
theorem evaluateWithTrace_congr_answers_unread :
    (∀ x ∈ [Field.new "a" .text, Field.new "b" .text].map Field.id,
      (∃ r ∈ [({ conditions := Group.all [.leaf ⟨"a", .isEmpty, .null⟩],
                  actions := [⟨.hide, "b"⟩] } : Rule)],
          ∃ c ∈ r.conditions.leaves, c.fieldId = x) →
        Answer.given ((IdMap.ofList [("b", Answer.text "1")]).get? x) =
          Answer.given
            ((IdMap.ofList [("a", Answer.null), ("b", .text "2"), ("z", .text "3")]).get? x)) ∧
      evaluateWithTrace {}
          [{ conditions := Group.all [.leaf ⟨"a", .isEmpty, .null⟩], actions := [⟨.hide, "b"⟩] }]
          (IdMap.ofList [("b", Answer.text "1")]) [Field.new "a" .text, Field.new "b" .text] =
        evaluateWithTrace {}
          [{ conditions := Group.all [.leaf ⟨"a", .isEmpty, .null⟩], actions := [⟨.hide, "b"⟩] }]
          (IdMap.ofList [("a", Answer.null), ("b", .text "2"), ("z", .text "3")])
          [Field.new "a" .text, Field.new "b" .text] := by
  have h : ∀ x ∈ [Field.new "a" .text, Field.new "b" .text].map Field.id,
      (∃ r ∈ [({ conditions := Group.all [.leaf ⟨"a", .isEmpty, .null⟩],
                  actions := [⟨.hide, "b"⟩] } : Rule)],
          ∃ c ∈ r.conditions.leaves, c.fieldId = x) →
        Answer.given ((IdMap.ofList [("b", Answer.text "1")]).get? x) =
          Answer.given
            ((IdMap.ofList [("a", Answer.null), ("b", .text "2"), ("z", .text "3")]).get? x) := by
    -- the one condition reads `a`: absent on one side, `null` on the other
    rintro x - ⟨r, hr, c, hc, rfl⟩
    simp only [List.mem_singleton] at hr
    subst hr
    simp only [Group.leaves, Group.toNode, Group.all, Node.leaves, Node.leavesList, List.append_nil,
      List.mem_singleton] at hc
    subst hc
    rfl
  exact ⟨h, evaluateWithTrace_congr_answers.2 _ _ _ _ _ h⟩

end Rules
end Questionnaire
