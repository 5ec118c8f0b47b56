import Questionnaire.Proofs.Integrity
/-!
# Schema — ids used more than once

Field ids are meant to be unique across a form; the integrity check reports
each id that is not. This file shows the report is exact. Take every use of
a field id with the index of its page, in form order (`fieldPlaces`). The
check reports one `duplicateFieldId` per id used more than once, in order of
first use, and each lists the page of every use of its id, in order, so a
page appears once per use on it (`check_duplicates_eq_repeatedIds`). In
particular the check reports no repeated id exactly when the ids are
pairwise distinct, the condition under which checking the whole form agrees
with checking it page by page.

The pages come from the fold that gathers the ids the check knows
(`fieldPages_eq`); the other parts of the report are of other kinds
(`kindName_mem_of_mem_fieldIssues`, `kindName_mem_of_mem_ruleIssues`).
-/

namespace Questionnaire
namespace Schema

open Rules

/-! ## The kinds of issue each part reports -/

section Kinds

variable {i : Issue}

/-- The issues of a field are of four kinds. -/
theorem kindName_mem_of_mem_fieldIssues {f : Field} (hi : i ∈ fieldIssues f) :
    i.kindName ∈ ["requiredDecorativeField", "invalidPattern", "invalidDateBound", "invertedBounds"] := by
  simp only [fieldIssues] at hi
  split at hi
  · split at hi <;> simp_all [Issue.kindName]
  -- a bag of checks: one part per constraint, each an optional issue
  · simp only [List.mem_append] at hi
    rcases hi with (((((h | h) | h) | h) | h) | h) | h
    all_goals (repeat' split at h) <;> simp_all [Issue.kindName]

variable {label : String} {known : List String}

/-- The issues of a rule are about its size, its tree and its actions. -/
theorem kindName_mem_of_mem_ruleIssues {c : Config} {r : Rule} (hi : i ∈ ruleIssues c known label r) :
    i.kindName ∈ ["conditionTooLarge", "unknownCombinator", "unknownConditionField", "unknownOperator",
      "inWithoutList", "ruleWithoutActions", "unknownActionType", "unknownActionTarget"] := by
  simp only [ruleIssues, List.mem_append, List.mem_flatMap] at hi
  rcases hi with ((h | h) | h) | ⟨a, -, h | h⟩
  · split at h <;> simp_all [Issue.kindName]
  · have := kindName_mem_of_mem_nodeIssues _ h
    simp only [List.mem_cons, List.not_mem_nil, or_false] at this ⊢
    tauto
  all_goals split at h <;> simp_all [Issue.kindName]

end Kinds

/-! ## The repeated ids -/

/-- **The ids a form uses more than once**, in order of first use. -/
def repeatedIds (s : Schema) : List String :=
  s.allFieldIds.eraseDups.filter fun x => 1 < s.allFieldIds.count x

/-- An id is listed on as many pages as the form has uses of it. -/
theorem length_usePages_fieldPlaces (s : Schema) (x : String) :
    (usePages x (fieldPlaces s)).length = s.allFieldIds.count x := by
  rw [length_usePages, map_fst_fieldPlaces]

/-- Keeping the items of one kind from three parts, when only the middle one has any. -/
theorem filter_append_append_of_forall {α : Type} {p : α → Bool} {A D R : List α}
    (hA : ∀ a ∈ A, p a = false) (hR : ∀ a ∈ R, p a = false) : (A ++ D ++ R).filter p = D.filter p := by
  have hA' : A.filter p = [] := List.filter_eq_nil_iff.2 fun a ha => by simp [hA a ha]
  have hR' : R.filter p = [] := List.filter_eq_nil_iff.2 fun a ha => by simp [hR a ha]
  rw [List.filter_append, List.filter_append, hA', hR', List.nil_append, List.append_nil]

/-- **The check reports each repeated id once**, in order of first use, with
the page of every use. -/
theorem check_duplicates (s : Schema) (c : Config) :
    (check s c).issues.filter (·.kindName == "duplicateFieldId") =
      (repeatedIds s).map (fun x => Issue.duplicateFieldId x (usePages x (fieldPlaces s))) := by
  simp only [check]
  -- the other parts report fields, rules and the empty form, never a repeated id
  refine (filter_append_append_of_forall (fun i hi => ?_) (fun i hi => ?_)).trans ?_
  · simp only [List.mem_append, List.mem_flatMap] at hi
    rcases hi with hi | ⟨f, -, hi⟩
    · split at hi <;> simp_all [Issue.kindName]
    · have h := kindName_mem_of_mem_fieldIssues hi
      exact beq_eq_false_iff_ne.2 fun he => by simp [he] at h
  · obtain ⟨⟨r, j⟩, -, hi⟩ := List.mem_flatMap.1 hi
    have h := kindName_mem_of_mem_ruleIssues hi
    exact beq_eq_false_iff_ne.2 fun he => by simp [he] at h
  · rw [fieldPages_eq, groupUses, List.filterMap_map, map_fst_fieldPlaces, List.filter_filterMap,
      repeatedIds, ← List.filterMap_eq_filter, List.map_filterMap]
    refine List.filterMap_congr fun x _ => ?_
    by_cases hx : 1 < s.allFieldIds.count x
    · simp [hx, length_usePages_fieldPlaces, Option.guard, Issue.kindName]
    · simp [hx, length_usePages_fieldPlaces, Option.guard]

/-- No id is used twice exactly when the ids are pairwise distinct. -/
theorem repeatedIds_eq_nil_iff (s : Schema) : repeatedIds s = [] ↔ s.allFieldIds.Nodup := by
  rw [repeatedIds, List.filter_eq_nil_iff, List.nodup_iff_count_le_one]
  simp only [List.mem_eraseDups, decide_eq_true_eq, not_lt]
  constructor
  · intro h x
    by_cases hx : x ∈ s.allFieldIds
    · exact h x hx
    · rw [List.count_eq_zero_of_not_mem hx]
      exact Nat.zero_le 1
  · exact fun h x _ => h x

/-- **The repeated ids the check reports.** Its `duplicateFieldId` issues are
one per id the form uses more than once, in order of first use, each with the
page of every use of its id in form order; so each lists as many pages as its
id has uses, repeats on one page included. And the check reports no repeated
id exactly when the form's field ids are pairwise distinct. -/
theorem check_duplicates_eq_repeatedIds (s : Schema) (c : Config) :
    (check s c).issues.filter (·.kindName == "duplicateFieldId") =
        (repeatedIds s).map (fun x => Issue.duplicateFieldId x (usePages x (fieldPlaces s))) ∧
      (∀ x, (usePages x (fieldPlaces s)).length = s.allFieldIds.count x) ∧
      ((∀ i ∈ (check s c).issues, i.kindName ≠ "duplicateFieldId") ↔ s.allFieldIds.Nodup) := by
  refine ⟨check_duplicates s c, length_usePages_fieldPlaces s, ?_⟩
  -- no issue is a repeated id exactly when none is kept
  have hnone : (∀ i ∈ (check s c).issues, i.kindName ≠ "duplicateFieldId") ↔
      (check s c).issues.filter (·.kindName == "duplicateFieldId") = [] := by
    simp [List.filter_eq_nil_iff]
  rw [hnone, check_duplicates, List.map_eq_nil_iff, repeatedIds_eq_nil_iff]

/-- An id used twice on one page and once on the next is reported once, with
the first page twice. -/
example : (check (Schema.new [(Page.new "p1" "p1").withFields [Field.new "a" .text, Field.new "a" .text],
    (Page.new "p2" "p2").withFields [Field.new "b" .text, Field.new "a" .text]])).issues =
    [.duplicateFieldId "a" [0, 0, 1]] := by decide

end Schema
end Questionnaire
