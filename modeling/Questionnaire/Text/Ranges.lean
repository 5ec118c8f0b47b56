/-!
# Text — ranges of code points

Character data tables list inclusive ranges of code points, sorted and
disjoint; membership is a look through the list.

**Main definitions.** `inRanges`.
-/

namespace Questionnaire
namespace Text

/-- Whether a code point lies in one of the ranges. -/
def inRanges (rs : List (Nat × Nat)) (n : Nat) : Bool :=
  rs.any fun r => r.1 ≤ n && n ≤ r.2

/-- A code point lies in the ranges exactly when one of them holds it. -/
theorem inRanges_iff (rs : List (Nat × Nat)) (n : Nat) :
    inRanges rs n = true ↔ ∃ r ∈ rs, r.1 ≤ n ∧ n ≤ r.2 := by
  simp [inRanges]

end Text
end Questionnaire
