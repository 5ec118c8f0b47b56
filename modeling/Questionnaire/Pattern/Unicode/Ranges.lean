/-!
# Pattern — sets of code points

A set of code points is a list of ranges, sorted, disjoint and not
adjacent; surrogate code points are never members, since no text holds
them. Every operation keeps that shape, so two equal sets have equal lists.

The Unicode tables are texts of ranges in hexadecimal, `lo-hi` or a single
code point, separated by blanks; `CharSet.ofText` reads them.

**Main definitions.** `CharSet`, `CharSet.mem`, `CharSet.union`,
`CharSet.inter`, `CharSet.diff`, `CharSet.complement`, `CharSet.ofText`.
-/

namespace Questionnaire
namespace Pattern

/-- The greatest code point. -/
def maxCodePoint : Nat := 0x10FFFF

/-- **A set of code points**: sorted, disjoint, non-adjacent inclusive ranges. -/
structure CharSet where
  ranges : List (Nat × Nat) := []
  deriving DecidableEq, Hashable, Inhabited, Repr

namespace CharSet

/-- Merges a range into sorted, merged ranges that all start at or before it. -/
def pushRange (acc : List (Nat × Nat)) (r : Nat × Nat) : List (Nat × Nat) :=
  match acc with
  | (lo, hi) :: rest => if r.1 ≤ hi + 1 then (lo, max hi r.2) :: rest else r :: acc
  | [] => [r]

/-- Removes the surrogate code points from a range. -/
def withoutSurrogates (r : Nat × Nat) : List (Nat × Nat) :=
  let (lo, hi) := r
  if hi < 0xD800 ∨ lo > 0xDFFF then [r]
  else (if lo < 0xD800 then [(lo, 0xD7FF)] else []) ++ (if hi > 0xDFFF then [(0xE000, hi)] else [])

/-- **The set of any ranges**, in any order, overlapping or not; bounds are
clipped to code points and empty ranges dropped. -/
def ofRanges (rs : List (Nat × Nat)) : CharSet :=
  let valid := (rs.filter (fun r => r.1 ≤ r.2 ∧ r.1 ≤ maxCodePoint)).map (fun r => (r.1, min r.2 maxCodePoint))
  let sorted := valid.mergeSort (fun a b => a.1 ≤ b.1)
  ⟨((sorted.flatMap withoutSurrogates).foldl pushRange []).reverse⟩

/-- The empty set. -/
def empty : CharSet := {}

/-- The set of one code point. -/
def single (c : Nat) : CharSet := ofRanges [(c, c)]

/-- Every code point. -/
def full : CharSet := ofRanges [(0, maxCodePoint)]

/-- **Membership.** -/
def mem (s : CharSet) (c : Nat) : Bool := go s.ranges
where
  go : List (Nat × Nat) → Bool
    | [] => false
    | (lo, hi) :: rest => if c < lo then false else if c ≤ hi then true else go rest

/-- Whether the set has no member. -/
def isEmpty (s : CharSet) : Bool := s.ranges.isEmpty

/-- **Union.** -/
def union (a b : CharSet) : CharSet := ofRanges (a.ranges ++ b.ranges)

/-- The gaps between sorted ranges, from `start` to the last code point. -/
def gaps (start : Nat) : List (Nat × Nat) → List (Nat × Nat)
  | [] => if start ≤ maxCodePoint then [(start, maxCodePoint)] else []
  | (lo, hi) :: rest => (if start < lo then [(start, lo - 1)] else []) ++ gaps (hi + 1) rest

/-- **Complement**: every code point not in the set. -/
def complement (s : CharSet) : CharSet := ofRanges (gaps 0 s.ranges)

/-- **Intersection.** -/
def inter (a b : CharSet) : CharSet := (a.complement.union b.complement).complement

/-- **Difference**: the members of `a` not in `b`. -/
def diff (a b : CharSet) : CharSet := a.inter b.complement

/-- **Symmetric difference**: the members of exactly one. -/
def symmDiff (a b : CharSet) : CharSet := (a.diff b).union (b.diff a)

/-- How many code points the set holds. -/
def count (s : CharSet) : Nat := s.ranges.foldl (fun n r => n + (r.2 + 1 - r.1)) 0

/-- The value of a hexadecimal digit, if it is one. -/
def hexDigit (c : Char) : Option Nat :=
  if '0' ≤ c ∧ c ≤ '9' then some (c.toNat - '0'.toNat)
  else if 'a' ≤ c ∧ c ≤ 'f' then some (c.toNat - 'a'.toNat + 10)
  else if 'A' ≤ c ∧ c ≤ 'F' then some (c.toNat - 'A'.toNat + 10)
  else none

/-- A hexadecimal number; `none` for an empty text or a stray character. -/
def readHex (s : String) : Option Nat :=
  if s.isEmpty then none
  else s.toList.foldl (fun acc c => do let n ← acc; let d ← hexDigit c; pure (n * 16 + d)) (some 0)

/-- One range of a table text: `lo-hi` or a single code point. -/
def readRange (s : String) : Option (Nat × Nat) :=
  match s.splitOn "-" with
  | [a] => (readHex a).map fun n => (n, n)
  | [a, b] => do let lo ← readHex a; let hi ← readHex b; pure (lo, hi)
  | _ => none

/-- **The set of a table text.** -/
def ofText (s : String) : CharSet :=
  ofRanges ((s.splitOn " ").filterMap readRange)

end CharSet

end Pattern
end Questionnaire
