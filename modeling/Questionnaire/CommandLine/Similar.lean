/-!
# Command line — similar words

When a word on the command line names nothing, the closest names are offered
instead. Closeness is the Jaro similarity of the two words, over their
characters: characters match when equal and no further apart than half the
longer word, less one; the score averages the share of matched characters in
each word with the share of matches that are not transposed. A name is
offered when its score exceeds 0.7, and the names are ranked from the least
to the most similar, ties keeping their order.

**Main definitions.** `jaro`, `similarNames`.
-/

namespace Questionnaire
namespace CommandLine

/-- The first unmatched position of `b`, between `lo` and `hi`, holding `c`. -/
def firstMatch (b : Array Char) (taken : Array Bool) (c : Char) (lo hi : Nat) : Option Nat :=
  (List.range' lo (hi - lo)).find? fun j => !(taken[j]?.getD true) && b[j]? == some c

/-- Matches the characters of `a`, in order, against those of `b`: which
positions of each took part. -/
def matchFlags (a b : Array Char) (range : Nat) : Array Bool × Array Bool :=
  (List.range a.size).foldl (fun (fa, fb) i =>
    match a[i]? with
    | none => (fa, fb)
    | some c =>
      match firstMatch b fb c (i - range) (min b.size (i + range + 1)) with
      | some j => (fa.set! i true, fb.set! j true)
      | none => (fa, fb)) (Array.replicate a.size false, Array.replicate b.size false)

/-- The matched characters of a word, in order. -/
def matched (w : Array Char) (flags : Array Bool) : List Char :=
  (List.range w.size).filterMap fun i => if flags[i]?.getD false then w[i]? else none

/-- **The Jaro similarity** of two words, from 0 (nothing shared) to 1. -/
def jaro (a b : String) : Float :=
  let a := a.toList.toArray
  let b := b.toList.toArray
  if a.size == 0 && b.size == 0 then 1.0
  else if a.size == 0 || b.size == 0 then 0.0
  else
    let (fa, fb) := matchFlags a b (max a.size b.size / 2 - 1)
    let ma := matched a fa
    let mb := matched b fb
    let m := ma.length
    if m == 0 then 0.0
    else
      let t := ((ma.zip mb).filter fun (x, y) => x != y).length / 2
      (m.toFloat / a.size.toFloat + m.toFloat / b.size.toFloat + (m - t).toFloat / m.toFloat) / 3.0

/-- **The names similar to a word**, least similar first. -/
def similarNames (word : String) (names : List String) : List String :=
  let scored := (names.map fun n => (jaro word n, n)).filter fun (s, _) => s > 0.7
  (scored.mergeSort fun x y => x.1 <= y.1).map Prod.snd

end CommandLine
end Questionnaire
