import Questionnaire.Pattern.Unicode.Ranges
import Questionnaire.Pattern.Utf8

/-!
# Pattern — expressions

The meaning of a pattern: an expression over literal texts, sets of
characters, zero-width tests, repetition, groups, sequence and choice.

Expressions are built through simplifying constructors, so that equal
meanings written differently mostly come out alike, and the automaton
built from them is small.

* A sequence is flattened, drops empty items and merges adjacent literals.
* A choice is flattened; a choice between single characters, or between
  sets, is one set; a choice between sequences with a common beginning
  takes that beginning out.
* A set of one character is that character, and the empty set is the
  expression that matches nothing.
* A repetition of what can only match the empty text repeats it at most
  once; `{0}` is the empty expression and `{1}` the body itself.

Lengths are counted in bytes of UTF-8: the least length is absent when the
expression matches nothing, the greatest also when it is unbounded.

**Main definitions.** `Look`, `Expr`, `Expr.minLen`, `Expr.maxLen`,
`Expr.startAnchored`, `Expr.endAnchored`, `Expr.mkSeq`, `Expr.mkAlt`,
`Expr.mkRepeat`.
-/

namespace Questionnaire
namespace Pattern

/-- **A zero-width test** at a position between two characters. -/
inductive Look where
  | start
  | stop
  | startLF
  | endLF
  | startCRLF
  | endCRLF
  | word (unicode : Bool)
  | notWord (unicode : Bool)
  | wordStart (unicode : Bool)
  | wordEnd (unicode : Bool)
  | wordStartHalf (unicode : Bool)
  | wordEndHalf (unicode : Bool)
  deriving DecidableEq, Inhabited, Repr

/-- **The meaning of a pattern.** -/
inductive Expr where
  /-- The empty text. -/
  | empty
  /-- These characters in order; never empty. -/
  | literal (chars : List Char)
  /-- One character of the set; `bytes` marks a set of the ASCII mode. -/
  | chars (set : CharSet) (bytes : Bool)
  /-- A zero-width test. -/
  | look (test : Look)
  /-- The body, from `min` to `max` times; `greedy` prefers more. -/
  | repeat (min : Nat) (max : Option Nat) (greedy : Bool) (body : Expr)
  /-- A capturing group, with its number and name. -/
  | group (index : Nat) (name : Option String) (body : Expr)
  /-- The items in order. -/
  | seq (items : List Expr)
  /-- One of the items, the first preferred. -/
  | alt (items : List Expr)
  deriving Inhabited, Repr

/-- Whether every member of a set is ASCII. -/
def CharSet.isAscii (s : CharSet) : Bool := s.ranges.all fun r => r.2 ≤ 0x7F

namespace Expr

/-- The expression that matches nothing: the empty set. -/
def fail : Expr := .chars CharSet.empty true

mutual

/-- **Sameness** of two expressions, part by part. -/
def same : Expr → Expr → Bool
  | .empty, .empty => true
  | .literal a, .literal b => a == b
  | .chars s x, .chars t y => s == t && x == y
  | .look a, .look b => a == b
  | .repeat a b g e, .repeat c d h f => a == c && b == d && g == h && same e f
  | .group i n e, .group j m f => i == j && n == m && same e f
  | .seq as, .seq bs => sameAll as bs
  | .alt as, .alt bs => sameAll as bs
  | _, _ => false

/-- Sameness of two lists of expressions. -/
def sameAll : List Expr → List Expr → Bool
  | [], [] => true
  | a :: as, b :: bs => same a b && sameAll as bs
  | _, _ => false

end

mutual

/-- The number of nodes of an expression. -/
def size : Expr → Nat
  | .repeat _ _ _ e => size e + 1
  | .group _ _ e => size e + 1
  | .seq es => sizeAll es + 1
  | .alt es => sizeAll es + 1
  | _ => 1

/-- The number of nodes of a list of expressions. -/
def sizeAll : List Expr → Nat
  | [] => 0
  | e :: es => size e + sizeAll es

end

/-- The least length of a set's members: nothing for the empty set. -/
def setMinLen (s : CharSet) (bytes : Bool) : Option Nat :=
  if bytes then (if s.isEmpty then none else some 1) else s.ranges.head?.map fun r => utf8Length r.1

/-- The greatest length of a set's members: nothing for the empty set. -/
def setMaxLen (s : CharSet) (bytes : Bool) : Option Nat :=
  if bytes then (if s.isEmpty then none else some 1) else s.ranges.getLast?.map fun r => utf8Length r.2

/-- Both lengths present: their combination. -/
def both (f : Nat → Nat → Nat) : Option Nat → Option Nat → Option Nat
  | some a, some b => some (f a b)
  | _, _ => none

mutual

/-- **The least length** of the texts an expression matches. -/
def minLen : Expr → Option Nat
  | .empty | .look _ => some 0
  | .literal cs => some (textBytes cs).length
  | .chars s b => setMinLen s b
  | .repeat lo _ _ e => (minLen e).map (· * lo)
  | .group _ _ e => minLen e
  | .seq es => minLenSum es
  | .alt es => minLenLeast es

/-- The least length of a sequence: the sum. -/
def minLenSum : List Expr → Option Nat
  | [] => some 0
  | e :: es => both (· + ·) (minLen e) (minLenSum es)

/-- The least length of a choice: the least, absent if any is absent. -/
def minLenLeast : List Expr → Option Nat
  | [] => none
  | [e] => minLen e
  | e :: es => both min (minLen e) (minLenLeast es)

end

mutual

/-- **The greatest length** of the texts an expression matches. -/
def maxLen : Expr → Option Nat
  | .empty | .look _ => some 0
  | .literal cs => some (textBytes cs).length
  | .chars s b => setMaxLen s b
  | .repeat _ hi _ e => hi.bind fun h => (maxLen e).map (· * h)
  | .group _ _ e => maxLen e
  | .seq es => maxLenSum es
  | .alt es => maxLenGreatest es

/-- The greatest length of a sequence: the sum. -/
def maxLenSum : List Expr → Option Nat
  | [] => some 0
  | e :: es => both (· + ·) (maxLen e) (maxLenSum es)

/-- The greatest length of a choice: the greatest, absent if any is absent. -/
def maxLenGreatest : List Expr → Option Nat
  | [] => none
  | [e] => maxLen e
  | e :: es => both max (maxLen e) (maxLenGreatest es)

end

/-- Whether an expression matches the empty text only. -/
def isEmptyWidth (e : Expr) : Bool := e.maxLen == some 0

mutual

/-- **Whether every match starts at the start of the text**, as read from
the tests the expression must pass before its first character. -/
def startAnchored : Expr → Bool
  | .look t => t == .start
  | .repeat lo _ _ e => lo > 0 && startAnchored e
  | .group _ _ e => startAnchored e
  | .seq es => seqStartAnchored es
  | .alt es => allStartAnchored es
  | _ => false

/-- A sequence starts anchored when an item does, before any item that can
read a character. -/
def seqStartAnchored : List Expr → Bool
  | [] => false
  | e :: es => startAnchored e || (isEmptyWidth e && seqStartAnchored es)

/-- A choice starts anchored when it has items and all of them do. -/
def allStartAnchored : List Expr → Bool
  | [] => false
  | [e] => startAnchored e
  | e :: es => startAnchored e && allStartAnchored es

end

mutual

/-- **Whether every match ends at the end of the text**, as read from the
tests the expression must pass after its last character. -/
def endAnchored : Expr → Bool
  | .look t => t == .stop
  | .repeat lo _ _ e => lo > 0 && endAnchored e
  | .group _ _ e => endAnchored e
  | .seq es => seqEndAnchored es
  | .alt es => allEndAnchored es
  | _ => false

/-- A sequence ends anchored when an item does, after which no item can
read a character. -/
def seqEndAnchored : List Expr → Bool
  | [] => false
  | e :: es => (endAnchored e && es.all isEmptyWidth) || seqEndAnchored es

/-- A choice ends anchored when it has items and all of them do. -/
def allEndAnchored : List Expr → Bool
  | [] => false
  | [e] => endAnchored e
  | e :: es => endAnchored e && allEndAnchored es

end

/-- **The expression of a set**: nothing for the empty set, the character
itself for a set of one. -/
def ofSet (s : CharSet) (bytes : Bool) : Expr :=
  match s.ranges with
  | [] => fail
  | [(a, b)] => if a = b then .literal [Char.ofNat a] else .chars s bytes
  | _ => .chars s bytes

/-- Pending literal characters, as an item before `out` (kept in reverse). -/
def flushLiteral (out : List Expr) (lit : List Char) : List Expr :=
  if lit.isEmpty then out else .literal lit :: out

/-- Adds an item of a nested sequence: literals are merged. -/
def seqInner (acc : List Expr × List Char) : Expr → List Expr × List Char
  | .literal cs => (acc.1, acc.2 ++ cs)
  | e => (e :: flushLiteral acc.1 acc.2, [])

/-- Adds an item: literals are merged, sequences opened, empty items dropped. -/
def seqStep (acc : List Expr × List Char) : Expr → List Expr × List Char
  | .literal cs => (acc.1, acc.2 ++ cs)
  | .seq items => items.foldl seqInner acc
  | .empty => acc
  | e => (e :: flushLiteral acc.1 acc.2, [])

/-- **A sequence**, simplified: nested sequences opened, empty items
dropped, adjacent literals merged; no item is the empty expression, one
item is itself. -/
def mkSeq (items : List Expr) : Expr :=
  let (out, lit) := items.foldl seqStep ([], [])
  match (flushLiteral out lit).reverse with
  | [] => .empty
  | [e] => e
  | es => .seq es

/-- The items of a choice with nested choices opened. -/
def flattenAlt (items : List Expr) : List Expr :=
  items.flatMap fun e => match e with
    | .alt es => es
    | e => [e]

/-- The character of a literal of one character. -/
def singleChar? : Expr → Option Char
  | .literal [c] => some c
  | _ => none

/-- The set of a set expression; a set of the ASCII mode only if it is ASCII. -/
def set? : Expr → Option CharSet
  | .chars s b => if b && !s.isAscii then none else some s
  | _ => none

/-- The items of a sequence. -/
def seqItems? : Expr → Option (List Expr)
  | .seq es => some es
  | _ => none

/-- The longest common beginning of two lists of expressions. -/
def commonPrefix : List Expr → List Expr → List Expr
  | x :: xs, y :: ys => if same x y then x :: commonPrefix xs ys else []
  | _, _ => []

/-- A choice with `fuel` bounding how often a common beginning is taken out;
each time takes at least one item from every alternative. -/
def mkAltFuel : Nat → List Expr → Expr
  | fuel, items =>
    let flat := flattenAlt items
    match flat with
    | [] => fail
    | [e] => e
    | _ =>
      match flat.mapM singleChar? with
      | some cs => ofSet (CharSet.ofRanges (cs.map fun c => (c.toNat, c.toNat))) false
      | none =>
        match flat.mapM set? with
        | some sets => ofSet (sets.foldl CharSet.union CharSet.empty) false
        | none =>
          match fuel, flat.mapM seqItems? with
          | fuel + 1, some (first :: rest) =>
            let pre := rest.foldl commonPrefix first
            if pre.isEmpty then .alt flat
            else
              mkSeq (pre ++ [mkAltFuel fuel ((first :: rest).map fun xs => mkSeq (xs.drop pre.length))])
          | _, _ => .alt flat

/-- **A choice**, simplified: nested choices opened; single characters or
sets joined into one set; a common beginning of sequences taken out. -/
def mkAlt (items : List Expr) : Expr := mkAltFuel (sizeAll items) items

/-- **A repetition**, simplified: the body of empty width at most once,
`{0}` empty, `{1}` the body. -/
def mkRepeat (min : Nat) (max : Option Nat) (greedy : Bool) (body : Expr) : Expr :=
  let (min, max) :=
    if body.maxLen == some 0 then (Nat.min min 1, some ((max.map (Nat.min · 1)).getD 1))
    else (min, max)
  if min = 0 ∧ max = some 0 then .empty
  else if min = 1 ∧ max = some 1 then body
  else .repeat min max greedy body

end Expr

end Pattern
end Questionnaire
