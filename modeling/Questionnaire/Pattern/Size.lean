import Std.Data.HashMap
import Questionnaire.Pattern.Expr
import Questionnaire.Pattern.Tally
import Questionnaire.Pattern.Trie

/-!
# Pattern — compiled size

A pattern is compiled into two byte automata, one reading forwards with a
pair of states around every capturing group, one reading backwards with
none, and each must stay within the size limit while it is built. This
module replays both constructions and counts their memory (`Tally`).

* A literal is a state per byte; a test or the empty expression a state.
* A set of ASCII characters (or of bytes) is one state reading its ranges,
  and an end state. A larger set is split into UTF-8 sequences:
  - forwards, the sequences, which come sorted, are merged into a tree
    from the front, and equal subtrees are shared as they are finished,
    through a table of 10000 slots keyed by the hash of their transitions;
  - backwards, each sequence is a chain from its last byte, and equal
    tails are shared through a table of 1000 slots keyed by the hash of
    the state they lead to and the byte range.
  A slot holds the last entry put there, so a shared subtree is found only
  if no other has taken its slot since; the tables start empty for every set.
* A choice of two or more literals is a trie (`LiteralTrie`); any other
  choice is a fork to each alternative and a common end.
* `e?` is a fork and an end; `e*` a fork looping through `e` (or, when `e`
  can match the empty text, `(e+)?`); `e{n,}` is `n - 1` copies then
  `e+`; `e{n}` is `n` copies; `e{n,m}` is `n` copies then `m - n` optional
  ones, each with a fork to the common end.
* Unless every match is anchored at the side the automaton starts from, it
  starts with a lazy loop over any byte.

**Main definitions.** `Expr.footprint`, `Expr.withinLimit`.
-/

namespace Questionnaire
namespace Pattern

open Counting

/-- The start value of the hash. -/
def hashStart : UInt64 := 14695981039346656037

/-- The multiplier of the hash. -/
def hashPrime : UInt64 := 1099511628211

/-- Mixes a number into a hash. -/
def hashMix (h : UInt64) (n : Nat) : UInt64 := (h ^^^ n.toUInt64) * hashPrime

/-- A transition of the forward set construction: a byte range and its target. -/
abbrev Transition := Nat × Nat × Nat

/-- The slot of a list of transitions in a table of `slots`. -/
def transitionsSlot (slots : Nat) (ts : List Transition) : Nat :=
  (ts.foldl (fun h (a, b, n) => hashMix (hashMix (hashMix h a) b) n) hashStart % slots.toUInt64).toNat

/-- **A pending node** of the forward set construction: the transitions
fixed so far and the range of the last one, whose target is not known yet. -/
structure Pending where
  fixed : List Transition := []
  last : Option (Nat × Nat) := none
  deriving Inhabited

/-- The pending node with its last transition going to `target`. -/
def Pending.close (p : Pending) (target : Nat) : List Transition :=
  match p.last with
  | some (a, b) => p.fixed ++ [(a, b, target)]
  | none => p.fixed

/-- **The state of the forward set construction**: the end state, the
pending path from the root, and the table of finished nodes. -/
structure SetBuilder where
  target : Nat
  path : Array Pending
  table : Std.HashMap Nat (List Transition × Nat) := {}

/-- Building a set forwards. -/
abbrev SetBuilding := StateT SetBuilder Counting

namespace SetBuilder

/-- A node as a state: the shared one if its slot holds it, else a new one. -/
def finish (ts : List Transition) : SetBuilding Nat := do
  let slot := transitionsSlot 10000 ts
  match (← get).table[slot]? with
  | some (key, id) => if key == ts then return id
  | none => pure ()
  let id ← liftM (sparse ts.length)
  modify fun b => { b with table := b.table.insert slot (ts, id) }
  pure id

/-- Finishes the pending nodes below depth `keep`, from the deepest up, and
links the node at `keep` to them. -/
def finishFrom (keep : Nat) : SetBuilding Unit := do
  let rec go : Nat → Nat → SetBuilding Nat
    | 0, next => pure next
    | fuel + 1, next => do
      let b ← get
      if keep + 1 < b.path.size then
        let p := b.path.back?.getD default
        set { b with path := b.path.pop }
        go fuel (← finish (p.close next))
      else pure next
  let next ← go (← get).path.size (← get).target
  modify fun b => { b with path := b.path.modify (b.path.size - 1) fun p =>
    { fixed := p.close next, last := none } }

/-- The depth to which a sequence follows the pending path. -/
def sharedDepth (path : Array Pending) (seq : List (Nat × Nat)) : Nat :=
  ((seq.zip path.toList).takeWhile fun (r, p) => p.last == some r).length

/-- **Adds a sequence**, which comes after every sequence added before. -/
def addSequence (seq : List (Nat × Nat)) : SetBuilding Unit := do
  let depth := sharedDepth (← get).path seq
  finishFrom depth
  match seq.drop depth with
  | [] => pure ()
  | r :: rest =>
    modify fun b =>
      let path := b.path.modify (b.path.size - 1) fun p => { p with last := some r }
      { b with path := rest.foldl (fun acc r => acc.push { last := some r }) path }

end SetBuilder

/-- The UTF-8 sequences of a set, range by range. -/
def setSequences (s : CharSet) : List (List (Nat × Nat)) :=
  s.ranges.flatMap fun r => utf8Sequences r.1 r.2

/-- **A set of code points beyond ASCII, forwards**, from its UTF-8
sequences: its entry and end states. -/
def forwardSet (seqs : List (List (Nat × Nat))) : Counting (Nat × Nat) := do
  let target ← plain
  let run : SetBuilding Nat := do
    for seq in seqs do
      SetBuilder.addSequence seq
    SetBuilder.finishFrom 0
    let root := ((← get).path[0]?.getD default).fixed
    SetBuilder.finish root
  let (start, _) ← run.run { target, path := #[{}] }
  pure (start, target)

/-- The slot of a chain tail in a table of `slots`. -/
def tailSlot (slots : Nat) (next lo hi : Nat) : Nat :=
  (hashMix (hashMix (hashMix hashStart next) lo) hi % slots.toUInt64).toNat

/-- **A set of code points beyond ASCII, backwards**, from its UTF-8
sequences: its entry and end states. -/
def reverseSet (seqs : List (List (Nat × Nat))) : Counting (Nat × Nat) := do
  let entry ← fork
  let done ← plain
  let mut table : Std.HashMap Nat ((Nat × Nat × Nat) × Nat) := {}
  for seq in seqs do
    let mut next := done
    for (lo, hi) in seq do
      let key := (next, lo, hi)
      let slot := tailSlot 1000 next lo hi
      match table[slot]? with
      | some (k, id) =>
        if k == key then
          next := id
          continue
      | none => pure ()
      let id ← plain
      next := id
      table := table.insert slot (key, id)
    link entry
  pure (entry, done)

/-- **How an automaton is built**: reading backwards or not, and the UTF-8
sequences of each set, worked out once for all copies of it. -/
structure Plan where
  reverse : Bool
  sequences : CharSet → List (List (Nat × Nat))

/-- **A set**: one state over its ranges when it is ASCII or of bytes, else
its UTF-8 sequences. -/
def setStates (plan : Plan) (s : CharSet) (bytes : Bool) : Counting (Nat × Nat) := do
  if bytes || s.isAscii then
    let done ← plain
    let entry ← sparse s.ranges.length
    pure (entry, done)
  else if plan.reverse then reverseSet (plan.sequences s)
  else forwardSet (plan.sequences s)

/-- A literal: a state per byte, the first added being the entry (the
first byte forwards, the last backwards). -/
def literalStates (bytes : List Nat) : Counting (Nat × Nat) := do
  match bytes with
  | [] => let i ← plain; pure (i, i)
  | _ :: rest =>
    let first ← plain
    let last ← rest.foldlM (fun _ _ => plain) first
    pure (first, last)

/-- The literal characters of a literal expression. -/
def literalChars? : Expr → Option (List Char)
  | .literal cs => some cs
  | _ => none

mutual

/-- **The states of an expression**: its entry and end states. -/
def Expr.states (plan : Plan) : Expr → Counting (Nat × Nat)
  | .empty => do let i ← plain; pure (i, i)
  | .literal cs => literalStates (textBytes cs)
  | .chars s bytes => setStates plan s bytes
  | .look _ => do let i ← plain; pure (i, i)
  | .repeat lo hi _ e => Expr.repeatStates plan lo hi e
  | .group _ _ e =>
    if plan.reverse then Expr.states plan e
    else do
      let opening ← plain
      let inner ← Expr.states plan e
      let closing ← plain
      link opening
      link inner.2
      pure (opening, closing)
  | .seq es =>
    if plan.reverse then do
      match ← Expr.seqStatesBackward plan es with
      | some r => pure r
      | none => let i ← plain; pure (i, i)
    else do
      match ← Expr.seqStatesForward plan es with
      | some r => pure r
      | none => let i ← plain; pure (i, i)
  | .alt es =>
    match es.mapM literalChars? with
    | some lits =>
      if lits.length ≥ 2 then (LiteralTrie.ofLiterals plan.reverse (lits.map textBytes)).build
      else Expr.altStates plan es
    | none => Expr.altStates plan es
termination_by e => (sizeOf e, 0)

/-- A sequence, first item first. -/
def Expr.seqStatesForward (plan : Plan) : List Expr → Counting (Option (Nat × Nat))
  | [] => pure none
  | e :: es => do
    let here ← Expr.states plan e
    match ← Expr.seqStatesForward plan es with
    | none => pure (some here)
    | some rest =>
      link here.2
      pure (some (here.1, rest.2))
termination_by es => (sizeOf es, 0)

/-- A sequence for an automaton reading backwards, last item first. -/
def Expr.seqStatesBackward (plan : Plan) : List Expr → Counting (Option (Nat × Nat))
  | [] => pure none
  | e :: es => do
    let rest ← Expr.seqStatesBackward plan es
    let here ← Expr.states plan e
    match rest with
    | none => pure (some here)
    | some r =>
      link r.2
      pure (some (r.1, here.2))
termination_by es => (sizeOf es, 0)

/-- A choice: a fork to each alternative, and a common end. -/
def Expr.altStates (plan : Plan) : List Expr → Counting (Nat × Nat)
  | [] => do let i ← plain; pure (i, i)
  | [e] => Expr.states plan e
  | e₁ :: e₂ :: rest => do
    let first ← Expr.states plan e₁
    let second ← Expr.states plan e₂
    let entry ← fork
    let done ← plain
    link entry
    link first.2
    link entry
    link second.2
    Expr.altRest plan entry rest
    pure (entry, done)
termination_by es => (sizeOf es, 0)

/-- The alternatives of a choice after the second. -/
def Expr.altRest (plan : Plan) (entry : Nat) : List Expr → Counting Unit
  | [] => pure ()
  | e :: es => do
    let here ← Expr.states plan e
    link entry
    link here.2
    Expr.altRest plan entry es
termination_by es => (sizeOf es, 0)

/-- `n` copies in a row; an empty state for none. -/
def Expr.copies (plan : Plan) (e : Expr) (n : Nat) : Counting (Nat × Nat) := do
  if n = 0 then
    let i ← plain
    pure (i, i)
  else
    let first ← Expr.states plan e
    let mut last := first.2
    for _ in [1:n] do
      let here ← Expr.states plan e
      link last
      last := here.2
    pure (first.1, last)
termination_by (sizeOf e, 1)

/-- **A repetition** of `e` from `lo` to `hi` times; preferring more or fewer
copies only orders a fork's alternatives. -/
def Expr.repeatStates (plan : Plan) (lo : Nat) (hi : Option Nat) (e : Expr) :
    Counting (Nat × Nat) := do
  match lo, hi with
  | 0, some 1 =>
    let entry ← fork
    let body ← Expr.states plan e
    let done ← plain
    link entry
    link entry
    link body.2
    pure (entry, done)
  | 0, none =>
    if (e.minLen.map (fun n => decide (n > 0))).getD false then
      let entry ← fork
      let body ← Expr.states plan e
      link entry
      link body.2
      pure (entry, entry)
    else
      let body ← Expr.states plan e
      let plus ← fork
      link body.2
      link plus
      let question ← fork
      let done ← plain
      link question
      link question
      link plus
      pure (question, done)
  | 1, none =>
    let body ← Expr.states plan e
    let again ← fork
    link body.2
    link again
    pure (body.1, again)
  | n + 2, none =>
    let front ← Expr.copies plan e (n + 1)
    let last ← Expr.states plan e
    let again ← fork
    link front.2
    link last.2
    link again
    pure (front.1, again)
  | lo, some hi =>
    let front ← Expr.copies plan e lo
    if lo = hi then pure front
    else
      let done ← plain
      let mut last := front.2
      for _ in [lo:hi] do
        let choice ← fork
        let body ← Expr.states plan e
        link last
        link choice
        link choice
        last := body.2
      link last
      pure (front.1, done)
termination_by (sizeOf e, 2)

end

/-- Any number of bytes, preferring fewer: how an unanchored search starts. -/
def anyBytes : Expr := .repeat 0 none false (.chars ⟨[(0, 255)]⟩ true)

/-- **The construction of one automaton** of a pattern: the start, the
pattern (inside group 0 when reading forwards) and the accepting state. -/
def Expr.footprint (plan : Plan) (e : Expr) : Counting Unit := do
  let anchored := if plan.reverse then e.endAnchored else e.startAnchored
  let lead ← if anchored then (do let i ← plain; pure (i, i)) else anyBytes.states plan
  let body ← if plan.reverse then e.states plan else (Expr.group 0 none e).states plan
  let _ ← plain
  link body.2
  link lead.2

mutual

/-- The sets of an expression that are read as UTF-8 sequences. -/
def Expr.wideSets : Expr → List CharSet
  | .chars s bytes => if bytes || s.isAscii then [] else [s]
  | .repeat _ _ _ e => Expr.wideSets e
  | .group _ _ e => Expr.wideSets e
  | .seq es => Expr.wideSetsAll es
  | .alt es => Expr.wideSetsAll es
  | _ => []

/-- The sets of a list of expressions that are read as UTF-8 sequences. -/
def Expr.wideSetsAll : List Expr → List CharSet
  | [] => []
  | e :: es => Expr.wideSets e ++ Expr.wideSetsAll es

end

/-- **Whether a pattern's automata stay within the size limit**, the one
reading forwards and then the one reading backwards. -/
def Expr.withinLimit (e : Expr) : Bool :=
  let table : Std.HashMap CharSet (List (List (Nat × Nat))) :=
    e.wideSets.foldl (fun t s => if t.contains s then t else t.insert s (setSequences s)) {}
  let sequences := fun s => match table[s]? with
    | some q => q
    | none => setSequences s
  fits (e.footprint { reverse := false, sequences }) &&
    fits (e.footprint { reverse := true, sequences })

end Pattern
end Questionnaire
