import Questionnaire.Pattern.Translate

/-!
# Pattern — matching

A pattern's meaning is compiled into a nondeterministic automaton whose
states read one character of a set, fork, test a position, or accept. A
text matches when the automaton, started afresh at every position, reaches
the accepting state: the simulation carries the set of live states across
the text, so it reads each character once and never backtracks.

Repetitions are unrolled: `{n,m}` is `n` copies followed by `m - n`
optional ones, and an unbounded tail is a loop.

**Main definitions.** `Node`, `Automaton`, `Automaton.ofExpr`, `Automaton.search`.
-/

namespace Questionnaire
namespace Pattern

/-- **A state** of the automaton. -/
inductive Node where
  | read (set : CharSet) (next : Nat)
  | fork (a b : Nat)
  | check (test : Look) (next : Nat)
  | skip (next : Nat)
  | accept
  deriving Inhabited

/-- **An automaton**: its states and where it starts. -/
structure Automaton where
  nodes : Array Node
  start : Nat
  deriving Inhabited

/-- Building an automaton: the states so far. -/
abbrev Build := StateM (Array Node)

namespace Build

/-- Adds a state; its index. -/
def add (n : Node) : Build Nat := modifyGet fun s => (s.size, s.push n)

/-- Replaces the state at `i`. -/
def put (i : Nat) (n : Node) : Build Unit := modify fun s => s.set! i n

/-- A literal that continues to `next`: a state per character. -/
def literal (next : Nat) : List Char → Build Nat
  | [] => pure next
  | c :: rest => do add (.read (CharSet.single c.toNat) (← literal next rest))

mutual

/-- **Compiles an expression** that continues to `next`; its entry state. -/
def expr (next : Nat) : Expr → Build Nat
  | .empty => pure next
  | .literal cs => literal next cs
  | .chars s _ => add (.read s next)
  | .look t => add (.check t next)
  | .group _ _ body => expr next body
  | .seq items => seq next items
  | .alt items => alts next items
  | .repeat lo hi _ body => do
    let tail ← match hi with
      | none => loop next body
      | some h => optional next body (h - lo)
    copies tail body lo
termination_by e => (sizeOf e, 0)

/-- A sequence: each item continues to the next. -/
def seq (next : Nat) : List Expr → Build Nat
  | [] => pure next
  | e :: rest => do expr (← seq next rest) e
termination_by items => (sizeOf items, 0)

/-- Alternatives: a fork for every one but the last. -/
def alts (next : Nat) : List Expr → Build Nat
  | [] => pure next
  | [e] => expr next e
  | e :: rest => do
    let a ← expr next e
    let b ← alts next rest
    add (.fork a b)
termination_by items => (sizeOf items, 0)

/-- `n` copies in a row, continuing to `next`. -/
def copies (next : Nat) (body : Expr) : Nat → Build Nat
  | 0 => pure next
  | n + 1 => do copies (← expr next body) body n
termination_by n => (sizeOf body, n + 1)

/-- `n` optional copies in a row, continuing to `next`. -/
def optional (next : Nat) (body : Expr) : Nat → Build Nat
  | 0 => pure next
  | n + 1 => do
    let rest ← optional next body n
    let b ← expr rest body
    add (.fork b next)
termination_by n => (sizeOf body, n + 1)

/-- Any number of copies, continuing to `next`. -/
def loop (next : Nat) (body : Expr) : Build Nat := do
  let f ← add (.fork next next)
  let b ← expr f body
  put f (.fork b next)
  pure f
termination_by (sizeOf body, 1)

end

end Build

namespace Automaton

/-- **The automaton of an expression.** -/
def ofExpr (e : Expr) : Automaton :=
  let (start, nodes) := (do
    let done ← Build.add .accept
    Build.expr done e).run #[]
  ⟨nodes, start⟩

/-- Whether a character is a word character, in Unicode or in ASCII. -/
def isWord (unicode : Bool) (c : Option Char) : Bool :=
  match c with
  | none => false
  | some c => (perlSet .word unicode).mem c.toNat

/-- **Whether a test holds** between the characters `prev` and `next`. -/
def holds (prev next : Option Char) : Look → Bool
  | .start => prev.isNone
  | .stop => next.isNone
  | .startLF => prev.isNone || prev == some '\n'
  | .endLF => next.isNone || next == some '\n'
  | .startCRLF => prev.isNone || prev == some '\n' || (prev == some '\r' && next != some '\n')
  | .endCRLF => next.isNone || next == some '\r' || (next == some '\n' && prev != some '\r')
  | .word u => isWord u prev != isWord u next
  | .notWord u => isWord u prev == isWord u next
  | .wordStart u => !isWord u prev && isWord u next
  | .wordEnd u => isWord u prev && !isWord u next
  | .wordStartHalf u => !isWord u prev
  | .wordEndHalf u => !isWord u next

/-- The states reachable without reading from the pending ones, between
`prev` and `next`; `seen` marks states already reached. Each state is
reached at most once, so the automaton's size bounds the work. -/
def closure (a : Automaton) (prev next : Option Char) :
    List Nat → Array Bool → List Nat → Nat → List Nat × Array Bool
  | _, seen, acc, 0 => (acc, seen)
  | [], seen, acc, _ + 1 => (acc, seen)
  | i :: pending, seen, acc, fuel + 1 =>
    if seen[i]?.getD true then closure a prev next pending seen acc fuel
    else
      let seen := seen.set! i true
      match a.nodes[i]? with
      | some (.fork x y) => closure a prev next (x :: y :: pending) seen acc fuel
      | some (.skip x) => closure a prev next (x :: pending) seen acc fuel
      | some (.check t x) =>
        if holds prev next t then closure a prev next (x :: pending) seen acc fuel
        else closure a prev next pending seen acc fuel
      | _ => closure a prev next pending seen (i :: acc) fuel

/-- Whether any of the states accepts. -/
def accepts (a : Automaton) (states : List Nat) : Bool :=
  states.any fun i => match (a.nodes[i]? : Option Node) with
    | some .accept => true
    | _ => false

/-- The states after reading `c`. -/
def step (a : Automaton) (states : List Nat) (c : Char) : List Nat :=
  states.filterMap fun i => match (a.nodes[i]? : Option Node) with
    | some (.read s next) => if s.mem c.toNat then some next else none
    | _ => none

/-- Runs over the rest of a text, `prev` being the character before it. -/
def run (a : Automaton) (prev : Option Char) : List Char → List Nat → Bool
  | [], live =>
    let (reached, _) := closure a prev none (a.start :: live) (Array.replicate a.nodes.size false) [] (2 * a.nodes.size + 2)
    accepts a reached
  | c :: rest, live =>
    let (reached, _) := closure a prev (some c) (a.start :: live) (Array.replicate a.nodes.size false) [] (2 * a.nodes.size + 2)
    if accepts a reached then true
    else run a (some c) rest (step a reached c)

/-- **Whether the pattern matches somewhere in a text.** -/
def search (a : Automaton) (text : String) : Bool := run a none text.toList []

end Automaton

end Pattern
end Questionnaire
