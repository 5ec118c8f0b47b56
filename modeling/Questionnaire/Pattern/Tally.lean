/-!
# Pattern — counting the memory of an automaton

A compiled pattern may take at most `sizeLimit` bytes while its automaton
is built. The construction is replayed here only to count: every state
takes `stateBytes`, a state reading byte ranges `transitionBytes` more per
range, and a fork `alternativeBytes` per alternative, including those
added later when a fork is linked onward. Linking any other state costs
nothing, so only which states are forks is remembered.

The count only grows, so the construction stops at the first step that
passes the limit: the pattern is then too big, whatever would follow.

**Main definitions.** `sizeLimit`, `Tally`, `Counting`, `Counting.add`,
`Counting.link`.
-/

namespace Questionnaire
namespace Pattern

/-- The size limit of a compiled pattern, in bytes. -/
def sizeLimit : Nat := 10 * 1024 * 1024

/-- The memory of one state. -/
def stateBytes : Nat := 32

/-- The memory of one byte-range transition. -/
def transitionBytes : Nat := 8

/-- The memory of one alternative of a fork. -/
def alternativeBytes : Nat := 4

/-- **The count of a construction**: for each state, whether it is a fork,
and the bytes of transitions and alternatives. -/
structure Tally where
  forks : Array Bool := #[]
  extra : Nat := 0
  deriving Inhabited

/-- The memory counted. -/
def Tally.memory (t : Tally) : Nat := t.forks.size * stateBytes + t.extra

/-- **Counting a construction**, stopped once past the limit. -/
abbrev Counting := StateT Tally (Except Unit)

namespace Counting

/-- Stops if the memory is past the limit. -/
def check : Counting Unit := do
  if (← get).memory > sizeLimit then throw ()

/-- **Adds a state**, a fork or not, with `extra` bytes; its number. -/
def add (fork : Bool) (extra : Nat) : Counting Nat := do
  let id ← modifyGet fun t => (t.forks.size, { t with forks := t.forks.push fork, extra := t.extra + extra })
  check
  pure id

/-- A state with one way on: empty, a byte range, a test, a group bound or the end. -/
def plain : Counting Nat := add false 0

/-- A state reading one of `n` byte ranges. -/
def sparse (n : Nat) : Counting Nat := add false (n * transitionBytes)

/-- A fork with no alternatives yet. -/
def fork : Counting Nat := add true 0

/-- A fork with `n` alternatives. -/
def forkOf (n : Nat) : Counting Nat := add true (n * alternativeBytes)

/-- **Links a state onward**: a fork gains an alternative. -/
def link (source : Nat) : Counting Unit := do
  if (← get).forks[source]?.getD false then
    modify fun t => { t with extra := t.extra + alternativeBytes }
    check

/-- Whether a construction stays within the limit. -/
def fits (c : Counting Unit) : Bool :=
  match c.run {} with
  | .ok _ => true
  | .error _ => false

end Counting

end Pattern
end Questionnaire
