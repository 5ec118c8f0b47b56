import Questionnaire.Pattern.Tally

/-!
# Pattern — choices between literals

A choice between literal texts is built as a trie of their bytes (read
from the end for an automaton that reads backwards), and the trie then as
an automaton, depth first.

A trie node keeps its edges in chunks: a literal that ends at a node closes
the node's current chunk, and edges added later go to a new one. Within a
chunk, edges are sorted by byte. The chunks keep the preference of the
choice: a literal ending at a node is preferred to longer ones added after
it, but not to those added before.

A node becomes, per chunk, one state reading the chunk's bytes (each going
to its child, or straight to the end for a leaf); between chunks, the end
itself is an alternative. The node's entry is a fork over its alternatives,
even when there is only one.

**Main definitions.** `LiteralTrie`, `LiteralTrie.ofLiterals`, `LiteralTrie.build`.
-/

namespace Questionnaire
namespace Pattern

/-- **A node of a literal trie**: its edges `(byte, child)` and the bounds
of its closed chunks. -/
structure TrieNode where
  edges : List (Nat × Nat) := []
  chunks : List (Nat × Nat) := []
  deriving Inhabited

namespace TrieNode

/-- Where the open chunk starts. -/
def openStart (n : TrieNode) : Nat := (n.chunks.getLast?.map Prod.snd).getD 0

/-- The edges of the open chunk. -/
def openEdges (n : TrieNode) : List (Nat × Nat) := n.edges.drop n.openStart

/-- The chunks in order, the open one last. -/
def chunkList (n : TrieNode) : List (List (Nat × Nat)) :=
  n.chunks.map (fun (a, b) => (n.edges.drop a).take (b - a)) ++ [n.openEdges]

/-- Closes the open chunk at a literal's end; a node that already ends a
literal and has no edges stays as it is. -/
def markEnd (n : TrieNode) : TrieNode :=
  if !n.chunks.isEmpty && n.edges.isEmpty then n
  else { n with chunks := n.chunks ++ [(n.openStart, n.edges.length)] }

end TrieNode

/-- **A literal trie**: its nodes, the root first. -/
structure LiteralTrie where
  nodes : Array TrieNode := #[{}]
  deriving Inhabited

namespace LiteralTrie

/-- A node by number. -/
def node (t : LiteralTrie) (i : Nat) : TrieNode := t.nodes[i]?.getD {}

/-- Whether a node has no edges. -/
def isLeaf (t : LiteralTrie) (i : Nat) : Bool := (t.node i).edges.isEmpty

/-- Follows the edge of a byte from a node within its open chunk, adding
the edge and a new node if there is none. -/
def step (t : LiteralTrie) (source b : Nat) : LiteralTrie × Nat :=
  let n := t.node source
  match n.openEdges.find? (fun e => e.1 == b) with
  | some e => (t, e.2)
  | none =>
    let child := t.nodes.size
    let pos := n.openStart + (n.openEdges.filter fun e => e.1 < b).length
    let n' := { n with edges := n.edges.take pos ++ [(b, child)] ++ n.edges.drop pos }
    ({ nodes := (t.nodes.set! source n').push {} }, child)

/-- Adds a literal's bytes. -/
def add (t : LiteralTrie) (bytes : List Nat) : LiteralTrie :=
  let (t, last) := bytes.foldl (fun (acc : LiteralTrie × Nat) b => acc.1.step acc.2 b) (t, 0)
  { nodes := t.nodes.set! last (t.node last).markEnd }

/-- **The trie of literals**, each read from its end when `reverse`. -/
def ofLiterals (reverse : Bool) (literals : List (List Nat)) : LiteralTrie :=
  literals.foldl (fun t bs => t.add (if reverse then bs.reverse else bs)) {}

/-- Builds the node `i`, whose matches go to `done`; its entry state.
`fuel` bounds the depth, which the number of nodes does. -/
def buildNode (t : LiteralTrie) (done : Nat) : Nat → Nat → Counting Nat
  | 0, _ => pure done
  | fuel + 1, i => do
    let mut alternatives : Array Nat := #[]
    let mut first := true
    for chunk in (t.node i).chunkList do
      if !first then alternatives := alternatives.push done
      first := false
      let mut targets : Array Nat := #[]
      for (_, child) in chunk do
        if t.isLeaf child then targets := targets.push done
        else targets := targets.push (← buildNode t done fuel child)
      if targets.size == 1 then alternatives := alternatives.push (← Counting.plain)
      else if targets.size > 1 then alternatives := alternatives.push (← Counting.sparse targets.size)
    Counting.forkOf alternatives.size

/-- **Builds the trie**: its entry and end states. -/
def build (t : LiteralTrie) : Counting (Nat × Nat) := do
  let done ← Counting.plain
  let start ← t.buildNode done t.nodes.size 0
  pure (start, done)

end LiteralTrie

end Pattern
end Questionnaire
