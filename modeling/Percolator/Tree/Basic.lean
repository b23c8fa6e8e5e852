import Percolator.Predicate
import Percolator.Path

/-!
# Evaluation trees

A compiled filter is a row of nodes in preorder: a node comes first in its own span, which holds it
and all nodes below it. Every node knows the operators above it, nearest first. A filter that is a
constant has no nodes at all.

In an evaluation every node has a counter. A positive counter is the number of the parts of an
operator that are still undecided, or one for a leaf that waits for its value; a decided node has
the counter zero if it holds, and minus one if not.
-/

namespace Percolator

/-- A predicate on the values of an attribute. -/
structure Leaf where
  /-- The number of the node that the leaf is at. -/
  id : Nat
  predicate : Predicate
  /-- Whether the leaf holds when the predicate fails. -/
  negated : Bool
  path : Path

/-- The text of a leaf. -/
def Leaf.render (leaf : Leaf) : String :=
  (if leaf.negated then "NOT " else "") ++ "⟨" ++ leaf.path.render ++ ", " ++ leaf.predicate.render
    ++ "⟩"

/-- What a node does. -/
inductive NodeKind where
  /-- An operator over `arity` nodes. -/
  | join (connective : Connective) (arity : Nat)
  | leaf (leaf : Leaf)

/-- A node of a tree. -/
structure Node where
  /-- The operators above the node, nearest first. -/
  above : List Nat
  /-- The place of the node, which is its number, and where its span starts. -/
  start : Nat
  /-- The place after its span. -/
  stop : Nat
  kind : NodeKind

namespace Node

/-- The operator directly above a node. -/
def parent? (node : Node) : Option Nat := node.above.head?

/-- The leaf at a node. -/
def leaf? (node : Node) : Option Leaf :=
  match node.kind with
  | .leaf leaf => some leaf
  | .join .. => none

/-- The places of a node and of the nodes below it. -/
def span (node : Node) : List Nat := List.range' node.start (node.stop - node.start)

/-- The counter of a node before any value is known. -/
def initialCounter (node : Node) : Int :=
  match node.kind with
  | .leaf _ => 1
  | .join _ arity => arity

/-- The text of a single node. -/
def render (node : Node) : String :=
  match node.kind with
  | .leaf leaf => leaf.render
  | .join connective _ => connective.render

end Node

/-- The counter of a node that was decided. -/
def decidedCounter (value : Bool) : Int := if value then 0 else -1

/-- A compiled filter. -/
inductive Tree where
  | constant (value : Bool)
  | arena (nodes : Array Node)

namespace Tree

/-- The nodes in preorder. -/
def nodes : Tree → Array Node
  | constant _ => #[]
  | arena nodes => nodes

/-- The number of nodes. -/
def size (tree : Tree) : Nat := tree.nodes.size

/-- Whether a tree has no nodes. -/
def isConstant : Tree → Bool
  | constant _ => true
  | arena nodes => nodes.isEmpty

/-- The counters before any value is known. A constant has one counter, which is decided. -/
def initialCounters : Tree → Array Int
  | constant value => #[decidedCounter value]
  | arena nodes => nodes.map Node.initialCounter

/-- The leaf with a number, if the node with it is one. -/
def leaf? (tree : Tree) (id : Nat) : Option Leaf := tree.nodes[id]?.bind Node.leaf?

/-- The numbers of the leaves, in order. -/
def leafIds (tree : Tree) : List Nat := (tree.nodes.toList.filterMap Node.leaf?).map Leaf.id

/-- From a node on, step over spans as long as they start before `stop`. -/
def siblingsFrom (tree : Tree) (stop : Nat) : Nat → Nat → List Nat
  | 0, _ => []
  | fuel + 1, id =>
    if id < stop then
      match tree.nodes[id]? with
      | none => []
      | some node => id :: tree.siblingsFrom stop fuel node.stop
    else []

/-- The numbers of the nodes directly below a node, in order. -/
def children (tree : Tree) (id : Nat) : List Nat :=
  match tree.nodes[id]? with
  | none => []
  | some node => tree.siblingsFrom node.stop (node.stop - id) (id + 1)

end Tree

end Percolator
