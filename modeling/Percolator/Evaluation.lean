import Percolator.Tree.Basic

/-!
# Incremental evaluation

A filter is evaluated for one instance by reporting the results of its leaves, one at a time and in
any order. A decided part counts down the operator above it, or decides it at once if its value
absorbs the others; a decided operator is a decided part in turn. When a node is decided, the leaves
below it that still wait are forced to its value and suspended, since their values no longer matter.
The verdict of the whole filter is known as soon as the root is decided.

Reporting into what is already decided is a fault. A report that faults keeps the changes that it
made before.
-/

namespace Percolator

/-- A violated contract. -/
inductive Fault where
  /-- A number beyond the nodes of a tree, or beyond the counters of an evaluation. -/
  | outOfBounds (length index : Nat)
  | notLeaf (id : Nat)
  | alreadyDecided (id : Nat)
  /-- A report although the root is decided. -/
  | evaluationDecided (id : Nat)
  /-- A report into an evaluation of another tree. -/
  | foreignReport (id : Nat)
  | alreadySubscribed (id : Nat)
  /-- A value dispatched into an evaluation of another tree than the one subscribed. -/
  | foreignDispatch (key : Nat)
  /-- A key that no subscription has. -/
  | invalidKey
  deriving DecidableEq

namespace Fault

/-- The message for the reader of a fault. -/
def message : Fault → String
  | outOfBounds length index =>
    "index out of bounds: the len is " ++ toString length ++ " but the index is " ++ toString index
  | notLeaf id =>
    "internal error: entered unreachable code: node " ++ toString id
      ++ " is not a predicate; this is a bug"
  | alreadyDecided id => "node " ++ toString id ++ " has already been decided; this is a bug"
  | evaluationDecided id =>
    "predicate node " ++ toString id
      ++ " reported after the evaluation was decided; this is a bug"
  | foreignReport id =>
    "predicate node " ++ toString id
      ++ " reported into the match attempt of another tree; this is a bug"
  | alreadySubscribed id =>
    "predicate node " ++ toString id ++ " is already subscribed; this is a bug"
  | foreignDispatch key =>
    "subscription " ++ toString key
      ++ " dispatched into the match attempt of another tree; this is a bug"
  | invalidKey => "invalid key"

end Fault

/-- The state of an evaluation: the counters of the nodes, and a session that remembers which leaves
are suspended. -/
structure Context (σ : Type) where
  counters : Array Int
  session : σ

namespace Context

variable {σ : Type}

/-- An evaluation of a tree before any report. -/
def new (tree : Tree) (session : σ) : Context σ := ⟨tree.initialCounters, session⟩

/-- The counter of a node. -/
def counter (context : Context σ) (id : Nat) : Int := context.counters[id]?.getD 0

/-- Set the counter of a node. -/
def setCounter (context : Context σ) (id : Nat) (counter : Int) : Context σ :=
  { context with counters := context.counters.setIfInBounds id counter }

/-- Setting a counter sets this one and no other. -/
theorem counter_setCounter (context : Context σ) (id other : Nat) (counter : Int)
    (h : id < context.counters.size) :
    (context.setCounter id counter).counter other
      = if other = id then counter else context.counter other := by
  unfold setCounter Context.counter
  by_cases hne : other = id
  · subst hne
    simp [h]
  · simp [hne, Ne.symm hne]

/-- Mark a node as decided. -/
def mark (context : Context σ) (id : Nat) (value : Bool) : Context σ :=
  context.setCounter id (decidedCounter value)

/-- Whether a node is decided. -/
def isDecidedAt (context : Context σ) (id : Nat) : Bool := context.counter id ≤ 0

/-- Whether the root is decided. -/
def isDecided (context : Context σ) : Bool := context.isDecidedAt 0

/-- The value of the root, if it is decided. -/
def verdict (context : Context σ) : Option Bool :=
  if context.isDecided then some (context.counter 0 = 0) else none

/-- Whether the instance matches. It does not as long as the root is undecided. -/
def isMatching (context : Context σ) : Bool := context.verdict.getD false

/-- Forget all reports, but not the session. -/
def reset (context : Context σ) (tree : Tree) : Context σ :=
  { context with counters := tree.initialCounters }

end Context

/-- The result of a report: the verdict if the report decided the root, or a fault; and the state of
the evaluation after it. -/
abbrev Reported (σ : Type) : Type := Context σ × Except Fault (Option Bool)

namespace Tree

variable {σ : Type}

/-- Suspend the subscription of a node, if the node is a leaf. -/
def suspendLeaf (tree : Tree) (suspend : Nat → σ → σ) (context : Context σ) (id : Nat) :
    Context σ :=
  if (tree.leaf? id).isSome then { context with session := suspend id context.session } else context

/-- Force a node to a value if its counter is one. -/
def force (tree : Tree) (suspend : Nat → σ → σ) (value : Bool) (context : Context σ) (id : Nat) :
    Context σ :=
  if context.counter id = 1 then tree.suspendLeaf suspend (context.mark id value) id else context

/-- Force the nodes in the span of a node, and mark the node as decided. -/
def sweep (tree : Tree) (suspend : Nat → σ → σ) (id : Nat) (value : Bool) (context : Context σ) :
    Context σ :=
  match tree.nodes[id]? with
  | none => context
  | some node => (node.span.foldl (tree.force suspend value) context).mark id value

/-- The operator at a node. -/
def connective? (tree : Tree) (id : Nat) : Option Connective :=
  match tree.nodes[id]?.map Node.kind with
  | some (.join connective _) => some connective
  | _ => none

/-- Hand the value of a decided node to the operators above it, nearest first. An operator that
takes the value without being decided keeps it to itself. -/
def climb (tree : Tree) (suspend : Nat → σ → σ) (value : Bool) :
    (child : Nat) → (above : List Nat) → Context σ → Reported σ
  | _, [], context => (context, .ok (some value))
  | child, id :: above, context =>
    if context.isDecidedAt id || context.isDecided then (context, .error (.alreadyDecided id))
    else if (tree.connective? id).any fun connective => connective.absorbing = value then
      tree.climb suspend value id above (tree.sweep suspend id value context)
    else
      let context := context.setCounter id (context.counter id - 1)
      if context.counter id = 0 then
        tree.climb suspend value id above (tree.sweep suspend id value context)
      else (tree.sweep suspend child value context, .ok none)

/-- Report the result of the predicate of a leaf. The only node of a tree is suspended by its own
report. -/
def reportLeaf (tree : Tree) (suspend : Nat → σ → σ) (node : Node) (leaf : Leaf) (result : Bool)
    (context : Context σ) : Reported σ :=
  if context.isDecided then (context, .error (.evaluationDecided node.start))
  else
    let value := result != leaf.negated
    let context := context.mark node.start value
    match node.above with
    | [] => (tree.suspendLeaf suspend context node.start, .ok (some value))
    | above => tree.climb suspend value node.start above context

/-- Report the result of the predicate of the leaf at a node. A leaf that is not at the node of its own
number is taken for one of another tree. -/
def report (tree : Tree) (suspend : Nat → σ → σ) (id : Nat) (result : Bool) (context : Context σ) :
    Reported σ :=
  match tree.nodes[id]? with
  | none => (context, .error (.outOfBounds tree.size id))
  | some node =>
    match node.kind with
    | .join .. => (context, .error (.notLeaf id))
    | .leaf leaf =>
      if leaf.id = id then tree.reportLeaf suspend node leaf result context
      else (context, .error (.foreignReport leaf.id))

end Tree

end Percolator
