import Percolator.Dispatcher
import Percolator.Schema
import Percolator.Tree.Compile

/-!
# Workspaces

A workspace holds trees, dispatchers and evaluations, each numbered in the order of creation. Leaves
are subscribed to dispatchers; every leaf has room for one subscription. Dropping a tree drops its
evaluations and cancels its subscriptions. Dropping a dispatcher leaves its subscriptions behind:
their leaves still count as subscribed, but suspending or cancelling has no effect any more.
-/

namespace Percolator

/-- The subscription of a leaf. -/
structure Handle where
  /-- The number of the dispatcher. -/
  dispatcher : Nat
  /-- The key of the subscription. -/
  key : Nat
  deriving DecidableEq

/-- A tree in a workspace. -/
structure Planted where
  tree : Tree
  /-- The subscription of every leaf, by the number of the leaf. -/
  handles : Array (Option Handle)

/-- Whether each leaf of a tree is subscribed, in order. -/
def Planted.subscribed (planted : Planted) : List Bool :=
  planted.tree.leafIds.map fun leaf => planted.handles[leaf]?.join.isSome

/-- An evaluation in a workspace. -/
structure Attempt (σ : Type) where
  /-- The number of the tree evaluated. -/
  tree : Nat
  context : Context σ

/-- Why a step is refused. -/
inductive Failure where
  | compile (error : CompileError)
  | fault (fault : Fault)
  | unknownPath (name : String)
  /-- The step refers to something that is not there. -/
  | missing

/-- The message for the reader of a failure. -/
def Failure.message : Failure → String
  | compile error => error.message
  | fault f => f.message
  | unknownPath name => name
  | missing => "no such tree, leaf, context or index"

/-- Trees, evaluations and dispatchers by number; what was dropped leaves its number unused. -/
structure Workspace (δ σ : Type) where
  trees : Array (Option Planted)
  attempts : Array (Option (Attempt σ))
  dispatchers : Array (Option δ)

namespace Workspace

variable {δ φ σ : Type}

/-- A workspace with one dispatcher. -/
def new (dispatcher : δ) : Workspace δ σ := ⟨#[], #[], #[some dispatcher]⟩

/-- The tree with a number. -/
def planted? (w : Workspace δ σ) (tree : Nat) : Option Planted := w.trees[tree]?.join

/-- The evaluation with a number. -/
def attempt? (w : Workspace δ σ) (attempt : Nat) : Option (Attempt σ) := w.attempts[attempt]?.join

/-- The dispatcher with a number. -/
def dispatcher? (w : Workspace δ σ) (dispatcher : Nat) : Option δ := w.dispatchers[dispatcher]?.join

/-- Replace the dispatcher with a number. -/
def setDispatcher (w : Workspace δ σ) (number : Nat) (dispatcher : δ) : Workspace δ σ :=
  { w with dispatchers := w.dispatchers.setIfInBounds number (some dispatcher) }

/-- Replace the evaluation with a number. -/
def setAttempt (w : Workspace δ σ) (number : Nat) (attempt : Attempt σ) : Workspace δ σ :=
  { w with attempts := w.attempts.setIfInBounds number (some attempt) }

/-- The subscription of a leaf. -/
def handle? (w : Workspace δ σ) (tree leaf : Nat) : Option Handle :=
  (w.planted? tree).bind fun planted => planted.handles[leaf]?.join

/-- Set the subscription of a leaf. -/
def setHandle (w : Workspace δ σ) (tree leaf : Nat) (handle : Option Handle) : Workspace δ σ :=
  { w with
    trees := w.trees.modify tree fun slot => slot.map fun planted =>
      { planted with handles := planted.handles.setIfInBounds leaf handle } }

/-- Add a tree without subscriptions. -/
def plant (w : Workspace δ σ) (tree : Tree) : Workspace δ σ × Nat :=
  ({ w with trees := w.trees.push (some ⟨tree, Array.replicate tree.size none⟩) }, w.trees.size)

/-- Add a dispatcher. -/
def addDispatcher (w : Workspace δ σ) (dispatcher : δ) : Workspace δ σ × Nat :=
  ({ w with dispatchers := w.dispatchers.push (some dispatcher) }, w.dispatchers.size)

/-- Drop a dispatcher. -/
def dropDispatcher (w : Workspace δ σ) (number : Nat) : Workspace δ σ :=
  { w with dispatchers := w.dispatchers.setIfInBounds number none }

/-- Start an evaluation of a tree. -/
def begin (w : Workspace δ σ) (number : Nat) (tree : Tree) (session : σ) : Workspace δ σ × Nat :=
  ({ w with attempts := w.attempts.push (some ⟨number, .new tree session⟩) }, w.attempts.size)

section Subscriptions

variable [Dispatcher δ φ σ]

/-- Suspend the subscription of a leaf in a session, if the leaf has one and its dispatcher is still
there. -/
def suspend (w : Workspace δ σ) (tree leaf : Nat) (session : σ) : σ :=
  match w.handle? tree leaf with
  | none => session
  | some handle =>
    match w.dispatcher? handle.dispatcher with
    | none => session
    | some dispatcher => Dispatcher.suspend dispatcher handle.key session

/-- Cancel a subscription, if its dispatcher is still there. -/
def cancel (w : Workspace δ σ) (handle : Handle) : Workspace δ σ :=
  match w.dispatcher? handle.dispatcher with
  | none => w
  | some dispatcher => w.setDispatcher handle.dispatcher (Dispatcher.cancel dispatcher handle.key)

/-- Give up the subscription of a leaf, if it has one. -/
def unsubscribe (w : Workspace δ σ) (tree leaf : Nat) : Workspace δ σ :=
  match w.handle? tree leaf with
  | none => w
  | some handle => (w.setHandle tree leaf none).cancel handle

/-- Subscribe a leaf to a dispatcher. A leaf that is subscribed already cannot be subscribed. -/
def subscribe (w : Workspace δ σ) (number : Nat) (filter : φ) (tree id : Nat) :
    Workspace δ σ × Except Failure Unit :=
  match w.dispatcher? number, (w.planted? tree).bind fun planted => planted.tree.leaf? id with
  | some dispatcher, some leaf =>
    if (w.handle? tree id).isSome then (w, .error (.fault (.alreadySubscribed leaf.id)))
    else
      let (dispatcher, key) := Dispatcher.subscribe dispatcher ⟨filter, tree, leaf.id, leaf.path⟩
      ((w.setDispatcher number dispatcher).setHandle tree id (some ⟨number, key⟩), .ok ())
  | _, _ => (w, .error .missing)

/-- Subscribe leaves one after the other, up to the first that cannot be subscribed. -/
def subscribeAll (w : Workspace δ σ) (number : Nat) (filter : φ) (tree : Nat) :
    List Nat → Workspace δ σ × Except Failure Unit
  | [] => (w, .ok ())
  | leaf :: leaves =>
    match w.subscribe number filter tree leaf with
    | (w, .ok ()) => w.subscribeAll number filter tree leaves
    | refused => refused

/-- Give up the subscriptions of leaves. -/
def unsubscribeAll (w : Workspace δ σ) (tree : Nat) (leaves : List Nat) : Workspace δ σ :=
  leaves.foldl (fun w leaf => w.unsubscribe tree leaf) w

/-- Drop a tree with its evaluations and subscriptions. -/
def drop (w : Workspace δ σ) (tree : Nat) (leaves : List Nat) : Workspace δ σ :=
  let w := w.unsubscribeAll tree leaves
  { w with
    trees := w.trees.setIfInBounds tree none
    attempts := w.attempts.map fun slot => slot.filter fun attempt => attempt.tree != tree }

end Subscriptions

end Workspace

end Percolator
