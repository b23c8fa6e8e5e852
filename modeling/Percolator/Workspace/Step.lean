import Percolator.Workspace.Basic
import Percolator.Index

/-!
# Steps of a workspace

The things that a user of a workspace may do, one at a time. A step that is refused or that faults
keeps the changes made before.
-/

namespace Percolator

/-- What a step answers. -/
inductive Answer where
  | nothing
  | number (n : Nat)
  | verdict (verdict : Option Bool)
  | truth (value : Bool)

/-- A step for a workspace with any kind of dispatchers. -/
inductive Step (φ : Type) where
  | compile (filter : Expr)
  | drop (tree : Nat)
  | newDispatcher
  | dropDispatcher (dispatcher : Nat)
  /-- Subscribe one leaf, or all of them. -/
  | subscribe (tree : Nat) (leaf : Option Nat) (filter : φ) (dispatcher : Nat)
  /-- Unsubscribe one leaf, or all of them. -/
  | unsubscribe (tree : Nat) (leaf : Option Nat)
  /-- Start an evaluation, with a session that suits a dispatcher or with an empty one. -/
  | begin (tree : Nat) (dispatcher : Option Nat)
  | report (attempt leaf : Nat) (result : Bool)
  /-- Report a leaf of a given tree, which may be another than the one evaluated. -/
  | reportLeaf (attempt tree leaf : Nat) (result : Bool)
  | isDecided (attempt tree leaf : Nat)
  | suspendLeaf (attempt tree leaf : Nat)
  | reset (attempt : Nat)
  | clearSession (attempt : Nat)

/-- A step for a workspace whose dispatchers are predicate indexes. -/
inductive IndexStep (φ : Type) where
  | basic (step : Step φ)
  | purge (dispatcher : Nat)
  /-- Dispatch a value on a path, or on a name for one. -/
  | dispatch (attempt : Nat) (filter : φ) (path : String ⊕ Path) (value : Option Value)
    (dispatcher : Nat)
  | suspendKey (attempt key : Nat)

namespace Workspace

variable {δ φ σ : Type}

/-- A workspace after a step, with the answer or the reason for refusing one. -/
abbrev Outcome (δ σ : Type) : Type := Workspace δ σ × Except Failure Answer

/-- The leaf of a tree with a number. -/
def findLeaf (planted : Planted) (id : Nat) : Except Failure (Node × Leaf) :=
  match planted.tree.nodes[id]? with
  | none => .error (.fault (.outOfBounds planted.tree.size id))
  | some node =>
    match node.leaf? with
    | none => .error .missing
    | some leaf => .ok (node, leaf)

/-- Do something with the tree that has a number. -/
def withTree (w : Workspace δ σ) (tree : Nat) (f : Planted → Outcome δ σ) : Outcome δ σ :=
  match w.planted? tree with
  | none => (w, .error .missing)
  | some planted => f planted

/-- Do something with the leaf that has a number in a tree. -/
def withLeaf (w : Workspace δ σ) (tree leaf : Nat) (f : Node → Leaf → Outcome δ σ) : Outcome δ σ :=
  w.withTree tree fun planted =>
    match findLeaf planted leaf with
    | .error e => (w, .error e)
    | .ok (node, found) => f node found

/-- Do something with the evaluation that has a number. -/
def withAttempt (w : Workspace δ σ) (attempt : Nat) (f : Attempt σ → Outcome δ σ) : Outcome δ σ :=
  match w.attempt? attempt with
  | none => (w, .error .missing)
  | some found => f found

/-- Do something with the dispatcher that has a number. -/
def withDispatcher (w : Workspace δ σ) (dispatcher : Nat) (f : δ → Outcome δ σ) : Outcome δ σ :=
  match w.dispatcher? dispatcher with
  | none => (w, .error .missing)
  | some found => f found

/-- Keep the state that a report left behind, and answer its verdict. -/
def record (w : Workspace δ σ) (number : Nat) (attempt : Attempt σ) (reported : Reported σ) :
    Outcome δ σ :=
  (w.setAttempt number { attempt with context := reported.1 },
    match reported.2 with
    | .error fault => .error (.fault fault)
    | .ok verdict => .ok (.verdict verdict))

section Step

variable [Dispatcher δ φ σ] [Session σ]

/-- Report the result of a leaf of the tree that is evaluated. -/
def report (w : Workspace δ σ) (number leaf : Nat) (result : Bool) : Outcome δ σ :=
  w.withAttempt number fun attempt =>
    w.withTree attempt.tree fun planted =>
      w.record number attempt
        (planted.tree.report (w.suspend attempt.tree) leaf result attempt.context)

/-- Report the result of a leaf of a given tree. -/
def reportLeaf (w : Workspace δ σ) (number tree leaf : Nat) (result : Bool) : Outcome δ σ :=
  w.withAttempt number fun attempt =>
    w.withLeaf tree leaf fun _ found =>
      if attempt.tree = tree then w.report number leaf result
      else (w, .error (.fault (.foreignReport found.id)))

/-- Whether a leaf of any tree counts as decided in an evaluation. -/
def isDecided (w : Workspace δ σ) (number tree leaf : Nat) : Outcome δ σ :=
  w.withAttempt number fun attempt =>
    w.withLeaf tree leaf fun _ found =>
      let counters := attempt.context.counters
      if found.id < counters.size then (w, .ok (.truth (attempt.context.isDecidedAt found.id)))
      else (w, .error (.fault (.outOfBounds counters.size found.id)))

/-- Change the session of an evaluation. -/
def changeSession (w : Workspace δ σ) (number : Nat) (change : σ → σ) : Outcome δ σ :=
  w.withAttempt number fun attempt =>
    let context := { attempt.context with session := change attempt.context.session }
    (w.setAttempt number { attempt with context }, .ok .nothing)

/-- Do a step. Names of paths are resolved by `resolve`, and new dispatchers are like
`dispatcher`. -/
def step (resolve : String → Option Path) (dispatcher : δ) (w : Workspace δ σ) :
    Step φ → Outcome δ σ
  | .compile filter =>
    match filter.compile resolve with
    | .error e => (w, .error (.compile e))
    | .ok tree =>
      let (w, number) := w.plant tree
      (w, .ok (.number number))
  | .drop tree => w.withTree tree fun planted => (w.drop tree planted.tree.leafIds, .ok .nothing)
  | .newDispatcher =>
    let (w, number) := w.addDispatcher dispatcher
    (w, .ok (.number number))
  | .dropDispatcher number =>
    w.withDispatcher number fun _ => (w.dropDispatcher number, .ok .nothing)
  | .subscribe tree leaf filter number =>
    w.withDispatcher number fun _ => w.withTree tree fun planted =>
      let (w, result) := match leaf with
        | none => w.subscribeAll number filter tree planted.tree.leafIds
        | some leaf =>
          match findLeaf planted leaf with
          | .error e => (w, .error e)
          | .ok _ => w.subscribe number filter tree leaf
      (w, result.map fun _ => .nothing)
  | .unsubscribe tree none =>
    w.withTree tree fun planted => (w.unsubscribeAll tree planted.tree.leafIds, .ok .nothing)
  | .unsubscribe tree (some leaf) =>
    w.withLeaf tree leaf fun _ _ => (w.unsubscribe tree leaf, .ok .nothing)
  | .begin tree none => w.withTree tree fun planted =>
    let (w, number) := w.begin tree planted.tree Session.empty
    (w, .ok (.number number))
  | .begin tree (some number) =>
    w.withTree tree fun planted => w.withDispatcher number fun found =>
      let (w, number) := w.begin tree planted.tree (Dispatcher.session found)
      (w, .ok (.number number))
  | .report number leaf result => w.report number leaf result
  | .reportLeaf number tree leaf result => w.reportLeaf number tree leaf result
  | .isDecided number tree leaf => w.isDecided number tree leaf
  | .suspendLeaf number tree leaf =>
    w.withLeaf tree leaf fun _ _ => w.changeSession number (w.suspend tree leaf)
  | .reset number =>
    w.withAttempt number fun attempt => w.withTree attempt.tree fun planted =>
      (w.setAttempt number { attempt with context := attempt.context.reset planted.tree },
        .ok .nothing)
  | .clearSession number => w.changeSession number Session.clear

end Step

section Index

variable [BEq φ]

/-- Hand a value to the subscriptions of a filter at a path. -/
def dispatch (w : Workspace (PredicateIndex φ) MatchSession) (number : Nat) (filter : φ)
    (path : Path) (value : Option Value) (dispatcher : Nat) :
    Outcome (PredicateIndex φ) MatchSession :=
  w.withAttempt number fun attempt =>
    w.withTree attempt.tree fun planted => w.withDispatcher dispatcher fun index =>
      w.record number attempt
        (index.dispatch attempt.tree planted.tree (w.suspend attempt.tree) filter path value
          attempt.context)

/-- Do a step with predicate indexes. -/
def indexStep (resolve : String → Option Path) (w : Workspace (PredicateIndex φ) MatchSession) :
    IndexStep φ → Outcome (PredicateIndex φ) MatchSession
  | .basic step => w.step resolve .empty step
  | .purge number =>
    w.withDispatcher number fun index => (w.setDispatcher number index.purge, .ok .nothing)
  | .dispatch number filter (.inr path) value dispatcher =>
    w.dispatch number filter path value dispatcher
  | .dispatch number filter (.inl name) value dispatcher =>
    match resolve name with
    | none => (w, .error (.unknownPath name))
    | some path => w.dispatch number filter path value dispatcher
  | .suspendKey number key => w.changeSession number (·.suspend key)

end Index

end Workspace

end Percolator
