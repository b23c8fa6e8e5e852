import Percolator.Workspace.Step

/-!
# Matching instances

Instances are matched against filters by subscribing every filter to one index and, for each
instance and filter, dispatching the values of the instance until the verdict is known.
-/

namespace Percolator

/-- The attribute values of an instance, in the order in which they are dispatched. -/
abbrev Instance : Type := List (Path × Option Value)

/-- How matching an instance against a filter went. -/
structure MatchReport where
  /-- The verdict, if the values decided it. -/
  verdict : Option Bool
  /-- Whether the instance matches. -/
  isMatching : Bool
  /-- How many values were dispatched. -/
  dispatched : Nat

/-- A workspace with one index, in which filters are known by their place. -/
abbrev FilterIndex : Type := Workspace (PredicateIndex Nat) MatchSession

namespace FilterIndex

/-- Compile filters and subscribe each under its place. The first filter that cannot be compiled is
reported. -/
def ofFilters (resolve : String → Option Path) (filters : List Expr) :
    Except Failure FilterIndex := do
  let trees ← filters.mapM fun filter => (filter.compile resolve).mapError Failure.compile
  trees.foldlM (fun w tree =>
    let (w, place) := Workspace.plant w tree
    match w.subscribeAll 0 place place tree.leafIds with
    | (_, .error e) => .error e
    | (w, .ok ()) => .ok w) (.new .empty)

/-- The number of subscriptions in the index. -/
def subscriptions (w : FilterIndex) : Nat := (w.dispatcher? 0).elim 0 PredicateIndex.size

/-- Dispatch values until the verdict is known. `count` values were dispatched before. -/
def dispatchAll (index : PredicateIndex Nat) (suspend : Nat → MatchSession → MatchSession)
    (filter : Nat) (tree : Tree) :
    Instance → Nat → Context MatchSession → Except Failure (Context MatchSession × Nat)
  | [], count, context => .ok (context, count)
  | (path, value) :: rest, count, context =>
    match index.dispatch filter tree suspend filter path value context with
    | (_, .error fault) => .error (.fault fault)
    | (context, .ok (some _)) => .ok (context, count + 1)
    | (context, .ok none) => dispatchAll index suspend filter tree rest (count + 1) context

/-- Match an instance against the filter at a place. -/
def matchOne (w : FilterIndex) (filter : Nat) (instanceValues : Instance) :
    Except Failure MatchReport :=
  match w.planted? filter, w.dispatcher? 0 with
  | some planted, some index => do
    let (context, dispatched) ← dispatchAll index (w.suspend filter) filter planted.tree
      instanceValues 0 (.new planted.tree index.session)
    return ⟨context.verdict, context.isMatching, dispatched⟩
  | _, _ => .error .missing

/-- Match an instance against all filters. -/
def matchAll (w : FilterIndex) (instanceValues : Instance) : Except Failure (List MatchReport) :=
  (List.range w.trees.size).mapM fun filter => w.matchOne filter instanceValues

end FilterIndex

/-- Find the paths of an instance, some of which are given by name. -/
def Instance.find (resolve : String → Option Path)
    (values : List ((String ⊕ Path) × Option Value)) : Except Failure Instance :=
  values.mapM fun
    | (.inr path, value) => .ok (path, value)
    | (.inl name, value) =>
      match resolve name with
      | none => .error (.unknownPath name)
      | some path => .ok (path, value)

end Percolator
