import Percolator.Dispatcher
import Percolator.Session

/-!
# Predicate indexes

A predicate index finds the subscriptions to a path, in the order in which they were made, and
evaluates their predicates on the values dispatched. Its subscriptions are held in numbered slots. A
cancelled subscription keeps its slot until it is purged; a new subscription takes the slot freed
last, or else the next unused one.
-/

namespace Percolator

/-- A subscription held by an index. -/
structure Entry (φ : Type) extends Interest φ where
  cancelled : Bool

/-- Subscriptions in slots, and the keys of the subscriptions to each path. -/
structure PredicateIndex (φ : Type) where
  /-- The subscriptions by key. -/
  slots : Array (Option (Entry φ))
  /-- The keys of the free slots, the one freed last first. -/
  free : List Nat
  /-- The keys of the subscriptions to each path that has any, in the order made. -/
  byPath : List (Path × List Nat)

namespace PredicateIndex

variable {φ : Type}

/-- An index without subscriptions. -/
def empty : PredicateIndex φ := ⟨#[], [], []⟩

/-- The number of subscriptions held, cancelled ones included. -/
def size (index : PredicateIndex φ) : Nat := index.slots.countP Option.isSome

/-- Whether no subscription is held. -/
def isEmpty (index : PredicateIndex φ) : Bool := index.size == 0

/-- The subscription with a key. -/
def find? (index : PredicateIndex φ) (key : Nat) : Option (Entry φ) := index.slots[key]?.join

/-- A session with room for the subscriptions. -/
def session (index : PredicateIndex φ) : MatchSession := .withCapacity index.slots.size

/-- The keys of the subscriptions to a path, in the order made. -/
def keysAt (index : PredicateIndex φ) (path : Path) : List Nat :=
  (index.byPath.lookup path).getD []

/-- Add a key at the end of the keys of a path. -/
def addKey (path : Path) (key : Nat) : List (Path × List Nat) → List (Path × List Nat)
  | [] => [(path, [key])]
  | (other, keys) :: rest =>
    if other = path then (other, keys ++ [key]) :: rest else (other, keys) :: addKey path key rest

/-- Remove a key from the keys of a path; a path without keys is forgotten. -/
def removeKey (path : Path) (key : Nat) : List (Path × List Nat) → List (Path × List Nat)
  | [] => []
  | (other, keys) :: rest =>
    if other = path then
      let keys := keys.filter (· != key)
      if keys.isEmpty then rest else (other, keys) :: rest
    else (other, keys) :: removeKey path key rest

/-- Put a subscription into the slot freed last, or else into the next unused one. -/
def insert (index : PredicateIndex φ) (entry : Entry φ) : PredicateIndex φ × Nat :=
  match index.free with
  | key :: free =>
    (⟨index.slots.setIfInBounds key (some entry), free, addKey entry.path key index.byPath⟩, key)
  | [] =>
    let key := index.slots.size
    (⟨index.slots.push (some entry), [], addKey entry.path key index.byPath⟩, key)

/-- Free the slot of a subscription. -/
def remove (index : PredicateIndex φ) (key : Nat) : PredicateIndex φ :=
  match index.find? key with
  | none => index
  | some entry =>
    ⟨index.slots.setIfInBounds key none, key :: index.free, removeKey entry.path key index.byPath⟩

/-- Mark a subscription as cancelled. -/
def cancel (index : PredicateIndex φ) (key : Nat) : PredicateIndex φ :=
  { index with
    slots := index.slots.modify key fun slot => slot.map fun entry =>
      { entry with cancelled := true } }

/-- Whether the subscription with a key is cancelled. -/
def isCancelled (index : PredicateIndex φ) (key : Nat) : Bool :=
  (index.find? key).any Entry.cancelled

/-- Free the slots of the cancelled subscriptions, in the order of their keys. -/
def purge (index : PredicateIndex φ) : PredicateIndex φ :=
  ((List.range index.slots.size).filter index.isCancelled).foldl remove index

/-- A session of an index is a set of keys. -/
instance : Session MatchSession where
  empty := .empty
  clear := .clear

/-- Subscribing takes a slot of the index, and suspending adds its key to the session. -/
instance : Dispatcher (PredicateIndex φ) φ MatchSession where
  subscribe index interest := index.insert { interest with cancelled := false }
  session := session
  suspend _ key session := session.suspend key
  cancel index key := index.cancel key

section Dispatch

variable [BEq φ]

/-- Hand a value to the subscriptions with the given keys, for an evaluation of the tree with number
`treeId`. Subscriptions of other filters, cancelled and suspended ones and those of decided leaves
are passed over. The result of a predicate is reported to its leaf, except that a failure on a
repeated path is not: another value of the collection may still succeed. -/
def dispatchTo (index : PredicateIndex φ) (treeId : Nat) (tree : Tree)
    (suspend : Nat → MatchSession → MatchSession) (filter : φ) (value : Option Value) :
    List Nat → Context MatchSession → Reported MatchSession
  | [], context => (context, .ok none)
  | key :: keys, context =>
    if context.isDecided then (context, .ok none)
    else match index.find? key with
      | none => (context, .error .invalidKey)
      | some entry =>
        if entry.filter != filter || entry.cancelled || context.session.isSuspended key then
          index.dispatchTo treeId tree suspend filter value keys context
        else if entry.tree != treeId then (context, .error (.foreignDispatch key))
        else match tree.leaf? entry.leaf with
          | none => (context, .error (.foreignDispatch key))
          | some leaf =>
            let success := leaf.predicate.accepts value
            if context.isDecidedAt leaf.id || (leaf.path.repeated && !success) then
              index.dispatchTo treeId tree suspend filter value keys context
            else match tree.report suspend entry.leaf success context with
              | (context, .ok none) =>
                index.dispatchTo treeId tree suspend filter value keys context
              | reported => reported

/-- Hand the value of the attribute at a path to the subscriptions of a filter. -/
def dispatch (index : PredicateIndex φ) (treeId : Nat) (tree : Tree)
    (suspend : Nat → MatchSession → MatchSession) (filter : φ) (path : Path) (value : Option Value)
    (context : Context MatchSession) : Reported MatchSession :=
  index.dispatchTo treeId tree suspend filter value (index.keysAt path) context

end Dispatch

end PredicateIndex

end Percolator
