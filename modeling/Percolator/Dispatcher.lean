import Percolator.Evaluation

/-!
# Dispatchers

A dispatcher hands the values of attributes to the leaves that subscribed to them. It numbers its
subscriptions by keys. A subscription is suspended for one evaluation, through the session of that
evaluation, or cancelled for good.
-/

namespace Percolator

/-- What a subscription is about. -/
structure Interest (φ : Type) where
  /-- The filter on whose behalf the leaf subscribed. -/
  filter : φ
  /-- The number of the tree of the leaf. -/
  tree : Nat
  /-- The number of the leaf. -/
  leaf : Nat
  /-- The path of the values that the leaf waits for. -/
  path : Path

/-- The operations of a session `σ`, which remembers suspended subscriptions. -/
class Session (σ : Type) where
  /-- A session in which nothing is suspended. -/
  empty : σ
  /-- Resume all subscriptions. -/
  clear : σ → σ

/-- The operations of a dispatcher `δ` for filters of type `φ` and sessions of type `σ`. -/
class Dispatcher (δ : Type) (φ σ : outParam Type) where
  /-- Add a subscription, and tell its key. -/
  subscribe : δ → Interest φ → δ × Nat
  /-- A session that suits the subscriptions made so far. -/
  session : δ → σ
  /-- Suspend the subscription with a key in a session. -/
  suspend : δ → Nat → σ → σ
  /-- Cancel the subscription with a key. -/
  cancel : δ → Nat → δ

end Percolator
