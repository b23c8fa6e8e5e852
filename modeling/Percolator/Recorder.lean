import Percolator.Dispatcher

/-!
# Recording dispatchers

A recorder dispatches nothing. It keeps a row of all subscriptions ever made, and its sessions are
the rows of the leaves suspended, in order and with repetitions.
-/

namespace Percolator

/-- A recorded subscription. -/
structure Recording (φ : Type) where
  filter : φ
  leaf : Nat
  cancelled : Bool

/-- The subscriptions made, in order; the key of a subscription is its place. -/
structure Recorder (φ : Type) where
  recordings : Array (Recording φ)

namespace Recorder

variable {φ : Type}

/-- A recorder without subscriptions. -/
def empty : Recorder φ := ⟨#[]⟩

/-- A session of a recorder is the row of the leaves that were suspended. -/
instance : Session (List Nat) where
  empty := []
  clear _ := []

/-- The recorder numbers what it records. -/
instance : Dispatcher (Recorder φ) φ (List Nat) where
  subscribe recorder interest :=
    (⟨recorder.recordings.push ⟨interest.filter, interest.leaf, false⟩⟩, recorder.recordings.size)
  session _ := []
  suspend recorder key session :=
    match recorder.recordings[key]? with
    | none => session
    | some recording => session ++ [recording.leaf]
  cancel recorder key :=
    ⟨recorder.recordings.modify key fun recording => { recording with cancelled := true }⟩

end Recorder

end Percolator
