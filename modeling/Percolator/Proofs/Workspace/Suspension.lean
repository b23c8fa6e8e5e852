import Percolator.Proofs.Evaluation.Sweep
import Percolator.Proofs.Workspace.Subscriptions

/-!
# Suspended subscriptions

A subscription that is suspended for an evaluation is passed over when values are dispatched, so it
should be suspended only once its leaf is decided. An evaluation in which that is so for the leaves
of its tree is timely. Main statement: if the leaves of the tree are subscribed to one index only,
neither reports nor dispatched values make a timely evaluation untimely.
-/

namespace Percolator

/-- What every report preserves, dispatching a value preserves, since it only reports. -/
theorem Tree.Invariant.dispatchTo {φ : Type} [BEq φ] {tree : Tree}
    {suspend : Nat → MatchSession → MatchSession} {P : Context MatchSession → Prop}
    (h : Tree.Invariant tree suspend P) (index : PredicateIndex φ) (treeId : Nat) (filter : φ)
    (value : Option Value) (keys : List Nat) {context : Context MatchSession} (hp : P context) :
    P (index.dispatchTo treeId tree suspend filter value keys context).1 := by
  induction keys generalizing context with
  | nil => exact hp
  | cons key keys ih =>
    rw [PredicateIndex.dispatchTo]
    split
    · exact hp
    · split
      · exact hp
      · split
        · exact ih hp
        · split
          · exact hp
          · split
            · exact hp
            · dsimp only
              split
              · exact ih hp
              · split
                · rename_i next hresult
                  have hnext : _ = next := congrArg Prod.fst hresult
                  exact ih (hnext ▸ h.report _ _ context hp)
                · exact h.report _ _ context hp

namespace Workspace

variable {φ : Type} {w : Workspace (PredicateIndex φ) MatchSession} {log : List (Handle × φ)}

/-- All leaves of a tree that are subscribed at all are subscribed to one index. -/
def SubscribedTo (w : Workspace (PredicateIndex φ) MatchSession) (tree number : Nat) : Prop :=
  ∀ leaf handle, w.handle? tree leaf = some handle → handle.dispatcher = number

/-- A leaf of a tree is decided in an evaluation of the tree if its subscription is suspended. -/
def Timely (w : Workspace (PredicateIndex φ) MatchSession) (tree : Nat)
    (context : Context MatchSession) : Prop :=
  ∀ leaf handle, w.handle? tree leaf = some handle →
    context.session.isSuspended handle.key = true → context.isDecidedAt leaf = true

/-- A new evaluation is timely if nothing is suspended in its session. -/
theorem timely_new (w : Workspace (PredicateIndex φ) MatchSession) (number : Nat) (tree : Tree)
    {session : MatchSession} (hsession : ∀ key, session.isSuspended key = false) :
    Timely w number (.new tree session) := by
  intro leaf handle _ hsuspended
  rw [Context.new, hsession] at hsuspended
  simp at hsuspended

/-- Suspending the subscription of a leaf suspends its key and no other, if the index is there. -/
theorem isSuspended_suspend {tree number : Nat} (hto : w.SubscribedTo tree number) {leaf key : Nat}
    {session : MatchSession} (h : (w.suspend tree leaf session).isSuspended key = true) :
    session.isSuspended key = true ∨
      w.handle? tree leaf = some ⟨number, key⟩ ∧ ∃ index, w.dispatcher? number = some index := by
  unfold Workspace.suspend at h
  split at h
  · exact .inl h
  · rename_i handle hslot
    have hnumber := hto leaf handle hslot
    split at h
    · exact .inl h
    · rename_i index hindex
      change (session.suspend handle.key).isSuspended key = true at h
      rw [MatchSession.isSuspended_suspend, Bool.or_eq_true, beq_iff_eq] at h
      refine h.imp id fun hkey => ⟨?_, index, hnumber ▸ hindex⟩
      rw [hslot, hkey, ← hnumber]

/-- No two leaves of a tree have the same subscription of an index that is there. -/
theorem Sound.leaf_unique (h : Sound w log) {number tree key : Nat} {index : PredicateIndex φ}
    (hindex : w.dispatcher? number = some index) {leaf other : Nat}
    (hleaf : w.handle? tree leaf = some ⟨number, key⟩)
    (hother : w.handle? tree other = some ⟨number, key⟩) : leaf = other := by
  obtain ⟨entry, hentry, _, rfl⟩ := (h.active number index hindex tree leaf key).mp hleaf
  obtain ⟨entry', hentry', _, rfl⟩ := (h.active number index hindex tree other key).mp hother
  rw [hentry] at hentry'
  rw [Option.some.inj hentry']

/-- No move of a report makes an evaluation untimely. -/
theorem timely_invariant (h : Sound w log) {number treeId : Nat}
    (hto : w.SubscribedTo treeId number) (tree : Tree) :
    Tree.Invariant tree (w.suspend treeId) (Timely w treeId) := by
  refine ⟨fun context id value hp => ?_, fun context id _ hdecided hp => ?_,
    fun context id hopen hp => ?_⟩
  · intro leaf handle hslot hsuspended
    have hleaf := hp leaf handle hslot hsuspended
    rw [Context.isDecidedAt_iff] at hleaf ⊢
    by_cases hid : id < context.counters.size
    · rw [Context.counter_mark _ _ _ _ hid]
      split
      · exact decidedCounter_nonpos value
      · exact hleaf
    · have hsame : (context.mark id value).counter leaf = context.counter leaf := by
        rw [Context.mark, Context.setCounter, Context.counter,
          Array.setIfInBounds_eq_of_size_le (by omega), Context.counter]
      rw [hsame]
      exact hleaf
  · intro leaf handle hslot hsuspended
    rcases isSuspended_suspend hto hsuspended with hbefore | ⟨hid, index, hindex⟩
    · exact hp leaf handle hslot hbefore
    · -- The key that is suspended now is that of the leaf, which is decided.
      have hleaf : w.handle? treeId leaf = some ⟨number, handle.key⟩ := by
        rw [hslot, ← hto leaf handle hslot]
      rw [h.leaf_unique hindex hleaf hid]
      exact hdecided
  · intro leaf handle hslot hsuspended
    have hleaf := hp leaf handle hslot hsuspended
    have hne : leaf ≠ id := by
      intro heq
      subst heq
      rw [hopen] at hleaf
      simp at hleaf
    rw [Context.isDecidedAt_iff] at hleaf ⊢
    rw [Context.counter_setCounter_of_ne _ _ hne]
    exact hleaf

end Workspace

end Percolator
