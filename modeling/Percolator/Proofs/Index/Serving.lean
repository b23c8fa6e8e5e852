import Mathlib.Data.List.Basic
import Percolator.Proofs.Evaluation.Alike
import Percolator.Proofs.Index.Store
import Percolator.Proofs.Tree.Layout

/-!
# The leaves that an index serves

A value that is dispatched on a path for a filter reaches the leaves with active subscriptions to the
path on behalf of the filter. Main statements: dispatching the value is handing it to these leaves,
in their order; of subscriptions on behalf of other filters nothing is left in the result. A filter
on whose behalf no leaf of the tree subscribed changes no evaluation of the tree.
-/

namespace Percolator.PredicateIndex

variable {φ : Type} [BEq φ]

/-- The leaf with the active subscription that has a key, if that was made for a filter. -/
def served? (index : PredicateIndex φ) (filter : φ) (key : Nat) : Option Nat :=
  ((index.active? key).filter fun entry => entry.filter == filter).map fun entry => entry.leaf

/-- The leaves that wait for the values on a path on behalf of a filter, in the order in which they
subscribed. -/
def leavesAt (index : PredicateIndex φ) (filter : φ) (path : Path) : List Nat :=
  (index.keysAt path).filterMap (index.served? filter)

/-- The leaves that are served are those of the active subscriptions for the filter. -/
theorem served?_eq_some_iff {index : PredicateIndex φ} {filter : φ} {key leaf : Nat} :
    index.served? filter key = some leaf ↔ ∃ entry, index.active? key = some entry ∧
      (entry.filter == filter) = true ∧ entry.leaf = leaf := by
  simp only [served?, Option.map_eq_some_iff, Option.filter_eq_some_iff, and_assoc]

/-- A subscription that serves no leaf is cancelled or was made for another filter. -/
theorem passed_of_served?_eq_none {index : PredicateIndex φ} {filter : φ} {key : Nat}
    {entry : Entry φ} (hentry : index.find? key = some entry)
    (h : index.served? filter key = none) :
    (entry.filter != filter || entry.cancelled) = true := by
  cases hcancelled : entry.cancelled with
  | true => exact Bool.or_true _
  | false =>
    have hactive := active?_eq_some_iff.mpr ⟨hentry, hcancelled⟩
    rw [served?, hactive, Option.map_eq_none_iff, Option.filter_eq_none_iff] at h
    rw [Bool.or_false, bne, Bool.not_eq_true']
    exact Bool.not_eq_true _ ▸ h entry rfl

/-- A leaf that subscribes on behalf of the filter is served last on its path. -/
theorem leavesAt_insert {index : PredicateIndex φ} (hc : index.Consistent) (entry : Entry φ)
    (hactive : entry.cancelled = false) {filter : φ} (hfilter : (entry.filter == filter) = true)
    (path : Path) : (index.insert entry).1.leavesAt filter path
      = if path = entry.path then index.leavesAt filter path ++ [entry.leaf]
        else index.leavesAt filter path := by
  have hnew : (index.insert entry).1.served? filter (index.insert entry).2 = some entry.leaf := by
    rw [served?, active?_insert hc entry hactive, if_pos rfl, Option.filter_some, if_pos hfilter]
    rfl
  have hold : ∀ key ∈ index.keysAt path,
      (index.insert entry).1.served? filter key = index.served? filter key := by
    intro key hkey
    have hne : key ≠ (index.insert entry).2 := by
      intro heq
      rw [hc.listed, heq, find?_insert_key hc] at hkey
      simp at hkey
    rw [served?, active?_insert hc entry hactive, if_neg hne, served?]
  rw [leavesAt, keysAt_insert]
  split
  · rw [List.filterMap_append, List.filterMap_congr hold, List.filterMap_cons_some hnew]
    rfl
  · exact List.filterMap_congr hold

/-- Dispatching a value is handing it to the leaves that are served, if they are leaves of the tree
and the session knows them by their keys. -/
theorem dispatchTo_eq_serve {index : PredicateIndex φ} {treeId : Nat} {tree : Tree} {filter : φ}
    {suspended : MatchSession → Nat → Bool} {keys : List Nat} (hnumbered : tree.Numbered)
    (hheld : ∀ key ∈ keys, ∃ entry, index.find? key = some entry)
    (hserved : ∀ key ∈ keys, ∀ entry, index.active? key = some entry →
      (entry.filter == filter) = true → entry.tree = treeId ∧
        (tree.leaf? entry.leaf).isSome = true ∧
        ∀ session, suspended session entry.leaf = session.isSuspended key)
    (suspend : Nat → MatchSession → MatchSession) (value : Option Value)
    (context : Context MatchSession) :
    index.dispatchTo treeId tree suspend filter value keys context
      = tree.serve suspend suspended value (keys.filterMap (index.served? filter)) context := by
  induction keys generalizing context with
  | nil => rfl
  | cons key keys ih =>
    have hrest := ih (fun later hlater => hheld later (List.mem_cons_of_mem _ hlater))
      fun later hlater => hserved later (List.mem_cons_of_mem _ hlater)
    obtain ⟨entry, hentry⟩ := hheld key List.mem_cons_self
    rw [dispatchTo]
    by_cases hdecided : context.isDecided = true
    · rw [if_pos hdecided, Tree.serve_of_isDecided hdecided]
    · rw [if_neg hdecided, hentry]
      dsimp only
      cases hleaf : index.served? filter key with
      | none =>
        rw [passed_of_served?_eq_none hentry hleaf, Bool.true_or, if_pos rfl,
          List.filterMap_cons_none hleaf]
        exact hrest context
      | some leaf =>
        obtain ⟨found, hactive, hfilter, rfl⟩ := served?_eq_some_iff.mp hleaf
        obtain ⟨hfound, hkept⟩ := active?_eq_some_iff.mp hactive
        rw [hentry] at hfound
        obtain rfl := Option.some.inj hfound
        obtain ⟨htree, hisLeaf, hsuspended⟩ :=
          hserved key List.mem_cons_self entry hactive hfilter
        obtain ⟨leaf, hleaf'⟩ := Option.isSome_iff_exists.mp hisLeaf
        rw [List.filterMap_cons_some hleaf, Tree.serve, if_neg hdecided, hsuspended, bne, hfilter,
          hkept, htree, hleaf', bne_self_eq_false, Bool.not_true, Bool.false_or, Bool.false_or,
          if_neg Bool.false_ne_true]
        dsimp only
        rw [hnumbered.leaves entry.leaf leaf hleaf']
        split
        · exact hrest context
        · split
          · exact hrest context
          · split
            · rename_i next hnext
              rw [hnext]
              exact hrest next
            · rename_i hreport
              generalize tree.report suspend entry.leaf _ context = reported at hreport ⊢
              rcases reported with ⟨next, fault | _ | verdict⟩
              · rfl
              · exact absurd rfl (hreport next)
              · rfl

/-- A value changes no evaluation of a tree without an active subscription for the filter. -/
theorem dispatchTo_of_foreign {index : PredicateIndex φ} {treeId : Nat} {filter : φ}
    (hforeign : ∀ key entry, index.active? key = some entry → (entry.filter == filter) = true →
      entry.tree ≠ treeId)
    (tree : Tree) (suspend : Nat → MatchSession → MatchSession) (value : Option Value)
    (keys : List Nat) (context : Context MatchSession) :
    (index.dispatchTo treeId tree suspend filter value keys context).1 = context := by
  induction keys with
  | nil => rfl
  | cons key keys ih =>
    rw [dispatchTo]
    split
    · rfl
    · split
      · rfl
      · rename_i entry hentry
        split
        · exact ih
        · rename_i hseen
          rw [Bool.not_eq_true, Bool.or_eq_false_iff, Bool.or_eq_false_iff, bne,
            Bool.not_eq_false'] at hseen
          have hactive := active?_eq_some_iff.mpr ⟨hentry, hseen.1.2⟩
          rw [if_pos (bne_iff_ne.mpr (hforeign key entry hactive hseen.1.1))]

end Percolator.PredicateIndex
