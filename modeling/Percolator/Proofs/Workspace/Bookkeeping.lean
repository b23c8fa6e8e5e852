import Percolator.Proofs.Workspace.Subscriptions

/-!
# The books of an index

Main statement: whatever was done in a workspace, and also after steps that were refused half way,
the books of every index are in order. Its keys are listed once, by path and age; its active
subscriptions are those of the leaves that refer to it; and purging leaves these and no others.
-/

namespace Percolator.Workspace

open PredicateIndex

section Subscribers

variable {δ φ σ : Type}

/-- The leaves that refer to subscriptions of a dispatcher, each with its tree. -/
def subscribers (w : Workspace δ σ) (number : Nat) : List (Nat × Nat) :=
  (List.range w.trees.size).flatMap fun tree =>
    (((w.tree? tree).elim [] Tree.leafIds).filter fun leaf =>
      (w.handle? tree leaf).any fun handle => handle.dispatcher == number).map fun leaf =>
        (tree, leaf)

variable {w : Workspace (PredicateIndex φ) MatchSession} {log : List (Handle × φ)}

/-- The leaves of a dispatcher are those with a subscription of it. -/
theorem Sound.mem_subscribers (h : Sound w log) {number tree leaf : Nat} :
    (tree, leaf) ∈ w.subscribers number ↔ ∃ key, w.handle? tree leaf = some ⟨number, key⟩ := by
  have hany : ((w.handle? tree leaf).any fun handle => handle.dispatcher == number) = true ↔
      ∃ key, w.handle? tree leaf = some ⟨number, key⟩ := by
    cases hslot : w.handle? tree leaf with
    | none => simp
    | some handle =>
      rw [Option.any_some, beq_iff_eq]
      constructor
      · intro heq
        subst heq
        exact ⟨handle.key, rfl⟩
      · intro hparts
        rcases hparts with ⟨key, hhandle⟩
        rw [Option.some.inj hhandle]
  rw [subscribers, List.mem_flatMap, ← hany]
  constructor
  · intro hparts
    rcases hparts with ⟨tree', _, hmem⟩
    obtain ⟨leaf', hleaf', hpair⟩ := List.mem_map.mp hmem
    obtain ⟨rfl, rfl⟩ := Prod.mk.inj hpair
    exact (List.mem_filter.mp hleaf').2
  · intro hslot
    obtain ⟨key, hhandle⟩ := hany.mp hslot
    obtain ⟨_, found, hfound, hleaf⟩ := h.subscribed tree leaf _ hhandle
    refine ⟨tree, List.mem_range.mpr (lt_size_of_tree? hfound), ?_⟩
    refine List.mem_map.mpr ⟨leaf, List.mem_filter.mpr ⟨?_, hslot⟩, rfl⟩
    rw [hfound]
    exact (h.numbered tree found hfound).mem_leafIds.mpr hleaf

/-- No leaf of a dispatcher is listed twice. -/
theorem Sound.nodup_subscribers (h : Sound w log) (number : Nat) :
    (w.subscribers number).Nodup := by
  refine List.pairwise_flatMap.mpr ⟨fun tree _ => ?_, ?_⟩
  · refine List.pairwise_map.mpr (List.Pairwise.filter _ ?_)
    cases htree : w.tree? tree with
    | none => exact .nil
    | some found =>
      refine (h.numbered tree found htree).nodup_leafIds.imp fun hne hpair => ?_
      exact hne (Prod.mk.inj hpair).2
  · refine List.nodup_range.imp fun {tree tree'} hne p hp q hq hpair => ?_
    obtain ⟨_, _, rfl⟩ := List.mem_map.mp hp
    obtain ⟨_, _, rfl⟩ := List.mem_map.mp hq
    exact hne (Prod.mk.inj hpair).1

/-- A purged index holds as many subscriptions as leaves refer to it. -/
theorem Sound.size_purge (h : Sound w log) {number : Nat} {index : PredicateIndex φ}
    (hindex : w.dispatcher? number = some index) :
    index.purge.size = (w.subscribers number).length := by
  let keyOf (p : Nat × Nat) : Nat := (w.handle? p.1 p.2).elim 0 Handle.key
  have hkey : ∀ p ∈ w.subscribers number, w.handle? p.1 p.2 = some ⟨number, keyOf p⟩ := by
    intro p hp
    obtain ⟨key, hhandle⟩ := h.mem_subscribers.mp hp
    rw [hhandle]
    simp only [keyOf, hhandle, Option.elim_some]
  have hnodup : ((w.subscribers number).map keyOf).Nodup := by
    refine List.pairwise_map.mpr ((h.nodup_subscribers number).imp_of_mem ?_)
    intro p q hp hq hne hsame
    -- The subscription with the key refers to one leaf only.
    obtain ⟨entry, hentry, htree, hleaf⟩ := (h.active number index hindex _ _ _).mp (hkey p hp)
    obtain ⟨entry', hentry', htree', hleaf'⟩ := (h.active number index hindex _ _ _).mp (hkey q hq)
    rw [hsame, hentry'] at hentry
    rw [Option.some.inj hentry] at htree' hleaf'
    exact hne (Prod.ext (htree.symm.trans htree') (hleaf.symm.trans hleaf'))
  have hperm : ((w.subscribers number).map keyOf).Perm index.purge.held := by
    refine (List.perm_ext_iff_of_nodup hnodup (nodup_held _)).mpr fun key => ?_
    rw [List.mem_map, mem_held]
    simp only [find?_purge]
    constructor
    · intro hparts
      rcases hparts with ⟨p, hp, rfl⟩
      obtain ⟨entry, hentry, _⟩ := (h.active number index hindex _ _ _).mp (hkey p hp)
      exact ⟨entry, hentry⟩
    · intro hparts
      rcases hparts with ⟨entry, hentry⟩
      have hslot := (h.active number index hindex _ _ key).mpr ⟨entry, hentry, rfl, rfl⟩
      refine ⟨(entry.tree, entry.leaf), h.mem_subscribers.mpr ⟨key, hslot⟩, ?_⟩
      simp only [keyOf, hslot, Option.elim_some]
  rw [← length_held, ← hperm.length_eq, List.length_map]

end Subscribers

variable {φ : Type}

/-- The books of an index are in order, in view of the leaves that refer to the index and of the
subscriptions made with it, which `history` lists with their keys and filters, the newest first. -/
structure Bookkeeping (w : Workspace (PredicateIndex φ) MatchSession) (number : Nat)
    (index : PredicateIndex φ) (history : List (Nat × φ)) : Prop where
  /-- Every subscription is listed once, and that for its path. -/
  once : ∀ key entry, index.find? key = some entry →
    (index.byPath.flatMap Prod.snd).count key = 1 ∧ key ∈ index.keysAt entry.path
  /-- Every key listed is the key of a subscription to the path. -/
  held : ∀ row ∈ index.byPath, ∀ key ∈ row.2,
    ∃ entry, index.find? key = some entry ∧ entry.path = row.1
  /-- No list is empty. -/
  rows : ∀ row ∈ index.byPath, row.2 ≠ []
  /-- Every list is in the order in which the subscriptions were made. -/
  order : ∀ row ∈ index.byPath, row.2.Pairwise fun earlier later =>
    age history later < age history earlier
  /-- A leaf refers to a subscription exactly if that is active and refers to the leaf. -/
  leaves : ∀ tree leaf key, w.handle? tree leaf = some ⟨number, key⟩ ↔
    ∃ entry, index.active? key = some entry ∧ entry.tree = tree ∧ entry.leaf = leaf
  /-- An active subscription is to the path of its leaf, which is a leaf of a tree that is there. -/
  paths : ∀ key entry, index.active? key = some entry →
    ∃ found leaf, w.tree? entry.tree = some found ∧ found.leaf? entry.leaf = some leaf ∧
      entry.path = leaf.path
  /-- Every subscription has the filter for which it was made. -/
  filters : ∀ key entry, index.find? key = some entry → history.lookup key = some entry.filter
  /-- Purging leaves the active subscriptions with their keys, and no others. -/
  purged : ∀ key, index.purge.find? key = index.active? key
  /-- Purging keeps the order of the subscriptions that it leaves. -/
  purgedOrder : ∀ path, index.purge.keysAt path
    = (index.keysAt path).filter fun key => (index.active? key).isSome
  /-- A purged index holds as many subscriptions as leaves refer to it. -/
  purgedSize : index.purge.size = (w.subscribers number).length

/-- In every workspace that steps lead to, the books of every index are in order. -/
theorem bookkeeping_run [BEq φ] (resolve : String → Option Path) (steps : List (IndexStep φ))
    {number : Nat} {index : PredicateIndex φ}
    (hindex : (run resolve steps (.new .empty)).dispatcher? number = some index) :
    Bookkeeping (run resolve steps (.new .empty)) number index
      (history (log resolve steps (.new .empty)) number) := by
  have hsound := sound_new.run resolve steps
  rw [List.append_nil] at hsound
  have hfaithful := hsound.indexes number index hindex
  have hc := hfaithful.consistent
  refine ⟨fun key entry hentry => ⟨hc.count_eq_one hentry, ?_⟩, fun row hrow key hkey => ?_,
    hc.rows, fun row hrow => ?_, hsound.active number index hindex, fun key entry hentry => ?_,
    hfaithful.filter, find?_purge index, keysAt_purge hc, hsound.size_purge hindex⟩
  · exact (hc.listed _ _).mpr ⟨entry, hentry, rfl⟩
  · rw [← hc.keysAt_of_mem hrow] at hkey
    exact (hc.listed _ _).mp hkey
  · rw [← hc.keysAt_of_mem hrow]
    exact hfaithful.order row.1
  · obtain ⟨found, leaf, hfound, hleaf, hpath⟩ := hsound.path number index hindex key entry hentry
    exact ⟨found, leaf, hfound, hleaf, hpath.symm⟩

/-- A leaf gives up its subscription and takes the key again after a purge, when all leaves of its
tree are subscribed; that fails half way, since the other leaf is still subscribed. -/
def halfSubscribed : List (IndexStep Nat) :=
  [.basic (.compile (.join .and [.test "a" .isNull, .test "b" .isNull])),
    .basic (.subscribe 0 (some 1) 7 0), .basic (.subscribe 0 (some 2) 7 0),
    .basic (.unsubscribe 0 (some 1)), .purge 0, .basic (.subscribe 0 none 8 0)]

/-- The subscription made last comes last, although it has the smaller key. -/
theorem bookkeeping_run_half_subscribed :
    ∃ index, (run (fun _ => some ⟨[0], false⟩) halfSubscribed (.new .empty)).dispatcher? 0
        = some index ∧ index.keysAt ⟨[0], false⟩ = [1, 0] ∧
      Bookkeeping (run (fun _ => some ⟨[0], false⟩) halfSubscribed (.new .empty)) 0 index
        [(0, 8), (1, 7), (0, 7)] := by
  have hkeys : ((run (fun _ => some ⟨[0], false⟩) halfSubscribed (.new .empty)).dispatcher? 0).map
      (·.keysAt ⟨[0], false⟩) = some [1, 0] := by decide +kernel
  have hhistory : history (log (fun _ => some ⟨[0], false⟩) halfSubscribed (.new .empty)) 0
      = [(0, 8), (1, 7), (0, 7)] := by decide +kernel
  obtain ⟨index, hindex, hpath⟩ := Option.map_eq_some_iff.mp hkeys
  exact ⟨index, hindex, hpath, hhistory ▸ bookkeeping_run _ halfSubscribed hindex⟩

end Percolator.Workspace
