import Mathlib.Data.List.Sort
import Percolator.Proofs.Index.Serving
import Percolator.Proofs.Workspace.Matching

/-!
# The leaves served in a workspace

A tree that is wholly subscribed to an index for a filter has its leaves served there, and no others
are served on behalf of the filter. Main statements: dispatching a value for the filter hands it to
the leaves of the tree on the path, those that subscribed earlier first; the keys of the
subscriptions do not matter. As long as the tree stays wholly subscribed, no step changes which
leaves are served on a path, and in which order.
-/

namespace Percolator

open PredicateIndex

/-- Whether a leaf of a tree waits for the values on a path. -/
def Tree.waitsAt (tree : Tree) (path : Path) (leaf : Nat) : Bool :=
  (tree.leaf? leaf).any fun found => found.path = path

/-- The leaves that wait for the values on a path are those on the path. -/
theorem Tree.waitsAt_iff {tree : Tree} {path : Path} {leaf : Nat} :
    tree.waitsAt path leaf = true ↔ ∃ found, tree.leaf? leaf = some found ∧ found.path = path := by
  rw [waitsAt]
  cases tree.leaf? leaf <;> simp

/-- A node that waits for values is a leaf. -/
theorem Tree.isSome_of_waitsAt {tree : Tree} {path : Path} {leaf : Nat}
    (h : tree.waitsAt path leaf = true) : (tree.leaf? leaf).isSome = true := by
  obtain ⟨found, hfound, _⟩ := waitsAt_iff.mp h
  exact Option.isSome_of_eq_some hfound

/-- Two rows in the order of the same ages have the same order if they have the same members. -/
theorem eq_of_older {age : Nat → Nat} {row row' : List Nat}
    (h : row.Pairwise fun i j => age j < age i) (h' : row'.Pairwise fun i j => age j < age i)
    (hmem : ∀ i, i ∈ row ↔ i ∈ row') : row = row' := by
  have hirrefl : Std.Irrefl fun i j : Nat => age j < age i := ⟨fun _ => Nat.lt_irrefl _⟩
  have hantisymm : Std.Antisymm fun i j : Nat => age j < age i :=
    ⟨fun _ _ hij hji => absurd hji (Nat.lt_asymm hij)⟩
  exact h.eq_of_mem_iff h' hmem

/-- Newer subscriptions with other keys make a subscription older. -/
theorem PredicateIndex.age_append {φ : Type} {key : Nat} {newer : List (Nat × φ)}
    (h : key ∉ newer.map Prod.fst) (history : List (Nat × φ)) :
    age (newer ++ history) key = newer.length + age history key := by
  rw [age, List.map_append, List.idxOf_append_of_notMem h, List.length_map, age]

namespace Workspace

variable {φ : Type}

/-- Whether the subscription of a leaf is suspended in a session. -/
def suspendedAt (w : Workspace (PredicateIndex φ) MatchSession) (tree : Nat)
    (session : MatchSession) (leaf : Nat) : Bool :=
  (w.handle? tree leaf).any fun handle => session.isSuspended handle.key

/-- How many subscriptions an index made after the one of a leaf. -/
def leafAge (w : Workspace (PredicateIndex φ) MatchSession) (log : List (Handle × φ))
    (number tree leaf : Nat) : Nat :=
  age (history log number) ((w.handle? tree leaf).elim 0 Handle.key)

/-- A leaf is as old as its subscription. -/
theorem leafAge_eq {w : Workspace (PredicateIndex φ) MatchSession} {number tree leaf key : Nat}
    (h : w.handle? tree leaf = some ⟨number, key⟩) (log : List (Handle × φ)) :
    w.leafAge log number tree leaf = age (history log number) key := by
  rw [leafAge, h, Option.elim_some]

/-- The subscriptions in the history of an index are logged. -/
theorem mem_log_of_mem_history {log : List (Handle × φ)} {number : Nat} {made : Nat × φ}
    (h : made ∈ history log number) : (⟨number, made.1⟩, made.2) ∈ log := by
  obtain ⟨⟨handle, filter⟩, hlogged, hmade⟩ := List.mem_filterMap.mp h
  split at hmade
  · rename_i hnumber
    rw [← Option.some.inj hmade, ← hnumber]
    exact hlogged
  · simp at hmade

/-- A leaf with a subscription that a step made had none before. -/
theorem of_mem_made {w next : Workspace (PredicateIndex φ) MatchSession} {step : IndexStep φ}
    {logged : Handle × φ} (h : logged ∈ made w next step) :
    ∃ tree leaf, w.handle? tree leaf = none ∧ next.handle? tree leaf = some logged.1 := by
  have hgained : ∀ tree leaves (filter : φ),
      logged ∈ (w.gained next tree leaves).map (·, filter) →
      ∃ tree leaf, w.handle? tree leaf = none ∧ next.handle? tree leaf = some logged.1 := by
    intro tree leaves filter hmem
    obtain ⟨handle, hin, rfl⟩ := List.mem_map.mp hmem
    obtain ⟨leaf, _, hslot⟩ := List.mem_filterMap.mp (List.mem_reverse.mp hin)
    split at hslot
    · simp at hslot
    · rename_i hfree
      exact ⟨tree, leaf, Option.not_isSome_iff_eq_none.mp hfree, hslot⟩
  unfold made at h
  split at h
  · exact hgained _ _ _ h
  · exact hgained _ _ _ h
  · simp at h

/-- Where no key is suspended, no leaf is. -/
theorem suspendedAt_eq_false {session : MatchSession}
    (h : ∀ key, session.isSuspended key = false) (w : Workspace (PredicateIndex φ) MatchSession)
    (tree leaf : Nat) : w.suspendedAt tree session leaf = false := by
  rw [suspendedAt]
  cases w.handle? tree leaf with
  | none => rfl
  | some handle => exact h handle.key

variable [BEq φ] {w : Workspace (PredicateIndex φ) MatchSession} {log : List (Handle × φ)}
  {number treeId : Nat} {index : PredicateIndex φ} {tree : Tree} {filter : φ}

namespace WhollySubscribed

/-- A leaf of the tree is served under the key of its subscription. -/
theorem served (hm : WhollySubscribed w number index treeId tree filter) (h : Sound w log)
    {leaf : Nat} (hleaf : (tree.leaf? leaf).isSome = true) :
    ∃ key, w.handle? treeId leaf = some ⟨number, key⟩ ∧
      index.served? filter key = some leaf := by
  obtain ⟨key, entry, hslot, hactive, hfilter⟩ := hm.leaves leaf hleaf
  have hown := hm.own key entry hactive hfilter
  refine ⟨key, hslot, served?_eq_some_iff.mpr ⟨entry, hactive, hfilter, ?_⟩⟩
  exact ((hm.slot_iff h hactive hown).mp hslot).symm

/-- What is served is the leaf of the tree with the subscription. -/
theorem of_served (hm : WhollySubscribed w number index treeId tree filter) (h : Sound w log)
    {key leaf : Nat} (hserved : index.served? filter key = some leaf) :
    w.handle? treeId leaf = some ⟨number, key⟩ ∧ (tree.leaf? leaf).isSome = true := by
  obtain ⟨entry, hactive, hfilter, rfl⟩ := served?_eq_some_iff.mp hserved
  have hslot := (hm.slot_iff h hactive (hm.own key entry hactive hfilter)).mpr rfl
  obtain ⟨_, found, hfound, hleaf⟩ := h.subscribed _ _ _ hslot
  rw [hm.planted] at hfound
  rw [Option.some.inj hfound]
  exact ⟨hslot, hleaf⟩

/-- The leaves that are served on a path are those of the tree that wait there. -/
theorem mem_leavesAt (hm : WhollySubscribed w number index treeId tree filter) (h : Sound w log)
    {path : Path} {leaf : Nat} :
    leaf ∈ index.leavesAt filter path ↔ tree.waitsAt path leaf = true := by
  rw [leavesAt, List.mem_filterMap, Tree.waitsAt_iff]
  constructor
  · intro hparts
    rcases hparts with ⟨key, hkey, hserved⟩
    obtain ⟨entry, hactive, hfilter, rfl⟩ := served?_eq_some_iff.mp hserved
    obtain ⟨found, leaf, hfound, hleaf, hpath⟩ := h.path number index hm.present key entry hactive
    obtain ⟨entry', hentry', hpath'⟩ :=
      ((h.indexes number index hm.present).consistent.listed path key).mp hkey
    rw [(active?_eq_some_iff.mp hactive).1] at hentry'
    rw [hm.own key entry hactive hfilter, hm.planted] at hfound
    rw [← Option.some.inj hentry'] at hpath'
    rw [← Option.some.inj hfound] at hleaf
    exact ⟨leaf, hleaf, hpath.trans hpath'⟩
  · intro hparts
    rcases hparts with ⟨found, hfound, hpath⟩
    obtain ⟨key, hkey, hslot⟩ := listed_of_leaf hm h hfound
    obtain ⟨key', hslot', hserved⟩ := hm.served h (Option.isSome_of_eq_some hfound)
    rw [hslot, Option.some.injEq, Handle.mk.injEq] at hslot'
    rw [hpath] at hkey
    exact ⟨key, hkey, hslot'.2 ▸ hserved⟩

/-- Leaves that subscribed earlier are served first. -/
theorem older_leavesAt (hm : WhollySubscribed w number index treeId tree filter) (h : Sound w log)
    (path : Path) : (index.leavesAt filter path).Pairwise fun i j =>
      w.leafAge log number treeId j < w.leafAge log number treeId i := by
  refine List.pairwise_filterMap.mpr (((h.indexes number index hm.present).order path).imp ?_)
  intro earlier later hage i hi j hj
  rw [leafAge_eq (hm.of_served h hi).1, leafAge_eq (hm.of_served h hj).1]
  exact hage

/-- No two leaves of the tree subscribed at the same time. -/
theorem leafAge_inj (hm : WhollySubscribed w number index treeId tree filter) (h : Sound w log)
    {i j : Nat} (hi : (tree.leaf? i).isSome = true) (hj : (tree.leaf? j).isSome = true)
    (heq : w.leafAge log number treeId i = w.leafAge log number treeId j) : i = j := by
  obtain ⟨key, hslot, hserved⟩ := hm.served h hi
  obtain ⟨key', hslot', hserved'⟩ := hm.served h hj
  obtain ⟨entry, hactive, _⟩ := served?_eq_some_iff.mp hserved
  have hmade := (h.indexes number index hm.present).filter key entry
    (active?_eq_some_iff.mp hactive).1
  have hkey : key ∈ (history log number).map Prod.fst := by
    obtain ⟨before, after, hsplit, _⟩ := List.lookup_eq_some_iff.mp hmade
    rw [hsplit]
    simp
  rw [leafAge_eq hslot, leafAge_eq hslot', age, age, List.idxOf_inj hkey] at heq
  exact h.leaf_unique hm.present hslot (heq ▸ hslot')

/-- Dispatching a value is handing it to the leaves that are served. -/
theorem dispatch_eq_serve (hm : WhollySubscribed w number index treeId tree filter)
    (h : Sound w log) (path : Path) (value : Option Value) (context : Context MatchSession) :
    index.dispatch treeId tree (w.suspend treeId) filter path value context
      = tree.serve (w.suspend treeId) (w.suspendedAt treeId) value (index.leavesAt filter path)
          context := by
  refine dispatchTo_eq_serve (h.numbered treeId tree hm.planted) (fun key hkey => ?_)
    (fun key _ entry hactive hfilter => ?_) _ _ _
  · obtain ⟨entry, hentry, _⟩ :=
      ((h.indexes number index hm.present).consistent.listed path key).mp hkey
    exact ⟨entry, hentry⟩
  · have hserved : index.served? filter key = some entry.leaf :=
      served?_eq_some_iff.mpr ⟨entry, hactive, hfilter, rfl⟩
    obtain ⟨hslot, hleaf⟩ := hm.of_served h hserved
    refine ⟨hm.own key entry hactive hfilter, hleaf, fun session => ?_⟩
    rw [suspendedAt, hslot, Option.any_some]

/-- Suspending a leaf of the tree suspends it and no other leaf of the tree. -/
theorem suspendedAt_suspend (hm : WhollySubscribed w number index treeId tree filter)
    (h : Sound w log) {id leaf : Nat} (hid : (tree.leaf? id).isSome = true)
    (hleaf : (tree.leaf? leaf).isSome = true) (session : MatchSession) :
    w.suspendedAt treeId (w.suspend treeId id session) leaf
      = (w.suspendedAt treeId session leaf || leaf == id) := by
  obtain ⟨key, hslot, _⟩ := hm.served h hid
  obtain ⟨other, hother, _⟩ := hm.served h hleaf
  have hsuspend : w.suspend treeId id session = session.suspend key := by
    rw [Workspace.suspend, hslot]
    dsimp only
    rw [hm.present]
    rfl
  have hsame : (other == key) = (leaf == id) := by
    rw [Bool.eq_iff_iff, beq_iff_eq, beq_iff_eq]
    constructor
    · intro hkey
      exact h.leaf_unique hm.present hother (hkey ▸ hslot)
    · intro hid
      rw [hid, hslot, Option.some.injEq, Handle.mk.injEq] at hother
      exact hother.2.symm
  rw [suspendedAt, hother, Option.any_some, hsuspend, MatchSession.isSuspended_suspend, hsame,
    suspendedAt, hother, Option.any_some]

/-- Only the leaves of the tree are subscribed to the index for the filter, so another filter or
another index has nothing to say to an evaluation of the tree. -/
theorem foreign (hm : WhollySubscribed w number index treeId tree filter) (h : Sound w log)
    {dispatcher : Nat} {given : PredicateIndex φ} (hgiven : w.dispatcher? dispatcher = some given)
    {other : φ} (hother : dispatcher = number →
      ∀ key, (key == filter) = true → (key == other) = false)
    (key : Nat) (entry : Entry φ) (hactive : given.active? key = some entry)
    (hfilter : (entry.filter == other) = true) : entry.tree ≠ treeId := by
  intro htree
  have hslot := (h.active dispatcher given hgiven treeId entry.leaf key).mpr
    ⟨entry, hactive, htree, rfl⟩
  have hsame : dispatcher = number := hm.subscribedTo h _ _ hslot
  subst hsame
  rw [hm.present] at hgiven
  obtain rfl := Option.some.inj hgiven
  obtain ⟨_, found, hfound, hleaf⟩ := h.subscribed _ _ _ hslot
  rw [hm.planted] at hfound
  rw [← Option.some.inj hfound] at hleaf
  obtain ⟨key', entry', hslot', hactive', hfilter'⟩ := hm.leaves entry.leaf hleaf
  rw [hslot, Option.some.injEq, Handle.mk.injEq] at hslot'
  rw [← hslot'.2, hactive] at hactive'
  obtain rfl := Option.some.inj hactive'
  rw [hother rfl entry.filter hfilter'] at hfilter
  exact Bool.false_ne_true hfilter

end WhollySubscribed

/-- Whether a tree is wholly subscribed to an index for a filter, as far as that can be seen from
the slots of its leaves and the slots of the index. -/
def isWhollySubscribed (w : Workspace (PredicateIndex φ) MatchSession) (number treeId : Nat)
    (filter : φ) : Bool :=
  match w.tree? treeId, w.dispatcher? number with
  | some tree, some index =>
    (tree.leafIds.all fun leaf => (w.handle? treeId leaf).any fun handle =>
      handle.dispatcher == number && (index.served? filter handle.key).isSome) &&
    (List.range index.slots.size).all fun key => (index.active? key).all fun entry =>
      !(entry.filter == filter) || entry.tree == treeId
  | _, _ => false

/-- What can be seen from the slots suffices. -/
theorem whollySubscribed_of_slots (h : Sound w log) (htree : w.tree? treeId = some tree)
    (hseen : w.isWhollySubscribed number treeId filter = true) :
    ∃ index, WhollySubscribed w number index treeId tree filter := by
  rw [isWhollySubscribed, htree] at hseen
  cases hindex : w.dispatcher? number with
  | none => simp [hindex] at hseen
  | some index =>
    rw [hindex] at hseen
    dsimp only at hseen
    rw [Bool.and_eq_true, List.all_eq_true, List.all_eq_true] at hseen
    obtain ⟨hleaves, hown⟩ := hseen
    refine ⟨index, htree, hindex, fun leaf hleaf => ?_, fun key entry hactive hfilter => ?_⟩
    · have hslot := hleaves leaf ((h.numbered treeId tree htree).mem_leafIds.mpr hleaf)
      cases hhandle : w.handle? treeId leaf with
      | none => simp [hhandle] at hslot
      | some handle =>
        obtain ⟨dispatcher, key⟩ := handle
        rw [hhandle, Option.any_some, Bool.and_eq_true, beq_iff_eq] at hslot
        obtain ⟨rfl, hserved⟩ := hslot
        obtain ⟨_, hserved⟩ := Option.isSome_iff_exists.mp hserved
        obtain ⟨entry, hactive, hfilter, _⟩ := served?_eq_some_iff.mp hserved
        exact ⟨key, entry, rfl, hactive, hfilter⟩
    · have hkey := hown key
        (List.mem_range.mpr (lt_size_of_find? (active?_eq_some_iff.mp hactive).1))
      rw [hactive, Option.all_some, hfilter, Bool.not_true, Bool.false_or, beq_iff_eq] at hkey
      exact hkey

section Steps

variable {next : Workspace (PredicateIndex φ) MatchSession} {index' : PredicateIndex φ}
  {resolve : String → Option Path} {step : IndexStep φ}

namespace WhollySubscribed

/-- The leaves of a tree keep their subscriptions while it stays wholly subscribed. -/
theorem handle?_steady (hm : WhollySubscribed w number index treeId tree filter) (h : Sound w log)
    (hm' : WhollySubscribed next number index' treeId tree filter)
    (hmove : Move resolve w step next) {leaf : Nat} (hleaf : (tree.leaf? leaf).isSome = true) :
    next.handle? treeId leaf = w.handle? treeId leaf := by
  obtain ⟨key, _, hslot, _⟩ := hm.leaves leaf hleaf
  obtain ⟨key', _, hslot', _⟩ := hm'.leaves leaf hleaf
  rcases handle?_of_move h.roomy hmove hslot' with hold | hnone
  · rw [hold, hslot']
  · rw [hslot] at hnone
    simp at hnone

/-- A step makes all leaves of a tree older alike while the tree stays wholly subscribed. -/
theorem leafAge_steady (hm : WhollySubscribed w number index treeId tree filter) (h : Sound w log)
    (hm' : WhollySubscribed next number index' treeId tree filter)
    (h' : Sound next (made w next step ++ log)) (hmove : Move resolve w step next) {leaf : Nat}
    (hleaf : (tree.leaf? leaf).isSome = true) :
    next.leafAge (made w next step ++ log) number treeId leaf
      = (history (made w next step) number).length + w.leafAge log number treeId leaf := by
  obtain ⟨key, hslot, _⟩ := hm.served h hleaf
  have hslot' := (hm.handle?_steady h hm' hmove hleaf).trans hslot
  have hnew : key ∉ (history (made w next step) number).map Prod.fst := by
    intro hin
    obtain ⟨logged, hmade, rfl⟩ := List.mem_map.mp hin
    obtain ⟨tree', leaf', hfree, hgained⟩ := of_mem_made (mem_log_of_mem_history hmade)
    -- The key belongs to one leaf only, and that had its subscription before.
    obtain ⟨entry, hactive, rfl, rfl⟩ := (h'.active number index' hm'.present _ _ _).mp hgained
    obtain ⟨found, hfound, htree, hid⟩ := (h'.active number index' hm'.present _ _ _).mp hslot'
    rw [hactive] at hfound
    rw [Option.some.inj hfound, htree, hid, hslot] at hfree
    simp at hfree
  rw [leafAge_eq hslot', leafAge_eq hslot, history, List.filterMap_append]
  exact age_append hnew _

/-- The same leaves are served on every path, and in the same order, while the tree stays wholly
subscribed. -/
theorem leavesAt_steady (hm : WhollySubscribed w number index treeId tree filter)
    (h : Sound w log) (hm' : WhollySubscribed next number index' treeId tree filter)
    (h' : Sound next (made w next step ++ log)) (hmove : Move resolve w step next) (path : Path) :
    index'.leavesAt filter path = index.leavesAt filter path := by
  refine eq_of_older (hm'.older_leavesAt h' path) ?_ fun leaf => ?_
  · refine (hm.older_leavesAt h path).imp_of_mem fun {i j} hi hj hage => ?_
    have hisLeaf := Tree.isSome_of_waitsAt ((hm.mem_leavesAt h).mp hi)
    have hjsLeaf := Tree.isSome_of_waitsAt ((hm.mem_leavesAt h).mp hj)
    rw [hm.leafAge_steady h hm' h' hmove hisLeaf, hm.leafAge_steady h hm' h' hmove hjsLeaf]
    omega
  · rw [hm'.mem_leavesAt h', hm.mem_leavesAt h]

end WhollySubscribed

end Steps

end Workspace

end Percolator
