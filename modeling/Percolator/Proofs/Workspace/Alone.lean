import Percolator.Proofs.Workspace.Serving

/-!
# A tree alone in an index

The leaves of a tree may be subscribed one by one, in any order. Main statement: after a filter was
compiled in an empty workspace and the leaves of its tree were subscribed to the index, and nothing
else was done, the tree is wholly subscribed, and its leaves are served on each path in the order of
their subscription. In any workspace, a wholly subscribed tree has its leaves served as if they had
been subscribed in the order of their age.
-/

namespace Percolator

open PredicateIndex

variable {φ : Type}

/-- The steps that compile a filter, subscribe leaves of its tree, one after the other, and start an
evaluation. -/
def alone (e : Expr) (filter : φ) (leaves : List Nat) : List (IndexStep φ) :=
  .basic (.compile e) ::
    ((leaves.map fun leaf => .basic (.subscribe 0 (some leaf) filter 0)) ++
      [.basic (.begin 0 (some 0))])

namespace Workspace

/-- Leaves of a tree, those that subscribed to an index earlier first. -/
def bySubscription (w : Workspace (PredicateIndex φ) MatchSession) (log : List (Handle × φ))
    (number tree : Nat) (leaves : List Nat) : List Nat :=
  leaves.insertionSort fun i j =>
    w.leafAge log number tree j ≤ w.leafAge log number tree i

/-- The leaves of a tree by subscription are the leaves of the tree. -/
theorem bySubscription_perm (w : Workspace (PredicateIndex φ) MatchSession)
    (log : List (Handle × φ)) (number tree : Nat) (leaves : List Nat) :
    (w.bySubscription log number tree leaves).Perm leaves := List.perm_insertionSort _ leaves

variable [BEq φ] {w : Workspace (PredicateIndex φ) MatchSession} {log : List (Handle × φ)}
  {number treeId : Nat} {index : PredicateIndex φ} {tree : Tree} {filter : φ}
  {resolve : String → Option Path}

/-- The leaves that wait for the values on a path are served in the order of their subscription. -/
theorem WhollySubscribed.leavesAt_eq (hm : WhollySubscribed w number index treeId tree filter)
    (h : Sound w log) (path : Path) : index.leavesAt filter path
      = (w.bySubscription log number treeId tree.leafIds).filter (tree.waitsAt path) := by
  have hnumbered := h.numbered treeId tree hm.planted
  have hperm := w.bySubscription_perm log number treeId tree.leafIds
  have hmem : ∀ {leaf}, leaf ∈ w.bySubscription log number treeId tree.leafIds ↔
      (tree.leaf? leaf).isSome = true := hperm.mem_iff.trans hnumbered.mem_leafIds
  have hsorted : (w.bySubscription log number treeId tree.leafIds).Pairwise fun i j =>
      w.leafAge log number treeId j ≤ w.leafAge log number treeId i := by
    have htotal : Std.Total fun i j =>
        w.leafAge log number treeId j ≤ w.leafAge log number treeId i :=
      ⟨fun _ _ => Nat.le_total _ _⟩
    have htrans : IsTrans Nat fun i j =>
        w.leafAge log number treeId j ≤ w.leafAge log number treeId i :=
      ⟨fun _ _ _ hij hjk => Nat.le_trans hjk hij⟩
    exact List.pairwise_insertionSort _ _
  refine eq_of_older (hm.older_leavesAt h path) (List.Pairwise.filter _ ?_) fun leaf => ?_
  · refine (hsorted.and (hperm.nodup_iff.mpr hnumbered.nodup_leafIds)).imp_of_mem ?_
    intro i j hi hj hage
    refine Nat.lt_of_le_of_ne hage.1 fun heq => hage.2 ?_
    exact hm.leafAge_inj h (hmem.mp hi) (hmem.mp hj) heq.symm
  · rw [hm.mem_leavesAt h, List.mem_filter, hmem]
    exact ⟨fun hwaits => ⟨Tree.isSome_of_waitsAt hwaits, hwaits⟩, And.right⟩

/-- A step that subscribes one leaf subscribes the leaf. -/
theorem indexStep_subscribe (hindex : w.dispatcher? number = some index)
    (htree : w.tree? treeId = some tree) {id : Nat} (hid : (tree.leaf? id).isSome = true)
    (filter : φ) (resolve : String → Option Path) :
    (w.indexStep resolve (.basic (.subscribe treeId (some id) filter number))).1
      = (w.subscribe number filter treeId id).1 := by
  obtain ⟨planted, hplanted, rfl⟩ := Option.map_eq_some_iff.mp htree
  obtain ⟨found, hfound⟩ := findLeaf_of_leaf? hid
  rw [indexStep, step, withDispatcher, hindex]
  dsimp only
  rw [withTree, hplanted]
  dsimp only
  rw [hfound]

/-- The workspace holds a tree, an index to which some leaves of the tree are subscribed for a
filter, and nothing else. -/
structure Lone (w : Workspace (PredicateIndex φ) MatchSession) (log : List (Handle × φ))
    (index : PredicateIndex φ) (tree : Tree) (filter : φ) (leaves : List Nat) : Prop where
  sound : Sound w log
  planted : w.tree? 0 = some tree
  single : ∀ other found, w.tree? other = some found → other = 0
  attempts : w.attempts = #[]
  present : w.dispatcher? 0 = some index
  filters : ∀ key entry, index.active? key = some entry → entry.filter = filter
  slots : ∀ leaf, w.handle? 0 leaf = none ↔ leaf ∉ leaves
  dispatchers : ∀ leaf handle, w.handle? 0 leaf = some handle → handle.dispatcher = 0
  served : ∀ path, index.leavesAt filter path = leaves.filter (tree.waitsAt path)

namespace Lone

variable {leaves : List Nat}

/-- A tree that was just compiled is alone. -/
theorem compile {e : Expr} (hcompile : e.compile resolve = .ok tree) (filter : φ) :
    Lone ((new .empty).indexStep resolve (.basic (.compile e))).1 [] .empty tree filter [] := by
  have hstep : ((new (.empty : PredicateIndex φ)).indexStep resolve (.basic (.compile e))).1
      = ((new .empty).plant tree).1 := by
    rw [indexStep, step, hcompile]
  have hslot : ∀ leaf, ((new (.empty : PredicateIndex φ) : Workspace _ MatchSession).plant
      tree).1.handle? 0 leaf = none := by
    intro leaf
    rw [handle?_plant]
    rfl
  rw [hstep]
  refine ⟨sound_new.plant (Expr.numbered_of_compile hcompile), rfl, fun other found hfound => ?_,
    rfl, rfl, fun key entry hactive => ?_, fun leaf => ?_, fun leaf handle hhandle => ?_,
    fun path => rfl⟩
  · exact Nat.lt_one_iff.mp (lt_size_of_tree? hfound)
  · simp [active?, find?, empty] at hactive
  · rw [hslot]
    simp
  · rw [hslot] at hhandle
    simp at hhandle

/-- A leaf that is not subscribed is subscribed by a step, and served last on its path. -/
theorem subscribe (h : Lone w log index tree filter leaves)
    (hself : (filter == filter) = true) {id : Nat} (hid : (tree.leaf? id).isSome = true)
    (hfree : id ∉ leaves) (resolve : String → Option Path) :
    ∃ log index, Lone (w.indexStep resolve (.basic (.subscribe 0 (some id) filter 0))).1 log index
      tree filter (leaves ++ [id]) := by
  obtain ⟨next, hnext⟩ :=
    subscribe_of_free h.present h.planted hid ((h.slots id).mpr hfree) filter
  have hstep := indexStep_subscribe h.present h.planted hid filter resolve
  rw [hnext] at hstep
  have hsound := h.sound.indexStep resolve (.basic (.subscribe 0 (some id) filter 0))
  obtain ⟨given, found, leaf, hgiven, hfound, hleaf, hentered⟩ :=
    entered_of_subscribe h.sound.roomy hnext
  rw [(h.sound.numbered 0 found hfound).leaves id leaf hleaf] at hentered
  rw [h.present] at hgiven
  rw [h.planted] at hfound
  obtain rfl := Option.some.inj hgiven
  obtain rfl := Option.some.inj hfound
  have hc := (h.sound.indexes 0 index h.present).consistent
  have hinsert := active?_insert hc ⟨⟨filter, 0, id, leaf.path⟩, false⟩ rfl
  rw [hstep] at hsound ⊢
  refine ⟨_, _, hsound, (hentered.trees 0).trans h.planted, fun other found hfound => ?_,
    hentered.attempts.trans h.attempts, (hentered.dispatchers 0).trans (if_pos rfl),
    fun key entry hactive => ?_, fun other => ?_, fun other handle hslot => ?_, fun path => ?_⟩
  · exact h.single other found ((hentered.trees other).symm.trans hfound)
  · have hcases := (hinsert key).symm.trans hactive
    split at hcases
    · rw [← Option.some.inj hcases]
    · exact h.filters key entry hcases
  · rw [hentered.handles, List.mem_append, List.mem_singleton, not_or, ← h.slots]
    by_cases hother : other = id
    · simp [hother]
    · simp [hother]
  · rw [hentered.handles] at hslot
    split at hslot
    · rw [← Option.some.inj hslot]
    · exact h.dispatchers other handle hslot
  · have hserved := leavesAt_insert hc ⟨⟨filter, 0, id, leaf.path⟩, false⟩ rfl hself path
    refine hserved.trans ?_
    rw [h.served, List.filter_append, List.filter_singleton, Tree.waitsAt, hleaf, Option.any_some]
    by_cases hpath : path = leaf.path
    · rw [if_pos hpath, decide_eq_true hpath.symm, cond_true]
    · rw [if_neg hpath, decide_eq_false (Ne.symm hpath), cond_false, List.append_nil]

/-- Leaves of the tree are subscribed by steps, and served in the order of the steps. -/
theorem subscribeEach (h : Lone w log index tree filter leaves)
    (hself : (filter == filter) = true) (resolve : String → Option Path) {later : List Nat}
    (hleaves : ∀ id ∈ later, (tree.leaf? id).isSome = true) (hnodup : (leaves ++ later).Nodup) :
    ∃ log index, Lone (w.run resolve (later.map fun id => .basic (.subscribe 0 (some id) filter 0)))
      log index tree filter (leaves ++ later) := by
  induction later generalizing w log index leaves with
  | nil =>
    rw [List.append_nil]
    exact ⟨log, index, h⟩
  | cons id later ih =>
    have hfree : id ∉ leaves := fun hid =>
      (List.nodup_append.mp hnodup).2.2 id hid id List.mem_cons_self rfl
    obtain ⟨_, _, hnext⟩ := h.subscribe hself (hleaves id List.mem_cons_self) hfree resolve
    rw [List.append_cons] at hnodup ⊢
    exact ih hnext (fun other hother => hleaves other (List.mem_cons_of_mem _ hother)) hnodup

/-- A tree that is alone is wholly subscribed if all its leaves are subscribed. -/
theorem wholly (h : Lone w log index tree filter leaves) (hself : (filter == filter) = true)
    (hleaves : ∀ id, (tree.leaf? id).isSome = true → id ∈ leaves) :
    WhollySubscribed w 0 index 0 tree filter where
  planted := h.planted
  present := h.present
  leaves id hid := by
    obtain ⟨⟨number, key⟩, hslot⟩ : ∃ handle, w.handle? 0 id = some handle := by
      refine Option.ne_none_iff_exists'.mp fun hnone => ?_
      exact (h.slots id).mp hnone (hleaves id hid)
    obtain rfl : number = 0 := h.dispatchers id _ hslot
    obtain ⟨entry, hactive, _⟩ := (h.sound.active 0 index h.present 0 id key).mp hslot
    refine ⟨key, entry, hslot, hactive, ?_⟩
    rw [h.filters key entry hactive]
    exact hself
  own key entry hactive _ := by
    obtain ⟨found, _, hfound, _⟩ := h.sound.path 0 index h.present key entry hactive
    exact h.single _ found hfound

/-- An evaluation that is started is the first one. -/
theorem begin (h : Lone w log index tree filter leaves) (resolve : String → Option Path) :
    (w.indexStep resolve (.basic (.begin 0 (some 0)))).1
      = { w with attempts := #[some ⟨0, .new tree index.session⟩] } := by
  obtain ⟨planted, hplanted, rfl⟩ := Option.map_eq_some_iff.mp h.planted
  rw [indexStep, step, withTree, hplanted]
  dsimp only
  rw [withDispatcher, h.present]
  dsimp only
  rw [Workspace.begin, h.attempts]
  rfl

end Lone

/-- A tree that was subscribed leaf by leaf, and nothing else, is wholly subscribed, its leaves are
served in the order of the subscriptions, and an evaluation of it has begun. -/
theorem alone_served {e : Expr} (hcompile : e.compile resolve = .ok tree)
    (hself : (filter == filter) = true) {leaves : List Nat} (hleaves : leaves.Perm tree.leafIds) :
    let w := run resolve (alone e filter leaves) (.new .empty)
    ∃ log index session, Sound w log ∧ WhollySubscribed w 0 index 0 tree filter ∧
      w.attempt? 0 = some ⟨0, .new tree session⟩ ∧ (∀ key, session.isSuspended key = false) ∧
      ∀ path, index.leavesAt filter path = leaves.filter (tree.waitsAt path) := by
  have hnumbered := Expr.numbered_of_compile hcompile
  have hmem : ∀ {id}, id ∈ leaves ↔ (tree.leaf? id).isSome = true :=
    hleaves.mem_iff.trans hnumbered.mem_leafIds
  obtain ⟨log, index, hlone⟩ := (Lone.compile hcompile filter).subscribeEach hself resolve
    (fun _ => hmem.mp) (hleaves.nodup_iff.mpr hnumbered.nodup_leafIds)
  rw [List.nil_append] at hlone
  have hwholly := hlone.wholly hself fun _ => hmem.mpr
  dsimp only
  rw [alone, run, List.foldl_cons, List.foldl_append, List.foldl_cons, List.foldl_nil, ← run,
    hlone.begin]
  exact ⟨log, index, index.session, hlone.sound.of_attempts _,
    ⟨hwholly.planted, hwholly.present, hwholly.leaves, hwholly.own⟩, rfl,
    MatchSession.isSuspended_withCapacity _, hlone.served⟩

end Workspace

end Percolator
