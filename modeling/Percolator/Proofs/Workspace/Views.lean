import Percolator.Proofs.Tree.Layout
import Percolator.Workspace.Step

/-!
# Views of a workspace

A workspace is looked at through its trees, the subscriptions of their leaves and its dispatchers.
Main statements: what each change of a workspace does to these views. A subscription that is made
sets the slot of its leaf and no other; one that is given up clears the slot of its leaf and is
cancelled by its dispatcher.
-/

namespace Percolator.Workspace

variable {δ φ σ : Type}

/-- The tree with a number, without its subscriptions. -/
def tree? (w : Workspace δ σ) (tree : Nat) : Option Tree := (w.planted? tree).map Planted.tree

/-- Every tree has room for the subscriptions of its nodes. -/
def Roomy (w : Workspace δ σ) : Prop :=
  ∀ tree planted, w.planted? tree = some planted → planted.handles.size = planted.tree.size

/-- A tree with its subscriptions is a tree. -/
theorem tree?_of_planted? {w : Workspace δ σ} {tree : Nat} {planted : Planted}
    (h : w.planted? tree = some planted) : w.tree? tree = some planted.tree := by
  rw [tree?, h, Option.map_some]

/-- The numbers of trees are places in their row. -/
theorem lt_size_of_tree? {w : Workspace δ σ} {tree : Nat} {found : Tree}
    (h : w.tree? tree = some found) : tree < w.trees.size := by
  obtain ⟨_, hplanted, _⟩ := Option.map_eq_some_iff.mp h
  exact (Array.getElem?_eq_some_iff.mp (Option.join_eq_some_iff.mp hplanted)).1

/-- The trees after the slot of a leaf was set. -/
theorem planted?_setHandle (w : Workspace δ σ) (tree leaf : Nat) (handle : Option Handle)
    (other : Nat) : (w.setHandle tree leaf handle).planted? other
      = if other = tree then
          (w.planted? other).map fun planted =>
            { planted with handles := planted.handles.setIfInBounds leaf handle }
        else w.planted? other := by
  unfold setHandle planted?
  rw [Array.getElem?_modify]
  by_cases hother : other = tree
  · rw [if_pos hother, if_pos hother.symm]
    cases w.trees[other]? <;> rfl
  · rw [if_neg hother, if_neg (Ne.symm hother)]

/-- Setting the slot of a leaf keeps the trees. -/
@[simp] theorem tree?_setHandle (w : Workspace δ σ) (tree leaf : Nat) (handle : Option Handle)
    (other : Nat) : (w.setHandle tree leaf handle).tree? other = w.tree? other := by
  rw [tree?, planted?_setHandle, tree?]
  split
  · rw [Option.map_map]
    rfl
  · rfl

/-- Setting the slot of a leaf keeps the room for subscriptions. -/
theorem Roomy.setHandle {w : Workspace δ σ} (h : w.Roomy) (tree leaf : Nat)
    (handle : Option Handle) : (w.setHandle tree leaf handle).Roomy := by
  intro other planted hplanted
  rw [planted?_setHandle] at hplanted
  split at hplanted
  · obtain ⟨found, hfound, rfl⟩ := Option.map_eq_some_iff.mp hplanted
    rw [Array.size_setIfInBounds]
    exact h other found hfound
  · exact h other planted hplanted

/-- The slots after one of a leaf of a tree was set. -/
theorem handle?_setHandle {w : Workspace δ σ} {tree leaf : Nat} {planted : Planted}
    (hplanted : w.planted? tree = some planted) (hleaf : leaf < planted.handles.size)
    (handle : Option Handle) (tree' leaf' : Nat) :
    (w.setHandle tree leaf handle).handle? tree' leaf'
      = if tree' = tree ∧ leaf' = leaf then handle else w.handle? tree' leaf' := by
  rw [handle?, planted?_setHandle, handle?]
  by_cases htree : tree' = tree
  · rw [if_pos htree, htree, hplanted, Option.map_some, Option.bind_some, Option.bind_some,
      Array.getElem?_setIfInBounds]
    by_cases hsame : leaf' = leaf
    · rw [if_pos hsame.symm, if_pos hleaf, if_pos ⟨rfl, hsame⟩]
      rfl
    · rw [if_neg (Ne.symm hsame), if_neg fun h => hsame h.2]
  · rw [if_neg htree, if_neg fun h => htree h.1]

/-- A slot that is used belongs to a tree with room for it. -/
theorem planted?_of_handle? {w : Workspace δ σ} {tree leaf : Nat} {handle : Handle}
    (h : w.handle? tree leaf = some handle) :
    ∃ planted, w.planted? tree = some planted ∧ leaf < planted.handles.size := by
  obtain ⟨planted, hplanted, hslot⟩ := Option.bind_eq_some_iff.mp h
  refine ⟨planted, hplanted, ?_⟩
  rcases Nat.lt_or_ge leaf planted.handles.size with hlt | hge
  · exact hlt
  · rw [Array.getElem?_eq_none hge] at hslot
    simp at hslot

/-- The numbers of dispatchers are places in their row. -/
theorem lt_size_of_dispatcher? {w : Workspace δ σ} {number : Nat} {dispatcher : δ}
    (h : w.dispatcher? number = some dispatcher) : number < w.dispatchers.size :=
  (Array.getElem?_eq_some_iff.mp (Option.join_eq_some_iff.mp h)).1

/-- The dispatchers after one was replaced. -/
theorem dispatcher?_setDispatcher {w : Workspace δ σ} {number : Nat} {found : δ}
    (h : w.dispatcher? number = some found) (dispatcher : δ) (other : Nat) :
    (w.setDispatcher number dispatcher).dispatcher? other
      = if other = number then some dispatcher else w.dispatcher? other := by
  rw [dispatcher?, setDispatcher, Array.getElem?_setIfInBounds, dispatcher?]
  by_cases hother : other = number
  · rw [if_pos hother, if_pos hother.symm, if_pos (lt_size_of_dispatcher? h)]
    rfl
  · rw [if_neg hother, if_neg (Ne.symm hother)]

/-- The dispatchers after one was dropped. -/
theorem dispatcher?_dropDispatcher (w : Workspace δ σ) (number other : Nat) :
    (w.dropDispatcher number).dispatcher? other
      = if other = number then none else w.dispatcher? other := by
  rw [dispatcher?, dropDispatcher, Array.getElem?_setIfInBounds, dispatcher?]
  by_cases hother : other = number
  · rw [if_pos hother, if_pos hother.symm]
    split <;> rfl
  · rw [if_neg hother, if_neg (Ne.symm hother)]

/-- The dispatchers after one was added. -/
theorem dispatcher?_addDispatcher (w : Workspace δ σ) (dispatcher : δ) (other : Nat) :
    (w.addDispatcher dispatcher).1.dispatcher? other
      = if other = w.dispatchers.size then some dispatcher else w.dispatcher? other := by
  rw [dispatcher?, addDispatcher, Array.getElem?_push, dispatcher?]
  split <;> rfl

/-- The trees after one was added. -/
theorem planted?_plant (w : Workspace δ σ) (tree : Tree) (other : Nat) :
    (w.plant tree).1.planted? other
      = if other = w.trees.size then some ⟨tree, Array.replicate tree.size none⟩
        else w.planted? other := by
  rw [planted?, plant, Array.getElem?_push, planted?]
  split <;> rfl

/-- No leaf of a tree that was just added is subscribed. -/
@[simp] theorem handle?_plant (w : Workspace δ σ) (tree : Tree) (other leaf : Nat) :
    (w.plant tree).1.handle? other leaf = w.handle? other leaf := by
  rw [handle?, planted?_plant, handle?]
  split
  · rename_i hother
    rw [planted?, Array.getElem?_eq_none (by omega), Option.bind_some, Array.getElem?_replicate]
    split <;> rfl
  · rfl

/-- A tree that is added has room for its subscriptions. -/
theorem Roomy.plant {w : Workspace δ σ} (h : w.Roomy) (tree : Tree) : (w.plant tree).1.Roomy := by
  intro other planted hplanted
  rw [planted?_plant] at hplanted
  split at hplanted
  · rw [← Option.some.inj hplanted]
    exact Array.size_replicate
  · exact h other planted hplanted

section Subscriptions

variable [Dispatcher δ φ σ]

/-- Cancelling a subscription keeps the trees. -/
@[simp] theorem planted?_cancel (w : Workspace δ σ) (handle : Handle) (tree : Nat) :
    (w.cancel handle).planted? tree = w.planted? tree := by
  unfold cancel
  split <;> rfl

/-- A subscription is cancelled by its dispatcher, if that is still there. -/
theorem dispatcher?_cancel (w : Workspace δ σ) (handle : Handle) (other : Nat) :
    (w.cancel handle).dispatcher? other
      = if other = handle.dispatcher then
          (w.dispatcher? other).map fun dispatcher => Dispatcher.cancel dispatcher handle.key
        else w.dispatcher? other := by
  unfold cancel
  split
  · rename_i hnone
    split
    · rename_i hother
      rw [hother, hnone]
      rfl
    · rfl
  · rename_i dispatcher hsome
    rw [dispatcher?_setDispatcher hsome]
    split
    · rename_i hother
      rw [hother, hsome]
      rfl
    · rfl

/-- Giving up the subscription of a leaf keeps the trees. -/
@[simp] theorem tree?_unsubscribe (w : Workspace δ σ) (tree leaf other : Nat) :
    (w.unsubscribe tree leaf).tree? other = w.tree? other := by
  unfold unsubscribe
  split
  · rfl
  · rw [tree?, planted?_cancel]
    exact tree?_setHandle w tree leaf none other

/-- Giving up the subscription of a leaf keeps the room for subscriptions. -/
theorem Roomy.unsubscribe {w : Workspace δ σ} (h : w.Roomy) (tree leaf : Nat) :
    (w.unsubscribe tree leaf).Roomy := by
  unfold Workspace.unsubscribe
  split
  · exact h
  · intro other planted hplanted
    rw [planted?_cancel] at hplanted
    exact h.setHandle tree leaf none other planted hplanted

/-- Giving up the subscription of a leaf keeps the number of dispatchers. -/
@[simp] theorem size_dispatchers_unsubscribe (w : Workspace δ σ) (tree leaf : Nat) :
    (w.unsubscribe tree leaf).dispatchers.size = w.dispatchers.size := by
  unfold unsubscribe
  split
  · rfl
  · unfold cancel
    split
    · rfl
    · rw [setDispatcher, Array.size_setIfInBounds]
      rfl

/-- Giving up the subscription of a leaf keeps the evaluations. -/
@[simp] theorem attempts_unsubscribe (w : Workspace δ σ) (tree leaf : Nat) :
    (w.unsubscribe tree leaf).attempts = w.attempts := by
  unfold unsubscribe
  split
  · rfl
  · unfold cancel
    split <;> rfl

/-- Giving up the subscription of a leaf clears its slot and no other. -/
theorem handle?_unsubscribe (w : Workspace δ σ) (tree leaf tree' leaf' : Nat) :
    (w.unsubscribe tree leaf).handle? tree' leaf'
      = if tree' = tree ∧ leaf' = leaf then none else w.handle? tree' leaf' := by
  unfold unsubscribe
  split
  · rename_i hnone
    split
    · rename_i hsame
      rw [hsame.1, hsame.2, hnone]
    · rfl
  · rename_i handle hsome
    obtain ⟨planted, hplanted, hlt⟩ := planted?_of_handle? hsome
    rw [handle?, planted?_cancel]
    exact handle?_setHandle hplanted hlt none tree' leaf'

/-- A leaf without a subscription has none to give up. -/
theorem unsubscribe_of_handle?_eq_none {w : Workspace δ σ} {tree leaf : Nat}
    (h : w.handle? tree leaf = none) : w.unsubscribe tree leaf = w := by
  rw [unsubscribe, h]

/-- Giving up the subscription of a leaf cancels it and no other. -/
theorem dispatcher?_unsubscribe {w : Workspace δ σ} {tree leaf : Nat} {handle : Handle}
    (h : w.handle? tree leaf = some handle) (other : Nat) :
    (w.unsubscribe tree leaf).dispatcher? other
      = if other = handle.dispatcher then
          (w.dispatcher? other).map fun dispatcher => Dispatcher.cancel dispatcher handle.key
        else w.dispatcher? other := by
  rw [unsubscribe, h]
  exact dispatcher?_cancel _ _ _

/-- A leaf without a subscription was given one, which changed the dispatcher of the subscription and
nothing else. -/
structure Entered (w next : Workspace δ σ) (tree leaf : Nat) (handle : Handle) (dispatcher : δ) :
    Prop where
  free : w.handle? tree leaf = none
  handles : ∀ tree' leaf', next.handle? tree' leaf'
    = if tree' = tree ∧ leaf' = leaf then some handle else w.handle? tree' leaf'
  trees : ∀ other, next.tree? other = w.tree? other
  dispatchers : ∀ other, next.dispatcher? other
    = if other = handle.dispatcher then some dispatcher else w.dispatcher? other
  size : next.dispatchers.size = w.dispatchers.size
  attempts : next.attempts = w.attempts
  roomy : next.Roomy

/-- A leaf that is subscribed is entered by the dispatcher. -/
theorem entered_of_subscribe {w next : Workspace δ σ} (hroomy : w.Roomy) {number tree id : Nat}
    {filter : φ} (h : w.subscribe number filter tree id = (next, .ok ())) :
    ∃ dispatcher found leaf, w.dispatcher? number = some dispatcher ∧
      w.tree? tree = some found ∧ found.leaf? id = some leaf ∧
      Entered w next tree id
        ⟨number, (Dispatcher.subscribe dispatcher ⟨filter, tree, leaf.id, leaf.path⟩).2⟩
        (Dispatcher.subscribe dispatcher ⟨filter, tree, leaf.id, leaf.path⟩).1 := by
  unfold subscribe at h
  split at h
  · rename_i dispatcher leaf hdispatcher hfound
    obtain ⟨planted, hplanted, hleaf⟩ := Option.bind_eq_some_iff.mp hfound
    split at h
    · simp at h
    · rename_i hfree
      rw [Option.not_isSome_iff_eq_none] at hfree
      have hnext := (Prod.mk.inj h).1.symm
      have hroom : id < planted.handles.size := by
        rw [hroomy tree planted hplanted]
        exact Tree.lt_size_of_leaf? hleaf
      refine ⟨dispatcher, planted.tree, leaf, hdispatcher, tree?_of_planted? hplanted, hleaf, hfree,
        fun tree' leaf' => ?_, fun other => ?_, fun other => ?_, ?_, ?_, ?_⟩
      · rw [hnext]
        exact handle?_setHandle hplanted hroom _ tree' leaf'
      · rw [hnext, tree?_setHandle]
        rfl
      · rw [hnext]
        exact dispatcher?_setDispatcher hdispatcher _ other
      · rw [hnext]
        exact Array.size_setIfInBounds
      · rw [hnext]
        rfl
      · rw [hnext]
        exact Roomy.setHandle (fun other found hother => hroomy other found hother) tree id _
  · simp at h

/-- A leaf without a subscription can be subscribed. -/
theorem subscribe_of_free {w : Workspace δ σ} {number tree id : Nat} {dispatcher : δ} {found : Tree}
    (hdispatcher : w.dispatcher? number = some dispatcher) (htree : w.tree? tree = some found)
    (hid : (found.leaf? id).isSome = true) (hfree : w.handle? tree id = none) (filter : φ) :
    ∃ next, w.subscribe number filter tree id = (next, .ok ()) := by
  obtain ⟨planted, hplanted, rfl⟩ := Option.map_eq_some_iff.mp htree
  obtain ⟨leaf, hleaf⟩ := Option.isSome_iff_exists.mp hid
  rw [subscribe, hdispatcher, hplanted, Option.bind_some, hleaf]
  dsimp only
  rw [hfree, Option.isSome_none, if_neg Bool.false_ne_true]
  exact ⟨_, rfl⟩

/-- A leaf that is not subscribed leaves the workspace as it is. -/
theorem subscribe_eq_error {w next : Workspace δ σ} {number tree id : Nat} {filter : φ}
    {failure : Failure} (h : w.subscribe number filter tree id = (next, .error failure)) :
    next = w := by
  unfold subscribe at h
  split at h
  · split at h
    · exact (Prod.mk.inj h).1.symm
    · simp at h
  · exact (Prod.mk.inj h).1.symm

/-- Subscribing a single leaf of a list is subscribing the leaf. -/
theorem subscribeAll_singleton (w : Workspace δ σ) (number : Nat) (filter : φ) (tree leaf : Nat) :
    (w.subscribeAll number filter tree [leaf]).1 = (w.subscribe number filter tree leaf).1 := by
  rw [subscribeAll]
  split
  · rename_i hs
    rw [hs]
    rfl
  · rfl

/-- Subscribing leaves one after the other keeps what subscribing one of them keeps. -/
theorem subscribeAll_induct {P : Workspace δ σ → Prop} {w : Workspace δ σ} (hroomy : w.Roomy)
    {number tree : Nat} (filter : φ) (leaves : List Nat) (h : P w)
    (hstep : ∀ {before next : Workspace δ σ} {leaf : Nat} {handle : Handle} {dispatcher : δ},
      handle.dispatcher = number → Entered before next tree leaf handle dispatcher → P before →
      P next) : P (w.subscribeAll number filter tree leaves).1 := by
  induction leaves generalizing w with
  | nil => exact h
  | cons leaf leaves ih =>
    rw [subscribeAll]
    rcases hs : w.subscribe number filter tree leaf with ⟨next, failure | _⟩
    · rw [subscribe_eq_error hs]
      exact h
    · obtain ⟨_, _, _, _, _, _, hentered⟩ := entered_of_subscribe hroomy hs
      exact ih hentered.roomy (hstep rfl hentered h)

/-- Subscribing leaves keeps the evaluations. -/
theorem attempts_subscribeAll {w : Workspace δ σ} (hroomy : w.Roomy) (number : Nat) (filter : φ)
    (tree : Nat) (leaves : List Nat) :
    (w.subscribeAll number filter tree leaves).1.attempts = w.attempts :=
  subscribeAll_induct (P := fun next => next.attempts = w.attempts) hroomy filter leaves rfl
    fun _ hentered hbefore => hentered.attempts.trans hbefore

/-- Subscribing leaves keeps the trees. -/
theorem tree?_subscribeAll {w : Workspace δ σ} (hroomy : w.Roomy) (number : Nat) (filter : φ)
    (tree : Nat) (leaves : List Nat) (other : Nat) :
    (w.subscribeAll number filter tree leaves).1.tree? other = w.tree? other :=
  subscribeAll_induct (P := fun next => next.tree? other = w.tree? other) hroomy filter leaves rfl
    fun _ hentered hbefore => (hentered.trees other).trans hbefore

/-- Subscribing leaves keeps the dispatchers that are there. -/
theorem dispatcher?_subscribeAll {w : Workspace δ σ} (hroomy : w.Roomy) (number : Nat) (filter : φ)
    (tree : Nat) (leaves : List Nat) {other : Nat} {dispatcher : δ}
    (h : w.dispatcher? other = some dispatcher) :
    ∃ later, (w.subscribeAll number filter tree leaves).1.dispatcher? other = some later := by
  refine subscribeAll_induct (P := fun next => ∃ later, next.dispatcher? other = some later) hroomy
    filter leaves ⟨dispatcher, h⟩ fun _ hentered hbefore => ?_
  rw [hentered.dispatchers]
  split
  · exact ⟨_, rfl⟩
  · exact hbefore

/-- Leaves that are subscribed together had no subscription before and get one of the dispatcher. -/
theorem handle?_of_subscribeAll {w : Workspace δ σ} (hroomy : w.Roomy) (number : Nat) (filter : φ)
    (tree : Nat) (leaves : List Nat) {tree' leaf' : Nat} {handle : Handle}
    (h : (w.subscribeAll number filter tree leaves).1.handle? tree' leaf' = some handle) :
    w.handle? tree' leaf' = some handle ∨
      (w.handle? tree' leaf' = none ∧ handle.dispatcher = number) := by
  induction leaves generalizing w with
  | nil => exact .inl h
  | cons leaf leaves ih =>
    rw [subscribeAll] at h
    rcases hs : w.subscribe number filter tree leaf with ⟨next, failure | _⟩
    · rw [hs, subscribe_eq_error hs] at h
      exact .inl h
    · obtain ⟨_, _, _, _, _, _, hentered⟩ := entered_of_subscribe hroomy hs
      rw [hs] at h
      have hlater := ih hentered.roomy h
      rw [hentered.handles] at hlater
      split at hlater
      · rename_i hsame
        rw [hsame.1, hsame.2]
        rcases hlater with hnew | ⟨hnone, _⟩
        · exact .inr ⟨hentered.free, by rw [← Option.some.inj hnew]⟩
        · simp at hnone
      · exact hlater

/-- Giving up the subscriptions of leaves keeps the evaluations. -/
@[simp] theorem attempts_unsubscribeAll (w : Workspace δ σ) (tree : Nat) (leaves : List Nat) :
    (w.unsubscribeAll tree leaves).attempts = w.attempts := by
  unfold unsubscribeAll
  induction leaves generalizing w with
  | nil => rfl
  | cons leaf leaves ih => rw [List.foldl_cons, ih, attempts_unsubscribe]

/-- Giving up the subscriptions of leaves keeps the trees. -/
@[simp] theorem tree?_unsubscribeAll (w : Workspace δ σ) (tree : Nat) (leaves : List Nat)
    (other : Nat) : (w.unsubscribeAll tree leaves).tree? other = w.tree? other := by
  unfold unsubscribeAll
  induction leaves generalizing w with
  | nil => rfl
  | cons leaf leaves ih => rw [List.foldl_cons, ih, tree?_unsubscribe]

/-- Giving up the subscriptions of leaves clears their slots and no others. -/
theorem handle?_unsubscribeAll (w : Workspace δ σ) (tree : Nat) (leaves : List Nat)
    (tree' leaf' : Nat) : (w.unsubscribeAll tree leaves).handle? tree' leaf'
      = if tree' = tree ∧ leaf' ∈ leaves then none else w.handle? tree' leaf' := by
  unfold unsubscribeAll
  induction leaves generalizing w with
  | nil => simp
  | cons leaf leaves ih =>
    rw [List.foldl_cons, ih, handle?_unsubscribe]
    by_cases htree : tree' = tree
    · by_cases hleaf : leaf' = leaf
      · simp [htree, hleaf]
      · simp [htree, hleaf]
    · simp [htree]

end Subscriptions

/-- The trees after one was removed. -/
theorem planted?_remove (w : Workspace δ σ) (tree : Nat) (attempts : Array (Option (Attempt σ)))
    (other : Nat) :
    ({ w with trees := w.trees.setIfInBounds tree none, attempts } : Workspace δ σ).planted? other
      = if other = tree then none else w.planted? other := by
  rw [planted?, Array.getElem?_setIfInBounds, planted?]
  by_cases hother : other = tree
  · rw [if_pos hother, if_pos hother.symm]
    split <;> rfl
  · rw [if_neg hother, if_neg (Ne.symm hother)]

/-- The trees after one was dropped. -/
theorem tree?_drop [Dispatcher δ φ σ] (w : Workspace δ σ) (tree : Nat) (leaves : List Nat)
    (other : Nat) :
    (w.drop tree leaves).tree? other = if other = tree then none else w.tree? other := by
  rw [Workspace.drop, tree?, planted?_remove]
  split
  · rfl
  · exact tree?_unsubscribeAll w tree leaves other

/-- Dropping a tree gives no leaf a subscription. -/
theorem handle?_of_drop [Dispatcher δ φ σ] {w : Workspace δ σ} {tree : Nat} {leaves : List Nat}
    {tree' leaf' : Nat} {handle : Handle}
    (h : (w.drop tree leaves).handle? tree' leaf' = some handle) :
    w.handle? tree' leaf' = some handle := by
  rw [drop, handle?, planted?_remove] at h
  split at h
  · simp at h
  · have hslot : (w.unsubscribeAll tree leaves).handle? tree' leaf' = some handle := h
    rw [handle?_unsubscribeAll] at hslot
    split at hslot
    · simp at hslot
    · exact hslot

/-- The evaluations after one was replaced. -/
theorem attempt?_of_setAttempt {w : Workspace δ σ} {number other : Nat} {attempt found : Attempt σ}
    (h : (w.setAttempt number attempt).attempt? other = some found) :
    found = attempt ∨ w.attempt? other = some found := by
  rw [attempt?, setAttempt, Array.getElem?_setIfInBounds] at h
  split at h
  · split at h
    · exact .inl (Option.some.inj h).symm
    · simp at h
  · exact .inr h

/-- The evaluations after one was started. -/
theorem attempt?_of_begin {w : Workspace δ σ} {number other : Nat} {tree : Tree} {session : σ}
    {found : Attempt σ} (h : (w.begin number tree session).1.attempt? other = some found) :
    found = ⟨number, .new tree session⟩ ∨ w.attempt? other = some found := by
  rw [attempt?, begin, Array.getElem?_push] at h
  split at h
  · exact .inl (Option.some.inj h).symm
  · exact .inr h

/-- The numbers of evaluations are places in their row. -/
theorem lt_size_of_attempt? {w : Workspace δ σ} {number : Nat} {attempt : Attempt σ}
    (h : w.attempt? number = some attempt) : number < w.attempts.size :=
  (Array.getElem?_eq_some_iff.mp (Option.join_eq_some_iff.mp h)).1

/-- An evaluation that is replaced is the new one. -/
theorem attempt?_setAttempt {w : Workspace δ σ} {number : Nat} {found : Attempt σ}
    (h : w.attempt? number = some found) (attempt : Attempt σ) :
    (w.setAttempt number attempt).attempt? number = some attempt := by
  rw [attempt?, setAttempt, Array.getElem?_setIfInBounds_self_of_lt (lt_size_of_attempt? h)]
  rfl

/-- Replacing an evaluation by itself changes nothing. -/
theorem setAttempt_self {w : Workspace δ σ} {number : Nat} {attempt : Attempt σ}
    (h : w.attempt? number = some attempt) : w.setAttempt number attempt = w := by
  have hsame : w.attempts.setIfInBounds number (some attempt) = w.attempts := by
    refine Array.ext_getElem? fun other => ?_
    rw [Array.getElem?_setIfInBounds]
    split
    · rename_i heq
      subst heq
      rw [if_pos (lt_size_of_attempt? h)]
      exact (Option.join_eq_some_iff.mp h).symm
    · rfl
  rw [setAttempt, hsame]

/-- Replacing an evaluation leaves the others alone. -/
theorem attempt?_setAttempt_of_ne (w : Workspace δ σ) {number other : Nat} (h : other ≠ number)
    (attempt : Attempt σ) : (w.setAttempt number attempt).attempt? other = w.attempt? other := by
  rw [attempt?, setAttempt, Array.getElem?_setIfInBounds_ne (Ne.symm h), attempt?]

/-- Starting an evaluation leaves the others alone. -/
theorem attempt?_begin {w : Workspace δ σ} {other : Nat} {found : Attempt σ}
    (h : w.attempt? other = some found) (number : Nat) (tree : Tree) (session : σ) :
    (w.begin number tree session).1.attempt? other = some found := by
  rw [attempt?, begin, Array.getElem?_push, if_neg (Nat.ne_of_lt (lt_size_of_attempt? h))]
  exact h

/-- The evaluations that are left after a tree was dropped are those of other trees. -/
theorem attempt?_of_drop [Dispatcher δ φ σ] {w : Workspace δ σ} {tree : Nat} {leaves : List Nat}
    {number : Nat} {found : Attempt σ} (h : (w.drop tree leaves).attempt? number = some found) :
    w.attempt? number = some found ∧ found.tree ≠ tree := by
  rw [attempt?, Workspace.drop, Array.getElem?_map, attempts_unsubscribeAll,
    Option.join_eq_some_iff, Option.map_eq_some_iff] at h
  obtain ⟨slot, hslot, hfilter⟩ := h
  obtain ⟨rfl, htree⟩ := Option.filter_eq_some_iff.mp hfilter
  refine ⟨?_, bne_iff_ne.mp htree⟩
  rw [attempt?, hslot]
  rfl

/-- Dropping a tree leaves the evaluations of other trees alone. -/
theorem attempt?_drop [Dispatcher δ φ σ] {w : Workspace δ σ} {number : Nat} {found : Attempt σ}
    (h : w.attempt? number = some found) {tree : Nat} (htree : found.tree ≠ tree)
    (leaves : List Nat) : (w.drop tree leaves).attempt? number = some found := by
  rw [attempt?, Option.join_eq_some_iff] at h
  rw [attempt?, Workspace.drop, Array.getElem?_map, attempts_unsubscribeAll, h, Option.map_some,
    Option.filter_some, if_pos (bne_iff_ne.mpr htree)]
  rfl

end Percolator.Workspace
