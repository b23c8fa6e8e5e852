import Mathlib.Data.List.Basic
import Percolator.Proofs.Index.History
import Percolator.Proofs.Workspace.Moves

/-!
# The subscriptions of a workspace with indexes

The leaves of trees refer to subscriptions of indexes, and the subscriptions refer to leaves. A
workspace is sound if the two agree, and if every index is faithful to the subscriptions that were
made with it so far. Main statements: every change of a workspace keeps it sound, so do steps, which
are made of such changes, and every workspace that steps lead to is sound.
-/

namespace Percolator.Workspace

open PredicateIndex

variable {φ : Type}

/-- The subscriptions in a log that were made with an index, with their keys. -/
def history (log : List (Handle × φ)) (number : Nat) : List (Nat × φ) :=
  log.filterMap fun made =>
    if made.1.dispatcher = number then some (made.1.key, made.2) else none

/-- A subscription made with an index is part of its history, and of no other. -/
theorem history_cons (handle : Handle) (filter : φ) (log : List (Handle × φ)) (number : Nat) :
    history ((handle, filter) :: log) number
      = if handle.dispatcher = number then (handle.key, filter) :: history log number
        else history log number := by
  rw [history, List.filterMap_cons]
  by_cases h : handle.dispatcher = number
  · rw [if_pos h, if_pos h]
    rfl
  · rw [if_neg h, if_neg h]
    rfl

/-- The subscriptions that leaves of a tree have in a workspace and did not have in an earlier one, in
the reverse order of the leaves. -/
def gained {δ σ : Type} (before after : Workspace δ σ) (tree : Nat) (leaves : List Nat) :
    List Handle :=
  (leaves.filterMap fun leaf =>
    if (before.handle? tree leaf).isSome then none else after.handle? tree leaf).reverse

/-- A workspace gains nothing if the slots stay as they are. -/
theorem gained_eq_nil {δ σ : Type} {before after : Workspace δ σ}
    (h : ∀ tree leaf, after.handle? tree leaf = before.handle? tree leaf) (tree : Nat)
    (leaves : List Nat) : before.gained after tree leaves = [] := by
  rw [gained, List.reverse_eq_nil_iff, List.filterMap_eq_nil_iff]
  intro leaf _
  rw [h]
  cases before.handle? tree leaf <;> rfl

/-- The subscriptions that a step made on the way from one workspace to another, the newest first:
leaves are subscribed in their order, each with the filter of the step. -/
def made (before after : Workspace (PredicateIndex φ) MatchSession) :
    IndexStep φ → List (Handle × φ)
  | .basic (.subscribe tree none filter _) =>
    (before.gained after tree ((before.tree? tree).elim [] Tree.leafIds)).map (·, filter)
  | .basic (.subscribe tree (some leaf) filter _) =>
    (before.gained after tree [leaf]).map (·, filter)
  | _ => []

/-- A step that keeps the slots as they are made no subscription. -/
theorem made_eq_nil {before after : Workspace (PredicateIndex φ) MatchSession}
    (h : ∀ tree leaf, after.handle? tree leaf = before.handle? tree leaf) (step : IndexStep φ) :
    made before after step = [] := by
  unfold made
  split
  · rw [gained_eq_nil h, List.map_nil]
  · rw [gained_eq_nil h, List.map_nil]
  · rfl

/-- The subscriptions that leaves refer to are the active ones of the indexes, and the indexes are
faithful to the subscriptions made. -/
structure Sound (w : Workspace (PredicateIndex φ) MatchSession) (log : List (Handle × φ)) :
    Prop where
  roomy : w.Roomy
  numbered : ∀ tree found, w.tree? tree = some found → found.Numbered
  indexes : ∀ number index, w.dispatcher? number = some index →
    index.Faithful (history log number)
  /-- Only leaves are subscribed, and only with indexes that are or were there. -/
  subscribed : ∀ tree leaf handle, w.handle? tree leaf = some handle →
    handle.dispatcher < w.dispatchers.size ∧
      ∃ found, w.tree? tree = some found ∧ (found.leaf? leaf).isSome = true
  /-- A leaf refers to a subscription exactly if that is active and refers to the leaf. -/
  active : ∀ number index, w.dispatcher? number = some index → ∀ tree leaf key,
    w.handle? tree leaf = some ⟨number, key⟩ ↔
      ∃ entry, index.active? key = some entry ∧ entry.tree = tree ∧ entry.leaf = leaf
  /-- An active subscription is to the path of its leaf. -/
  path : ∀ number index, w.dispatcher? number = some index → ∀ key entry,
    index.active? key = some entry → ∃ found leaf, w.tree? entry.tree = some found ∧
      found.leaf? entry.leaf = some leaf ∧ leaf.path = entry.path

/-- A workspace with an index and nothing else is sound. -/
theorem sound_new : Sound (.new (.empty : PredicateIndex φ)) [] := by
  have htree : ∀ tree, (Workspace.new (.empty : PredicateIndex φ) :
      Workspace _ MatchSession).planted? tree = none := by
    intro tree
    simp [planted?, new]
  have hhandle : ∀ tree leaf, (Workspace.new (.empty : PredicateIndex φ) :
      Workspace _ MatchSession).handle? tree leaf = none := by
    intro tree leaf
    rw [handle?, htree, Option.bind_none]
  have hindex : ∀ number index, (Workspace.new (.empty : PredicateIndex φ) :
      Workspace _ MatchSession).dispatcher? number = some index → index = .empty := by
    intro number index h
    cases number with
    | zero => simpa [dispatcher?, new] using h.symm
    | succ number => simp [dispatcher?, new] at h
  constructor
  · intro tree planted h
    simp [htree] at h
  · intro tree found h
    simp [tree?, htree] at h
  · intro number index h
    rw [hindex number index h]
    exact faithful_empty _
  · intro tree leaf handle h
    simp [hhandle] at h
  · intro number index h tree leaf key
    rw [hindex number index h, hhandle]
    simp [active?, find?, empty]
  · intro number index h key entry hentry
    rw [hindex number index h] at hentry
    simp [active?, find?, empty] at hentry

namespace Sound

variable {w next : Workspace (PredicateIndex φ) MatchSession} {log : List (Handle × φ)}

/-- Whether a workspace is sound does not depend on its evaluations. -/
theorem of_attempts (h : Sound w log) (attempts : Array (Option (Attempt MatchSession))) :
    Sound { w with attempts } log :=
  ⟨h.roomy, h.numbered, h.indexes, h.subscribed, h.active, h.path⟩

/-- Adding a compiled tree keeps a workspace sound. -/
theorem plant (h : Sound w log) {tree : Tree} (htree : tree.Numbered) :
    Sound (w.plant tree).1 log := by
  have hkept : ∀ other found, w.tree? other = some found →
      (w.plant tree).1.tree? other = some found := by
    intro other found hfound
    have hne : other ≠ w.trees.size := by
      intro heq
      subst heq
      simp [tree?, planted?] at hfound
    rw [tree?, planted?_plant, if_neg hne]
    exact hfound
  refine ⟨h.roomy.plant tree, fun other found hfound => ?_, h.indexes,
    fun other leaf handle hhandle => ?_, fun number index hindex other leaf key => ?_,
    fun number index hindex key entry hentry => ?_⟩
  · rw [tree?, planted?_plant] at hfound
    split at hfound
    · rw [Option.map_some] at hfound
      exact Option.some.inj hfound ▸ htree
    · exact h.numbered other found hfound
  · rw [handle?_plant] at hhandle
    obtain ⟨hlt, found, hfound, hleaf⟩ := h.subscribed other leaf handle hhandle
    exact ⟨hlt, found, hkept other found hfound, hleaf⟩
  · rw [handle?_plant]
    exact h.active number index hindex other leaf key
  · obtain ⟨found, leaf, hfound, hrest⟩ := h.path number index hindex key entry hentry
    exact ⟨found, leaf, hkept _ _ hfound, hrest⟩

/-- Adding an index keeps a workspace sound. -/
theorem addDispatcher (h : Sound w log) : Sound (w.addDispatcher .empty).1 log := by
  have hcases : ∀ number index, (w.addDispatcher .empty).1.dispatcher? number = some index →
      (number = w.dispatchers.size ∧ index = .empty) ∨ w.dispatcher? number = some index := by
    intro number index hindex
    rw [dispatcher?_addDispatcher] at hindex
    split at hindex
    · rename_i hnumber
      exact .inl ⟨hnumber, (Option.some.inj hindex).symm⟩
    · exact .inr hindex
  refine ⟨h.roomy, h.numbered, fun number index hindex => ?_, fun tree leaf handle hhandle => ?_,
    fun number index hindex tree leaf key => ?_, fun number index hindex key entry hentry => ?_⟩
  · rcases hcases number index hindex with ⟨_, rfl⟩ | hold
    · exact faithful_empty _
    · exact h.indexes number index hold
  · obtain ⟨hlt, hleaf⟩ := h.subscribed tree leaf handle hhandle
    refine ⟨?_, hleaf⟩
    rw [Workspace.addDispatcher, Array.size_push]
    omega
  · rcases hcases number index hindex with ⟨hnumber, rfl⟩ | hold
    · constructor
      · intro hhandle
        have hlt := (h.subscribed tree leaf _ hhandle).1
        dsimp only at hlt
        omega
      · intro hparts
        rcases hparts with ⟨entry, hentry, _⟩
        simp [active?, find?, empty] at hentry
    · exact h.active number index hold tree leaf key
  · rcases hcases number index hindex with ⟨_, rfl⟩ | hold
    · simp [active?, find?, empty] at hentry
    · exact h.path number index hold key entry hentry

/-- Dropping an index keeps a workspace sound. -/
theorem dropDispatcher (h : Sound w log) (dropped : Nat) : Sound (w.dropDispatcher dropped) log := by
  have hold : ∀ number index, (w.dropDispatcher dropped).dispatcher? number = some index →
      w.dispatcher? number = some index := by
    intro number index hindex
    rw [dispatcher?_dropDispatcher] at hindex
    split at hindex
    · simp at hindex
    · exact hindex
  refine ⟨h.roomy, h.numbered, fun number index hindex => h.indexes number index (hold _ _ hindex),
    fun tree leaf handle hhandle => ?_,
    fun number index hindex => h.active number index (hold _ _ hindex),
    fun number index hindex => h.path number index (hold _ _ hindex)⟩
  rw [Workspace.dropDispatcher, Array.size_setIfInBounds]
  exact h.subscribed tree leaf handle hhandle

/-- Purging an index keeps a workspace sound. -/
theorem purge (h : Sound w log) {purged : Nat} {index : PredicateIndex φ}
    (hindex : w.dispatcher? purged = some index) :
    Sound (w.setDispatcher purged index.purge) log := by
  have hold : ∀ number index', (w.setDispatcher purged index.purge).dispatcher? number = some index'
      → ∃ before, w.dispatcher? number = some before ∧
        (∀ key, index'.active? key = before.active? key) ∧
        (before.Faithful (history log number) → index'.Faithful (history log number)) := by
    intro number index' hindex'
    rw [dispatcher?_setDispatcher hindex] at hindex'
    split at hindex'
    · rename_i hnumber
      obtain rfl := Option.some.inj hindex'
      exact ⟨index, hnumber ▸ hindex, active?_purge index, Faithful.purge⟩
    · exact ⟨index', hindex', fun _ => rfl, id⟩
  refine ⟨h.roomy, h.numbered, fun number index' hindex' => ?_, fun tree leaf handle hhandle => ?_,
    fun number index' hindex' tree leaf key => ?_, fun number index' hindex' key entry hentry => ?_⟩
  · obtain ⟨before, hbefore, _, hfaithful⟩ := hold number index' hindex'
    exact hfaithful (h.indexes number before hbefore)
  · rw [setDispatcher, Array.size_setIfInBounds]
    exact h.subscribed tree leaf handle hhandle
  · obtain ⟨before, hbefore, hactive, _⟩ := hold number index' hindex'
    rw [hactive]
    exact h.active number before hbefore tree leaf key
  · obtain ⟨before, hbefore, hactive, _⟩ := hold number index' hindex'
    rw [hactive] at hentry
    exact h.path number before hbefore key entry hentry

/-- Giving up the subscription of a leaf keeps a workspace sound. -/
theorem unsubscribe (h : Sound w log) (given leaf : Nat) :
    Sound (w.unsubscribe given leaf) log := by
  cases hslot : w.handle? given leaf with
  | none =>
    rw [unsubscribe_of_handle?_eq_none hslot]
    exact h
  | some handle =>
    have hold : ∀ number index',
        (w.unsubscribe given leaf).dispatcher? number = some index' →
        ∃ before, w.dispatcher? number = some before ∧
          (before.Faithful (history log number) → index'.Faithful (history log number)) ∧
          ∀ key, index'.active? key
            = if handle = ⟨number, key⟩ then none else before.active? key := by
      intro number index' hindex'
      rw [dispatcher?_unsubscribe hslot] at hindex'
      split at hindex'
      · rename_i hnumber
        obtain ⟨before, hbefore, rfl⟩ := Option.map_eq_some_iff.mp hindex'
        refine ⟨before, hbefore, fun hf => hf.cancel _, fun key => ?_⟩
        have hsame : key = handle.key ↔ handle = ⟨number, key⟩ := by
          rw [hnumber]
          exact ⟨fun hkey => hkey ▸ rfl, fun hhandle => (congrArg Handle.key hhandle).symm⟩
        simp only [← hsame]
        exact active?_cancel before handle.key key
      · rename_i hnumber
        refine ⟨index', hindex', id, fun key => (if_neg ?_).symm⟩
        intro heq
        subst heq
        exact hnumber rfl
    refine ⟨h.roomy.unsubscribe given leaf, fun tree found hfound => ?_,
      fun number index' hindex' => ?_, fun tree leaf' handle' hhandle' => ?_,
      fun number index' hindex' tree leaf' key => ?_,
      fun number index' hindex' key entry hentry => ?_⟩
    · rw [tree?_unsubscribe] at hfound
      exact h.numbered tree found hfound
    · obtain ⟨before, hbefore, hfaithful, _⟩ := hold number index' hindex'
      exact hfaithful (h.indexes number before hbefore)
    · rw [handle?_unsubscribe] at hhandle'
      split at hhandle'
      · simp at hhandle'
      · rw [size_dispatchers_unsubscribe, tree?_unsubscribe]
        exact h.subscribed tree leaf' handle' hhandle'
    · obtain ⟨before, hbefore, _, hactive⟩ := hold number index' hindex'
      have hiff := h.active number before hbefore tree leaf' key
      rw [handle?_unsubscribe, hactive]
      by_cases hleaf : tree = given ∧ leaf' = leaf
      · -- The slot that was cleared referred to the subscription that was cancelled, and to no other.
        rw [if_pos hleaf]
        obtain ⟨rfl, rfl⟩ := hleaf
        split
        · simp
        · rename_i hne
          rw [← hiff, hslot]
          simp [hne]
      · rw [if_neg hleaf]
        split
        · rename_i hhandle
          obtain ⟨entry, hentry, htree, hid⟩ :=
            (h.active number before hbefore given leaf key).mp (hhandle ▸ hslot)
          constructor
          · intro hother
            obtain ⟨entry', hentry', htree', hid'⟩ := hiff.mp hother
            rw [hentry] at hentry'
            obtain rfl := Option.some.inj hentry'
            exact absurd ⟨htree'.symm.trans htree, hid'.symm.trans hid⟩ hleaf
          · simp
        · exact hiff
    · obtain ⟨before, hbefore, _, hactive⟩ := hold number index' hindex'
      rw [hactive] at hentry
      split at hentry
      · simp at hentry
      · rw [tree?_unsubscribe]
        exact h.path number before hbefore key entry hentry

/-- Leaves refer to the active subscriptions of an index also after a leaf without a subscription was
subscribed. -/
theorem active_insert (h : Sound w log) {number : Nat} {index : PredicateIndex φ}
    (hindex : w.dispatcher? number = some index) (entry : Entry φ)
    (hactive : entry.cancelled = false) (hfree : w.handle? entry.tree entry.leaf = none)
    (tree leaf key : Nat) :
    (if tree = entry.tree ∧ leaf = entry.leaf then some ⟨number, (index.insert entry).2⟩
      else w.handle? tree leaf) = some (⟨number, key⟩ : Handle) ↔
    ∃ found, (index.insert entry).1.active? key = some found ∧
      found.tree = tree ∧ found.leaf = leaf := by
  have hconsistent := (h.indexes number index hindex).consistent
  have hiff := h.active number index hindex tree leaf key
  rw [active?_insert hconsistent entry hactive]
  by_cases hkey : key = (index.insert entry).2
  · -- No subscription had the key before, so no leaf referred to it.
    have hnever : index.active? key = none := by
      rw [hkey, active?, find?_insert_key hconsistent]
      rfl
    rw [hnever] at hiff
    rw [if_pos hkey, ← hkey]
    split
    · rename_i hsame
      exact iff_of_true rfl ⟨entry, rfl, hsame.1.symm, hsame.2.symm⟩
    · rename_i hother
      rw [hiff]
      constructor
      · simp
      · intro hparts
        rcases hparts with ⟨_, hfound, htree, hleaf⟩
        rw [← Option.some.inj hfound] at htree hleaf
        exact absurd ⟨htree.symm, hleaf.symm⟩ hother
  · rw [if_neg hkey, ← hiff]
    split
    · rename_i hsame
      rw [hsame.1, hsame.2, hfree]
      simp [Ne.symm hkey]
    · rfl

/-- Subscribing a leaf gives it a subscription, changes no other slot and keeps a workspace sound,
if the subscription is entered into the log. -/
theorem subscribe (h : Sound w log) {number given id : Nat} {filter : φ}
    (hs : w.subscribe number filter given id = (next, .ok ())) :
    ∃ handle index, Entered w next given id handle index ∧ Sound next ((handle, filter) :: log) := by
  obtain ⟨index, found, leaf, hindex, htree, hleaf, hentered⟩ := entered_of_subscribe h.roomy hs
  rw [(h.numbered given found htree).leaves id leaf hleaf] at hentered
  refine ⟨_, _, hentered, hentered.roomy, fun tree found hfound => ?_,
    fun other index' hindex' => ?_, fun tree leaf' handle hslot => ?_,
    fun other index' hindex' tree leaf' key => ?_,
    fun other index' hindex' key entry hentry => ?_⟩
  · rw [hentered.trees] at hfound
    exact h.numbered tree found hfound
  · rw [hentered.dispatchers] at hindex'
    rw [history_cons]
    split at hindex'
    · rename_i hother
      rw [hother, if_pos rfl, ← Option.some.inj hindex']
      exact (h.indexes number index hindex).insert ⟨⟨filter, given, id, leaf.path⟩, false⟩
    · rename_i hother
      rw [if_neg (Ne.symm hother)]
      exact h.indexes other index' hindex'
  · rw [hentered.size, hentered.trees]
    rw [hentered.handles] at hslot
    split at hslot
    · rename_i hsame
      rw [← Option.some.inj hslot, hsame.1, hsame.2]
      exact ⟨lt_size_of_dispatcher? hindex, found, htree, by rw [hleaf]; rfl⟩
    · exact h.subscribed tree leaf' handle hslot
  · rw [hentered.handles]
    rw [hentered.dispatchers] at hindex'
    split at hindex'
    · rename_i hother
      rw [hother, ← Option.some.inj hindex']
      exact h.active_insert hindex ⟨⟨filter, given, id, leaf.path⟩, false⟩ rfl hentered.free
        tree leaf' key
    · rename_i hother
      rw [← h.active other index' hindex' tree leaf' key]
      split
      · rename_i hsame
        rw [hsame.1, hsame.2, hentered.free]
        simp only [Option.some.injEq, Handle.mk.injEq, reduceCtorEq, iff_false]
        exact fun hsame => hother hsame.1.symm
      · rfl
  · rw [hentered.dispatchers] at hindex'
    rw [hentered.trees]
    split at hindex'
    · rw [← Option.some.inj hindex'] at hentry
      have hinsert := active?_insert (h.indexes number index hindex).consistent
        ⟨⟨filter, given, id, leaf.path⟩, false⟩ rfl key
      have hcases := hinsert.symm.trans hentry
      split at hcases
      · rw [← Option.some.inj hcases]
        exact ⟨found, leaf, htree, hleaf, rfl⟩
      · exact h.path number index hindex key entry hcases
    · exact h.path other index' hindex' key entry hentry

/-- Giving up the subscriptions of leaves keeps a workspace sound. -/
theorem unsubscribeAll (h : Sound w log) (given : Nat) (leaves : List Nat) :
    Sound (w.unsubscribeAll given leaves) log := by
  unfold Workspace.unsubscribeAll
  induction leaves generalizing w with
  | nil => exact h
  | cons leaf leaves ih => exact ih (h.unsubscribe given leaf)

/-- Removing a tree without subscriptions keeps a workspace sound. -/
theorem remove (h : Sound w log) {removed : Nat} (hnone : ∀ leaf, w.handle? removed leaf = none)
    (attempts : Array (Option (Attempt MatchSession))) :
    Sound { w with trees := w.trees.setIfInBounds removed none, attempts } log := by
  have hhandle : ∀ tree leaf, handle? ({ w with
      trees := w.trees.setIfInBounds removed none, attempts } : Workspace _ _) tree leaf
      = w.handle? tree leaf := by
    intro tree leaf
    rw [handle?, planted?_remove, handle?]
    split
    · rename_i htree
      rw [htree]
      exact (hnone leaf).symm
    · rfl
  have htree : ∀ tree leaf handle, w.handle? tree leaf = some handle →
      tree? ({ w with trees := w.trees.setIfInBounds removed none, attempts } : Workspace _ _) tree
        = w.tree? tree := by
    intro tree leaf handle hslot
    rw [tree?, planted?_remove, if_neg, tree?]
    intro heq
    subst heq
    simp [hnone] at hslot
  refine ⟨fun tree planted hplanted => ?_, fun tree found hfound => ?_, h.indexes,
    fun tree leaf handle hslot => ?_, fun number index hindex tree leaf key => ?_,
    fun number index hindex key entry hentry => ?_⟩
  · rw [planted?_remove] at hplanted
    split at hplanted
    · simp at hplanted
    · exact h.roomy tree planted hplanted
  · rw [tree?, planted?_remove] at hfound
    split at hfound
    · simp at hfound
    · exact h.numbered tree found hfound
  · rw [hhandle] at hslot
    rw [htree tree leaf handle hslot]
    exact h.subscribed tree leaf handle hslot
  · rw [hhandle]
    exact h.active number index hindex tree leaf key
  · have hslot := (h.active number index hindex _ _ key).mpr ⟨entry, hentry, rfl, rfl⟩
    rw [htree _ _ _ hslot]
    exact h.path number index hindex key entry hentry

/-- Dropping a tree keeps a workspace sound. -/
theorem drop (h : Sound w log) {dropped : Nat} {found : Tree}
    (hfound : w.tree? dropped = some found) : Sound (w.drop dropped found.leafIds) log := by
  refine (h.unsubscribeAll dropped found.leafIds).remove (fun leaf => ?_) _
  rw [handle?_unsubscribeAll]
  split
  · rfl
  · rename_i hleaf
    cases hslot : w.handle? dropped leaf with
    | none => rfl
    | some handle =>
      obtain ⟨_, found', hfound', hisLeaf⟩ := h.subscribed dropped leaf handle hslot
      rw [hfound] at hfound'
      obtain rfl := Option.some.inj hfound'
      exact absurd ⟨rfl, (h.numbered dropped found hfound).mem_leafIds.mpr hisLeaf⟩ hleaf

/-- Subscribing leaves one after the other keeps a workspace sound, also if it stops at a leaf that
cannot be subscribed. -/
theorem subscribeAll (h : Sound w log) (number : Nat) (filter : φ) (given : Nat) {leaves : List Nat}
    (hleaves : leaves.Nodup) :
    Sound (w.subscribeAll number filter given leaves).1
        ((w.gained (w.subscribeAll number filter given leaves).1 given leaves).map (·, filter)
          ++ log) ∧
      ∀ leaf, leaf ∉ leaves →
        (w.subscribeAll number filter given leaves).1.handle? given leaf = w.handle? given leaf := by
  induction leaves generalizing w log with
  | nil => exact ⟨h, fun _ _ => rfl⟩
  | cons leaf leaves ih =>
    rw [List.nodup_cons] at hleaves
    rw [Workspace.subscribeAll]
    rcases hs : w.subscribe number filter given leaf with ⟨next, failure | _⟩
    · rw [subscribe_eq_error hs]
      dsimp only
      rw [gained_eq_nil fun _ _ => rfl]
      exact ⟨h, fun _ _ => rfl⟩
    · obtain ⟨handle, index, hentered, hsound⟩ := h.subscribe hs
      obtain ⟨hlater, hothers⟩ := ih hsound hleaves.2
      dsimp only
      generalize (next.subscribeAll number filter given leaves).1 = last at hlater hothers ⊢
      have hfirst : last.handle? given leaf = some handle := by
        rw [hothers leaf hleaves.1, hentered.handles, if_pos ⟨rfl, rfl⟩]
      have hkept : ∀ other, other ≠ leaf → next.handle? given other = w.handle? given other := by
        intro other hother
        rw [hentered.handles, if_neg fun hsame => hother hsame.2]
      have hgained : w.gained last given (leaf :: leaves)
          = next.gained last given leaves ++ [handle] := by
        have hrest : ∀ other ∈ leaves,
            (if (w.handle? given other).isSome then none else last.handle? given other)
              = if (next.handle? given other).isSome then none else last.handle? given other := by
          intro other hother
          rw [hkept other fun hsame => hleaves.1 (hsame ▸ hother)]
        rw [gained, List.filterMap_cons, hentered.free, hfirst, Option.isSome_none,
          if_neg (by decide), List.filterMap_congr hrest]
        exact List.reverse_cons
      refine ⟨?_, fun other hother => ?_⟩
      · rw [hgained, List.map_append, List.append_assoc]
        exact hlater
      · rw [List.mem_cons, not_or] at hother
        rw [hothers other hother.2, hkept other hother.1]

/-- A change of the evaluations alone keeps a workspace sound, whatever step made it. -/
theorem evaluations (h : Sound w log) (step : IndexStep φ)
    (attempts : Array (Option (Attempt MatchSession))) :
    Sound { w with attempts } (made w { w with attempts } step ++ log) := by
  have hnone : made w { w with attempts } step = [] := made_eq_nil (fun _ _ => rfl) step
  rw [hnone]
  exact h.of_attempts attempts

/-- Subscribing the leaves that a step is about keeps a workspace sound. -/
theorem subscribeLeaves (h : Sound w log) {tree : Nat} {planted : Planted}
    (hplanted : w.planted? tree = some planted) (leaf : Option Nat) (filter : φ) (number : Nat) :
    Sound (w.subscribeAll number filter tree (planted.leavesOf leaf)).1
      (made w (w.subscribeAll number filter tree (planted.leavesOf leaf)).1
        (.basic (.subscribe tree leaf filter number)) ++ log) := by
  have htree := tree?_of_planted? hplanted
  cases leaf with
  | none =>
    rw [made, htree]
    exact (h.subscribeAll number filter tree (h.numbered tree _ htree).nodup_leafIds).1
  | some leaf => exact (h.subscribeAll number filter tree (List.pairwise_singleton _ leaf)).1

/-- A move keeps a workspace sound. -/
theorem move [BEq φ] (h : Sound w log) {resolve : String → Option Path} {step : IndexStep φ}
    (hmove : Move resolve w step next) : Sound next (made w next step ++ log) := by
  cases hmove with
  | stay => exact h.evaluations _ w.attempts
  | plant htree => exact h.plant (Expr.numbered_of_compile htree)
  | drop hplanted => exact h.drop (tree?_of_planted? hplanted)
  | addIndex => exact h.addDispatcher
  | dropIndex number => exact h.dropDispatcher number
  | purge hindex => exact h.purge hindex
  | subscribe leaf _ hplanted => exact h.subscribeLeaves hplanted leaf _ _
  | unsubscribe leaf _ => exact h.unsubscribeAll _ _
  | begin => exact h.evaluations _ _
  | report => exact h.evaluations _ _
  | dispatch => exact h.evaluations _ _
  | reset => exact h.evaluations _ _
  | clearSession => exact h.evaluations _ _
  | suspendLeaf => exact h.evaluations _ _
  | suspendKey => exact h.evaluations _ _

end Sound

section Runs

variable [BEq φ]

/-- The workspace that steps lead to, which go on after a step that is refused or faults. -/
def run (resolve : String → Option Path) (steps : List (IndexStep φ))
    (w : Workspace (PredicateIndex φ) MatchSession) : Workspace (PredicateIndex φ) MatchSession :=
  steps.foldl (fun w step => (w.indexStep resolve step).1) w

/-- The subscriptions that steps make, the newest first. -/
def log (resolve : String → Option Path) :
    List (IndexStep φ) → Workspace (PredicateIndex φ) MatchSession → List (Handle × φ)
  | [], _ => []
  | step :: steps, w =>
    let next := (w.indexStep resolve step).1
    log resolve steps next ++ made w next step

/-- A step with indexes keeps a workspace sound. -/
theorem Sound.indexStep {w : Workspace (PredicateIndex φ) MatchSession} {earlier : List (Handle × φ)}
    (h : Sound w earlier) (resolve : String → Option Path) (step : IndexStep φ) :
    Sound (w.indexStep resolve step).1 (made w (w.indexStep resolve step).1 step ++ earlier) :=
  h.move (move_indexStep resolve w step)

/-- Steps lead from a sound workspace to a sound one. -/
theorem Sound.run {w : Workspace (PredicateIndex φ) MatchSession} {earlier : List (Handle × φ)}
    (h : Sound w earlier) (resolve : String → Option Path) (steps : List (IndexStep φ)) :
    Sound (w.run resolve steps) (log resolve steps w ++ earlier) := by
  induction steps generalizing w earlier with
  | nil => exact h
  | cons step steps ih =>
    rw [log, List.append_assoc]
    exact ih (h.indexStep resolve step)

end Runs

end Percolator.Workspace
