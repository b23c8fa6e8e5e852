import Percolator.Proofs.Index.Rows

/-!
# The subscription store

An index holds its subscriptions twice, in slots by key and as rows of keys by path. It is
consistent if both agree and if free slots are empty. Main statements: adding, cancelling and
purging subscriptions keep an index consistent, and what each of them does to the subscription with
a key, to the active one and to the keys of a path. Purging leaves the active subscriptions and no
others, in their order.
-/

namespace Percolator.PredicateIndex

variable {φ : Type}

/-- The slots and the rows of an index agree. -/
structure Consistent (index : PredicateIndex φ) : Prop where
  /-- No path has two rows. -/
  paths : (index.byPath.map Prod.fst).Nodup
  /-- Every row lists a key. -/
  rows : ∀ row ∈ index.byPath, row.2 ≠ []
  /-- No key is listed twice for a path. -/
  keys : ∀ path, (index.keysAt path).Nodup
  /-- The keys of a path are those of the subscriptions to it. -/
  listed : ∀ path key, key ∈ index.keysAt path ↔
    ∃ entry, index.find? key = some entry ∧ entry.path = path
  /-- No free slot is used. -/
  vacant : ∀ key ∈ index.free, key < index.slots.size ∧ index.find? key = none
  /-- No slot is free twice. -/
  free : index.free.Nodup

/-- The subscription with a key, unless it is cancelled. -/
def active? (index : PredicateIndex φ) (key : Nat) : Option (Entry φ) :=
  (index.find? key).filter fun entry => !entry.cancelled

/-- Active subscriptions are those that are not cancelled. -/
theorem active?_eq_some_iff {index : PredicateIndex φ} {key : Nat} {entry : Entry φ} :
    index.active? key = some entry ↔
      index.find? key = some entry ∧ entry.cancelled = false := by
  rw [active?, Option.filter_eq_some_iff, Bool.not_eq_true']

/-- An index without subscriptions is consistent. -/
theorem consistent_empty : (empty : PredicateIndex φ).Consistent where
  paths := .nil
  rows := by simp [empty]
  keys _ := .nil
  listed path key := by simp [empty, keysAt, find?]
  vacant := by simp [empty]
  free := .nil

/-- The keys of subscriptions are numbers of slots. -/
theorem lt_size_of_find? {index : PredicateIndex φ} {key : Nat} {entry : Entry φ}
    (h : index.find? key = some entry) : key < index.slots.size :=
  (Array.getElem?_eq_some_iff.mp (Option.join_eq_some_iff.mp h)).1

/-- A new subscription takes a key that no subscription has. -/
theorem find?_insert_key {index : PredicateIndex φ} (hc : index.Consistent) (entry : Entry φ) :
    index.find? (index.insert entry).2 = none := by
  unfold insert
  split
  · rename_i key free hfree
    exact (hc.vacant key (hfree ▸ List.mem_cons_self)).2
  · rw [find?, Array.getElem?_size]
    rfl

/-- A new subscription is found under its key, and the others stay where they are. -/
theorem find?_insert {index : PredicateIndex φ} (hc : index.Consistent) (entry : Entry φ)
    (key : Nat) : (index.insert entry).1.find? key
      = if key = (index.insert entry).2 then some entry else index.find? key := by
  unfold insert
  split
  · rename_i freed free hfree
    have hlt := (hc.vacant freed (hfree ▸ List.mem_cons_self)).1
    dsimp only
    rw [find?, Array.getElem?_setIfInBounds]
    by_cases hkey : key = freed
    · rw [if_pos hkey, if_pos hkey.symm, if_pos hlt]
      rfl
    · rw [if_neg hkey, if_neg (Ne.symm hkey)]
      rfl
  · dsimp only
    rw [find?, Array.getElem?_push]
    split
    · rfl
    · rfl

/-- A new subscription that is not cancelled is active, and the others stay as they are. -/
theorem active?_insert {index : PredicateIndex φ} (hc : index.Consistent) (entry : Entry φ)
    (hactive : entry.cancelled = false) (key : Nat) : (index.insert entry).1.active? key
      = if key = (index.insert entry).2 then some entry else index.active? key := by
  rw [active?, find?_insert hc]
  split
  · rw [Option.filter_some, hactive]
    rfl
  · rfl

/-- The key of a new subscription comes last for its path. -/
theorem keysAt_insert (index : PredicateIndex φ) (entry : Entry φ) (path : Path) :
    (index.insert entry).1.keysAt path
      = if path = entry.path then index.keysAt path ++ [(index.insert entry).2]
        else index.keysAt path := by
  unfold insert
  split
  · exact rowAt_addKey _ _ _ _
  · exact rowAt_addKey _ _ _ _

/-- Adding a subscription keeps an index consistent. -/
theorem Consistent.insert {index : PredicateIndex φ} (hc : index.Consistent) (entry : Entry φ) :
    (index.insert entry).1.Consistent := by
  have hentry := find?_insert hc entry
  have hfresh := find?_insert_key hc entry
  have hkeys := keysAt_insert index entry
  have hbyPath : (index.insert entry).1.byPath
      = addKey entry.path (index.insert entry).2 index.byPath := by
    unfold PredicateIndex.insert
    split <;> rfl
  have hnew : (index.insert entry).2 ∉ index.keysAt entry.path := by
    rw [hc.listed, hfresh]
    simp
  constructor
  · rw [hbyPath]
    exact nodup_paths_addKey hc.paths
  · rw [hbyPath]
    exact rows_addKey hc.rows
  · intro path
    rw [hkeys]
    split
    · rename_i hpath
      rw [List.nodup_append]
      refine ⟨hc.keys path, by simp, fun a ha b hb hab => ?_⟩
      rw [List.mem_singleton.mp hb] at hab
      exact hnew (hpath ▸ hab ▸ ha)
    · exact hc.keys path
  · intro path key
    rw [hkeys, hentry]
    by_cases hkey : key = (index.insert entry).2
    · rw [if_pos hkey]
      constructor
      · intro hin
        refine ⟨entry, rfl, ?_⟩
        split at hin
        · rename_i hpath
          exact hpath.symm
        · rw [hc.listed, hkey, hfresh] at hin
          simp at hin
      · intro hparts
        rcases hparts with ⟨found, hfound, hpath⟩
        rw [← Option.some.inj hfound] at hpath
        rw [if_pos hpath.symm, hkey]
        exact List.mem_append_right _ List.mem_cons_self
    · rw [if_neg hkey, ← hc.listed]
      split
      · rw [List.mem_append, List.mem_singleton]
        exact ⟨fun hin => hin.elim id fun h => absurd h hkey, .inl⟩
      · rfl
  · intro key hkey
    have hfree : key ∈ index.free ∧ key ≠ (index.insert entry).2 := by
      unfold PredicateIndex.insert at hkey ⊢
      split at hkey
      · rename_i freed free hfree
        have hnodup := hc.free
        rw [hfree, List.nodup_cons] at hnodup
        have hin : key ∈ free := hkey
        rw [hfree]
        refine ⟨List.mem_cons_of_mem _ hin, fun h => hnodup.1 ?_⟩
        have hfreed : freed = key := h.symm
        rw [hfreed]
        exact hin
      · simp at hkey
    obtain ⟨hlt, hnone⟩ := hc.vacant key hfree.1
    refine ⟨?_, by rw [hentry, if_neg hfree.2, hnone]⟩
    unfold PredicateIndex.insert
    split
    · rw [Array.size_setIfInBounds]
      exact hlt
    · rw [Array.size_push]
      omega
  · unfold PredicateIndex.insert
    split
    · rename_i freed free hfree
      have hnodup := hc.free
      rw [hfree, List.nodup_cons] at hnodup
      exact hnodup.2
    · exact .nil

/-- Freeing the slot of a subscription removes it and no other. -/
theorem find?_remove (index : PredicateIndex φ) (key other : Nat) :
    (index.remove key).find? other = if other = key then none else index.find? other := by
  unfold remove
  split
  · rename_i hnone
    by_cases hother : other = key
    · rw [if_pos hother, hother, hnone]
    · rw [if_neg hother]
  · rename_i entry hentry
    have hlt := lt_size_of_find? hentry
    rw [find?, Array.getElem?_setIfInBounds]
    by_cases hother : other = key
    · rw [if_pos hother, if_pos hother.symm, if_pos hlt]
      rfl
    · rw [if_neg hother, if_neg (Ne.symm hother)]
      rfl

/-- Freeing the slot of a subscription takes its key out of every row. -/
theorem keysAt_remove {index : PredicateIndex φ} (hc : index.Consistent) (key : Nat)
    (path : Path) : (index.remove key).keysAt path = (index.keysAt path).filter (· != key) := by
  have hskip : key ∉ index.keysAt path →
      index.keysAt path = (index.keysAt path).filter (· != key) := by
    intro hnot
    refine (List.filter_eq_self.mpr fun other hother => ?_).symm
    rw [bne_iff_ne]
    exact fun he => hnot (he ▸ hother)
  unfold remove
  split
  · rename_i hnone
    refine hskip ?_
    rw [hc.listed, hnone]
    simp
  · rename_i entry hentry
    rw [keysAt_eq_rowAt, rowAt_removeKey _ _ hc.paths, ← keysAt_eq_rowAt]
    split
    · rfl
    · rename_i hpath
      refine hskip fun hin => hpath ?_
      obtain ⟨found, hfound, hfoundPath⟩ := (hc.listed _ _).mp hin
      rw [← hfoundPath, Option.some.inj (hfound.symm.trans hentry)]

/-- Freeing the slot of a subscription keeps an index consistent. -/
theorem Consistent.remove {index : PredicateIndex φ} (hc : index.Consistent) (key : Nat) :
    (index.remove key).Consistent := by
  have hentry := find?_remove index key
  have hkeys := keysAt_remove hc key
  constructor
  · unfold PredicateIndex.remove
    split
    · exact hc.paths
    · exact nodup_paths_removeKey hc.paths
  · unfold PredicateIndex.remove
    split
    · exact hc.rows
    · exact rows_removeKey hc.rows
  · intro path
    rw [hkeys]
    exact (hc.keys path).filter _
  · intro path other
    rw [hkeys, hentry, List.mem_filter, hc.listed, bne_iff_ne]
    by_cases hother : other = key
    · simp [hother]
    · simp [hother]
  · intro other hother
    have hcases : other ∈ index.free ∨ (other = key ∧ (index.find? key).isSome = true) := by
      unfold PredicateIndex.remove at hother
      split at hother
      · exact .inl hother
      · rename_i entry hheld
        rcases List.mem_cons.mp hother with rfl | hother
        · exact .inr ⟨rfl, by rw [hheld]; rfl⟩
        · exact .inl hother
    have hsize : (index.remove key).slots.size = index.slots.size := by
      unfold PredicateIndex.remove
      split
      · rfl
      · exact Array.size_setIfInBounds
    rw [hsize, hentry]
    rcases hcases with hfree | ⟨rfl, hheld⟩
    · obtain ⟨hlt, hnone⟩ := hc.vacant other hfree
      refine ⟨hlt, ?_⟩
      rw [hnone]
      exact ite_self _
    · obtain ⟨entry, hheld⟩ := Option.isSome_iff_exists.mp hheld
      exact ⟨lt_size_of_find? hheld, if_pos rfl⟩
  · unfold PredicateIndex.remove
    split
    · exact hc.free
    · rename_i entry hheld
      rw [List.nodup_cons]
      refine ⟨fun hin => ?_, hc.free⟩
      have hnone := (hc.vacant key hin).2
      simp [hheld] at hnone

/-- Cancelling a subscription flags it and changes no other. -/
theorem find?_cancel (index : PredicateIndex φ) (key other : Nat) :
    (index.cancel key).find? other
      = if other = key then (index.find? other).map fun entry => { entry with cancelled := true }
        else index.find? other := by
  unfold cancel find?
  rw [Array.getElem?_modify]
  by_cases hother : other = key
  · rw [if_pos hother, if_pos hother.symm]
    cases index.slots[other]? <;> rfl
  · rw [if_neg hother, if_neg (Ne.symm hother)]

/-- A cancelled subscription is not active any more, and the others stay as they are. -/
theorem active?_cancel (index : PredicateIndex φ) (key other : Nat) :
    (index.cancel key).active? other = if other = key then none else index.active? other := by
  rw [active?, find?_cancel]
  split
  · cases index.find? other <;> rfl
  · rfl

/-- Cancelling a subscription keeps an index consistent. -/
theorem Consistent.cancel {index : PredicateIndex φ} (hc : index.Consistent) (key : Nat) :
    (index.cancel key).Consistent := by
  have hsame : ∀ other, ((index.cancel key).find? other).map (fun entry => entry.path)
      = (index.find? other).map fun entry => entry.path := by
    intro other
    rw [find?_cancel]
    split
    · rw [Option.map_map]
      rfl
    · rfl
  refine ⟨hc.paths, hc.rows, hc.keys, fun path other => ?_, fun other hother => ?_, hc.free⟩
  · have hpath := congrArg (· = some path) (hsame other)
    simp only [Option.map_eq_some_iff] at hpath
    rw [hpath]
    exact hc.listed path other
  · obtain ⟨hlt, hnone⟩ := hc.vacant other hother
    refine ⟨?_, ?_⟩
    · unfold PredicateIndex.cancel
      rw [Array.size_modify]
      exact hlt
    · have hmap := hsame other
      rw [hnone, Option.map_none, Option.map_eq_none_iff] at hmap
      exact hmap

/-- Freeing slots one after the other removes their subscriptions and no others. -/
theorem find?_foldl_remove (keys : List Nat) (index : PredicateIndex φ) (other : Nat) :
    (keys.foldl remove index).find? other
      = if other ∈ keys then none else index.find? other := by
  induction keys generalizing index with
  | nil => rfl
  | cons key keys ih =>
    rw [List.foldl_cons, ih, find?_remove]
    by_cases hother : other = key
    · rw [if_pos hother, ite_self, if_pos (hother ▸ List.mem_cons_self)]
    · by_cases hin : other ∈ keys
      · rw [if_pos hin, if_pos (List.mem_cons_of_mem _ hin)]
      · have hnot : other ∉ key :: keys := by
          rw [List.mem_cons, not_or]
          exact ⟨hother, hin⟩
        rw [if_neg hin, if_neg hnot, if_neg hother]

/-- Freeing slots one after the other keeps an index consistent, and takes the keys of the slots out
of every row. -/
theorem Consistent.foldl_remove (keys : List Nat) {index : PredicateIndex φ}
    (hc : index.Consistent) : (keys.foldl PredicateIndex.remove index).Consistent ∧
      ∀ path, (keys.foldl PredicateIndex.remove index).keysAt path
        = (index.keysAt path).filter (· ∉ keys) := by
  induction keys generalizing index with
  | nil =>
    refine ⟨hc, fun path => (List.filter_eq_self.mpr fun key _ => ?_).symm⟩
    exact decide_eq_true List.not_mem_nil
  | cons key keys ih =>
    obtain ⟨hlater, hkeys⟩ := ih (hc.remove key)
    refine ⟨hlater, fun path => ?_⟩
    rw [List.foldl_cons, hkeys, keysAt_remove hc, List.filter_filter]
    refine List.filter_congr fun other _ => ?_
    rw [Bool.eq_iff_iff]
    simp only [List.mem_cons, not_or, Bool.and_eq_true, decide_eq_true_eq, bne_iff_ne]
    exact And.comm

/-- The keys that purging frees are those of the cancelled subscriptions. -/
theorem mem_cancelled (index : PredicateIndex φ) (key : Nat) :
    key ∈ (List.range index.slots.size).filter index.isCancelled ↔
      index.isCancelled key = true := by
  rw [List.mem_filter, List.mem_range]
  refine ⟨And.right, fun h => ⟨?_, h⟩⟩
  unfold isCancelled at h
  cases hentry : index.find? key with
  | none => simp [hentry] at h
  | some entry => exact lt_size_of_find? hentry

/-- Purging leaves the active subscriptions and no others. -/
theorem find?_purge (index : PredicateIndex φ) (key : Nat) :
    index.purge.find? key = index.active? key := by
  rw [purge, find?_foldl_remove, active?]
  simp only [mem_cancelled, isCancelled]
  cases index.find? key with
  | none => rfl
  | some entry => cases hflag : entry.cancelled <;> simp [Option.filter, hflag]

/-- Purging changes no active subscription. -/
theorem active?_purge (index : PredicateIndex φ) (key : Nat) :
    index.purge.active? key = index.active? key := by
  rw [active?, find?_purge, active?, Option.filter_filter]
  simp only [Bool.and_self]

/-- Purging takes the keys of the cancelled subscriptions out of every row. -/
theorem keysAt_purge {index : PredicateIndex φ} (hc : index.Consistent) (path : Path) :
    index.purge.keysAt path
      = (index.keysAt path).filter fun key => (index.active? key).isSome := by
  rw [purge, (hc.foldl_remove _).2]
  refine List.filter_congr fun key hkey => ?_
  obtain ⟨entry, hentry, _⟩ := (hc.listed path key).mp hkey
  simp only [mem_cancelled, isCancelled, active?, hentry, Option.any_some, Option.filter_some]
  cases entry.cancelled <;> rfl

/-- Purging keeps an index consistent. -/
theorem Consistent.purge {index : PredicateIndex φ} (hc : index.Consistent) :
    index.purge.Consistent := (hc.foldl_remove _).1

/-- The keys of the subscriptions held. -/
def held (index : PredicateIndex φ) : List Nat :=
  (List.range index.slots.size).filter fun key => (index.find? key).isSome

/-- No key is held twice. -/
theorem nodup_held (index : PredicateIndex φ) : index.held.Nodup := List.nodup_range.filter _

/-- The keys held are those with a subscription. -/
theorem mem_held {index : PredicateIndex φ} {key : Nat} :
    key ∈ index.held ↔ ∃ entry, index.find? key = some entry := by
  rw [held, List.mem_filter, List.mem_range, Option.isSome_iff_exists]
  exact ⟨And.right, fun ⟨entry, h⟩ => ⟨lt_size_of_find? h, entry, h⟩⟩

/-- As many keys are held as there are subscriptions. -/
theorem length_held (index : PredicateIndex φ) : index.held.length = index.size := by
  have hslots : index.slots.toList = (List.range index.slots.size).map index.find? := by
    refine List.ext_getElem (by simp) fun key h _ => ?_
    rw [List.getElem_map, List.getElem_range, find?, Array.getElem_toList,
      Array.getElem?_eq_getElem h]
    rfl
  rw [held, ← List.countP_eq_length_filter, size, ← Array.countP_toList, hslots, List.countP_map]
  rfl

/-- A row lists the keys of its path. -/
theorem Consistent.keysAt_of_mem {index : PredicateIndex φ} (hc : index.Consistent)
    {row : Path × List Nat} (h : row ∈ index.byPath) : index.keysAt row.1 = row.2 :=
  rowAt_of_mem hc.paths h

/-- All rows together list the key of a subscription once. -/
theorem Consistent.count_eq_one {index : PredicateIndex φ} (hc : index.Consistent) {key : Nat}
    {entry : Entry φ} (h : index.find? key = some entry) :
    (index.byPath.flatMap Prod.snd).count key = 1 := by
  have hkey : key ∈ index.keysAt entry.path := (hc.listed _ _).mpr ⟨entry, h, rfl⟩
  have hmem : key ∈ index.byPath.flatMap Prod.snd := by
    obtain ⟨row, hrow, hpath⟩ : ∃ row ∈ index.byPath, row.1 = entry.path := by
      by_cases hrow : entry.path ∈ index.byPath.map Prod.fst
      · exact List.mem_map.mp hrow
      · rw [keysAt_eq_rowAt, rowAt_eq_nil hrow] at hkey
        simp at hkey
    rw [← hpath, hc.keysAt_of_mem hrow] at hkey
    exact List.mem_flatMap.mpr ⟨row, hrow, hkey⟩
  have hnodup : (index.byPath.flatMap Prod.snd).Nodup := by
    refine List.pairwise_flatMap.mpr ⟨fun row hrow => ?_, ?_⟩
    · rw [← hc.keysAt_of_mem hrow]
      exact hc.keys row.1
    · refine (List.pairwise_map.mp hc.paths).imp_of_mem ?_
      intro row other hrow hother hne key hkey _ hkey' heq
      subst heq
      -- A key in two rows would belong to a subscription with two paths.
      rw [← hc.keysAt_of_mem hrow, hc.listed] at hkey
      rw [← hc.keysAt_of_mem hother, hc.listed] at hkey'
      obtain ⟨found, hfound, hpath⟩ := hkey
      obtain ⟨found', hfound', hpath'⟩ := hkey'
      rw [hfound] at hfound'
      rw [← Option.some.inj hfound'] at hpath'
      exact hne (hpath.symm.trans hpath')
  rw [hnodup.count, if_pos hmem]

end Percolator.PredicateIndex
