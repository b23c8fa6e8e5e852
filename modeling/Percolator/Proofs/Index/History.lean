import Percolator.Proofs.Index.Store

/-!
# The history of an index

The history of an index lists the keys that it gave to subscriptions and the filters on whose behalf
these were made, the newest first. A key may occur many times, since keys of purged subscriptions
are given again; the subscription that has a key is the newest one with it. Main statements: an
index that is faithful to its history stays so when subscriptions are added, cancelled or purged. In
a faithful index every subscription has the filter for which it was made, and every path lists its
keys in the order in which their subscriptions were made.
-/

namespace Percolator.PredicateIndex

variable {φ : Type}

/-- How many subscriptions a history lists after the newest one with a key. -/
def age (history : List (Nat × φ)) (key : Nat) : Nat := (history.map Prod.fst).idxOf key

/-- A subscription with another key makes every subscription older. -/
theorem age_cons_of_ne {key other : Nat} (h : key ≠ other) (filter : φ)
    (history : List (Nat × φ)) : age ((other, filter) :: history) key = age history key + 1 := by
  rw [age, List.map_cons, List.idxOf_cons, beq_false_of_ne (Ne.symm h)]
  rfl

/-- The newest subscription has no age. -/
theorem age_cons_self (key : Nat) (filter : φ) (history : List (Nat × φ)) :
    age ((key, filter) :: history) key = 0 := by
  rw [age, List.map_cons, List.idxOf_cons, beq_self_eq_true]
  rfl

/-- An index is consistent, and what it holds is what its history tells. -/
structure Faithful (index : PredicateIndex φ) (history : List (Nat × φ)) : Prop where
  consistent : index.Consistent
  /-- Every subscription has the filter for which it was made. -/
  filter : ∀ key entry, index.find? key = some entry → history.lookup key = some entry.filter
  /-- Every path lists the keys of older subscriptions first. -/
  order : ∀ path, (index.keysAt path).Pairwise fun earlier later =>
    age history later < age history earlier

/-- An index without subscriptions is faithful to any history. -/
theorem faithful_empty (history : List (Nat × φ)) : (empty : PredicateIndex φ).Faithful history where
  consistent := consistent_empty
  filter key entry h := by simp [empty, find?] at h
  order _ := .nil

/-- A new subscription is the newest one in the history. -/
theorem Faithful.insert {index : PredicateIndex φ} {history : List (Nat × φ)}
    (h : index.Faithful history) (entry : Entry φ) :
    (index.insert entry).1.Faithful (((index.insert entry).2, entry.filter) :: history) := by
  have hfresh := find?_insert_key h.consistent entry
  refine ⟨h.consistent.insert entry, fun key found hfound => ?_, fun path => ?_⟩
  · rw [find?_insert h.consistent] at hfound
    rw [List.lookup_cons]
    split at hfound
    · rename_i hkey
      rw [hkey, beq_self_eq_true, Option.some.inj hfound]
    · rename_i hkey
      rw [beq_false_of_ne hkey]
      exact h.filter key found hfound
  · have hne : ∀ key ∈ index.keysAt path, key ≠ (index.insert entry).2 := by
      intro key hkey heq
      subst heq
      rw [h.consistent.listed, hfresh] at hkey
      simp at hkey
    have hold : (index.keysAt path).Pairwise fun earlier later =>
        age (((index.insert entry).2, entry.filter) :: history) later
          < age (((index.insert entry).2, entry.filter) :: history) earlier := by
      refine (h.order path).imp_of_mem fun {earlier later} hearlier hlater hage => ?_
      rw [age_cons_of_ne (hne earlier hearlier), age_cons_of_ne (hne later hlater)]
      omega
    rw [keysAt_insert]
    split
    · rw [List.pairwise_append]
      refine ⟨hold, List.pairwise_singleton _ _, fun key hkey last hlast => ?_⟩
      rw [List.mem_singleton.mp hlast, age_cons_self, age_cons_of_ne (hne key hkey)]
      omega
    · exact hold

/-- Cancelling a subscription keeps an index faithful. -/
theorem Faithful.cancel {index : PredicateIndex φ} {history : List (Nat × φ)}
    (h : index.Faithful history) (key : Nat) : (index.cancel key).Faithful history := by
  refine ⟨h.consistent.cancel key, fun other found hfound => ?_, h.order⟩
  rw [find?_cancel] at hfound
  split at hfound
  · obtain ⟨entry, hentry, rfl⟩ := Option.map_eq_some_iff.mp hfound
    exact h.filter other entry hentry
  · exact h.filter other found hfound

/-- Purging keeps an index faithful. -/
theorem Faithful.purge {index : PredicateIndex φ} {history : List (Nat × φ)}
    (h : index.Faithful history) : index.purge.Faithful history := by
  refine ⟨h.consistent.purge, fun key entry hentry => ?_, fun path => ?_⟩
  · rw [find?_purge, active?_eq_some_iff] at hentry
    exact h.filter key entry hentry.1
  · rw [keysAt_purge h.consistent]
    exact (h.order path).filter _

end Percolator.PredicateIndex
