import Percolator.Index

/-!
# The rows of an index

An index lists the keys of its subscriptions in rows, one for every path that has any. Main
statements: adding a key puts it behind the keys of its path, removing a key takes it out, and
neither changes the keys of other paths, makes a second row for a path or leaves a row empty.
-/

namespace Percolator.PredicateIndex

variable {φ : Type}

/-- The keys that rows list for a path. -/
def rowAt (rows : List (Path × List Nat)) (path : Path) : List Nat := (rows.lookup path).getD []

/-- The keys of a path in an index are those in its rows. -/
theorem keysAt_eq_rowAt (index : PredicateIndex φ) (path : Path) :
    index.keysAt path = rowAt index.byPath path := rfl

/-- The keys that the first row and the others list for a path. -/
theorem rowAt_cons (row : Path × List Nat) (rows : List (Path × List Nat)) (path : Path) :
    rowAt (row :: rows) path = if path = row.1 then row.2 else rowAt rows path := by
  rw [rowAt, List.lookup_cons]
  by_cases h : path = row.1
  · rw [if_pos h, h, beq_self_eq_true]
    rfl
  · rw [if_neg h, beq_false_of_ne h]
    rfl

/-- A path without a row has no keys. -/
theorem rowAt_eq_nil {rows : List (Path × List Nat)} {path : Path}
    (h : path ∉ rows.map Prod.fst) : rowAt rows path = [] := by
  induction rows with
  | nil => rfl
  | cons row rows ih =>
    rw [List.map_cons, List.mem_cons, not_or] at h
    rw [rowAt_cons, if_neg h.1]
    exact ih h.2

/-- A row lists the keys of its path if no two rows are for the same path. -/
theorem rowAt_of_mem {rows : List (Path × List Nat)} (hrows : (rows.map Prod.fst).Nodup)
    {row : Path × List Nat} (h : row ∈ rows) : rowAt rows row.1 = row.2 := by
  induction rows with
  | nil => simp at h
  | cons first rows ih =>
    rw [List.map_cons, List.nodup_cons] at hrows
    rw [rowAt_cons]
    rcases List.mem_cons.mp h with rfl | h
    · rw [if_pos rfl]
    · have hne : row.1 ≠ first.1 := fun he => hrows.1 (he ▸ List.mem_map_of_mem h)
      rw [if_neg hne]
      exact ih hrows.2 h

/-- Adding a key puts it behind the keys of its path. -/
theorem rowAt_addKey (path other : Path) (key : Nat) (rows : List (Path × List Nat)) :
    rowAt (addKey path key rows) other
      = if other = path then rowAt rows other ++ [key] else rowAt rows other := by
  induction rows with
  | nil =>
    rw [addKey, rowAt_cons]
    split <;> rfl
  | cons row rows ih =>
    rw [addKey]
    by_cases hrow : row.1 = path
    · rw [if_pos hrow, rowAt_cons, rowAt_cons]
      by_cases ho : other = row.1
      · rw [if_pos ho, if_pos (ho.trans hrow), if_pos ho]
      · rw [if_neg ho, if_neg fun h => ho (h.trans hrow.symm), if_neg ho]
    · rw [if_neg hrow, rowAt_cons, rowAt_cons, ih]
      by_cases ho : other = row.1
      · rw [if_pos ho, if_pos ho, if_neg fun h => hrow (ho.symm.trans h)]
      · rw [if_neg ho, if_neg ho]

/-- The paths with a row after a key was added. -/
theorem mem_paths_addKey {path other : Path} {key : Nat} {rows : List (Path × List Nat)} :
    other ∈ (addKey path key rows).map Prod.fst ↔ other = path ∨ other ∈ rows.map Prod.fst := by
  induction rows with
  | nil => simp [addKey]
  | cons row rows ih =>
    rw [addKey]
    split
    · rename_i hrow
      rw [List.map_cons, List.map_cons, List.mem_cons, hrow]
      exact ⟨.inr, fun h => h.elim .inl id⟩
    · rw [List.map_cons, List.map_cons, List.mem_cons, List.mem_cons, ih]
      exact or_left_comm

/-- Adding a key makes no second row for a path. -/
theorem nodup_paths_addKey {path : Path} {key : Nat} {rows : List (Path × List Nat)}
    (h : (rows.map Prod.fst).Nodup) : ((addKey path key rows).map Prod.fst).Nodup := by
  induction rows with
  | nil => simp [addKey]
  | cons row rows ih =>
    rw [List.map_cons, List.nodup_cons] at h
    rw [addKey]
    split
    · rw [List.map_cons, List.nodup_cons]
      exact h
    · rename_i hrow
      rw [List.map_cons, List.nodup_cons, mem_paths_addKey]
      exact ⟨fun hin => hin.elim hrow h.1, ih h.2⟩

/-- Adding a key leaves no row empty. -/
theorem rows_addKey {path : Path} {key : Nat} {rows : List (Path × List Nat)}
    (h : ∀ row ∈ rows, row.2 ≠ []) : ∀ row ∈ addKey path key rows, row.2 ≠ [] := by
  induction rows with
  | nil => simp [addKey]
  | cons first rows ih =>
    have hrest := fun row hrow => h row (List.mem_cons_of_mem _ hrow)
    rw [addKey]
    split
    · intro row hrow
      rcases List.mem_cons.mp hrow with rfl | hrow
      · simp
      · exact hrest row hrow
    · intro row hrow
      rcases List.mem_cons.mp hrow with rfl | hrow
      · exact h _ List.mem_cons_self
      · exact ih hrest row hrow

/-- The paths with a row after a key was removed had one before. -/
theorem mem_paths_of_removeKey {path other : Path} {key : Nat} {rows : List (Path × List Nat)}
    (h : other ∈ (removeKey path key rows).map Prod.fst) : other ∈ rows.map Prod.fst := by
  induction rows with
  | nil => simp [removeKey] at h
  | cons row rows ih =>
    rw [removeKey] at h
    dsimp only at h
    rw [List.map_cons, List.mem_cons]
    split at h
    · split at h
      · exact .inr h
      · rw [List.map_cons, List.mem_cons] at h
        exact h
    · rw [List.map_cons, List.mem_cons] at h
      exact h.imp id ih

/-- Removing a key takes it out of the keys of its path. -/
theorem rowAt_removeKey {path : Path} (other : Path) (key : Nat) {rows : List (Path × List Nat)}
    (h : (rows.map Prod.fst).Nodup) :
    rowAt (removeKey path key rows) other
      = if other = path then (rowAt rows other).filter (· != key) else rowAt rows other := by
  induction rows with
  | nil =>
    rw [removeKey]
    split <;> rfl
  | cons row rows ih =>
    rw [List.map_cons, List.nodup_cons] at h
    rw [removeKey]
    dsimp only
    by_cases hrow : row.1 = path
    · rw [if_pos hrow, rowAt_cons]
      by_cases ho : other = row.1
      · rw [if_pos ho, if_pos (ho.trans hrow)]
        split
        · rename_i hempty
          rw [rowAt_eq_nil (ho ▸ h.1), List.isEmpty_iff.mp hempty]
        · rw [rowAt_cons, if_pos ho]
      · have hother : other ≠ path := fun he => ho (he.trans hrow.symm)
        rw [if_neg hother, if_neg ho]
        split
        · rfl
        · rw [rowAt_cons, if_neg ho]
    · rw [if_neg hrow, rowAt_cons, rowAt_cons, ih h.2]
      by_cases ho : other = row.1
      · rw [if_pos ho, if_pos ho, if_neg fun he => hrow (ho.symm.trans he)]
      · rw [if_neg ho, if_neg ho]

/-- Removing a key makes no second row for a path. -/
theorem nodup_paths_removeKey {path : Path} {key : Nat} {rows : List (Path × List Nat)}
    (h : (rows.map Prod.fst).Nodup) : ((removeKey path key rows).map Prod.fst).Nodup := by
  induction rows with
  | nil => simp [removeKey]
  | cons row rows ih =>
    rw [List.map_cons, List.nodup_cons] at h
    rw [removeKey]
    dsimp only
    split
    · split
      · exact h.2
      · rw [List.map_cons, List.nodup_cons]
        exact h
    · rw [List.map_cons, List.nodup_cons]
      exact ⟨fun hin => h.1 (mem_paths_of_removeKey hin), ih h.2⟩

/-- Removing a key leaves no row empty. -/
theorem rows_removeKey {path : Path} {key : Nat} {rows : List (Path × List Nat)}
    (h : ∀ row ∈ rows, row.2 ≠ []) : ∀ row ∈ removeKey path key rows, row.2 ≠ [] := by
  induction rows with
  | nil => simp [removeKey]
  | cons first rows ih =>
    have hrest := fun row hrow => h row (List.mem_cons_of_mem _ hrow)
    rw [removeKey]
    dsimp only
    split
    · split
      · exact hrest
      · rename_i hkeys
        intro row hrow
        rcases List.mem_cons.mp hrow with rfl | hrow
        · rw [List.isEmpty_iff] at hkeys
          exact hkeys
        · exact hrest row hrow
    · intro row hrow
      rcases List.mem_cons.mp hrow with rfl | hrow
      · exact h _ List.mem_cons_self
      · exact ih hrest row hrow

end Percolator.PredicateIndex
