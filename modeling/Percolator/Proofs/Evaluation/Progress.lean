import Percolator.Proofs.Evaluation.Run

/-!
# Reports lead to a verdict

An operator on track that is open has an open operand, so an undecided root leads down to a leaf that
waits. Main statement: in an orderly run the root is undecided exactly as long as a leaf is, and every
report of an undecided leaf leaves fewer of them; so whoever keeps reporting undecided leaves knows the
verdict after as many reports as there are leaves, at the latest.
-/

namespace Percolator

open Percolator.Expr

variable {σ : Type} {resolve : String → Option Path} {tree : Tree} {suspend : Nat → σ → σ}
  {known : Nat → Option Bool} {counter : Nat → Int} {start : Nat} {e : Expr} {context : Context σ}

/-- The leaves that are undecided. -/
def Tree.openLeaves (tree : Tree) (context : Context σ) : List Nat :=
  tree.leafIds.filter fun leaf => !context.isDecidedAt leaf

/-- An undecided evaluation has work left, and each piece of work done is one less. -/
structure Progresses (tree : Tree) (suspend : Nat → σ → σ) (context : Context σ) : Prop where
  /-- The root is undecided exactly as long as a leaf is. -/
  undecided_iff : context.isDecided = false ↔
    ∃ leaf, (tree.leaf? leaf).isSome = true ∧ context.isDecidedAt leaf = false
  /-- A report of an undecided leaf does not fault, and leaves fewer undecided leaves. -/
  report : ∀ leaf result, (tree.leaf? leaf).isSome = true → context.isDecidedAt leaf = false →
    ∃ next, tree.report suspend leaf result context = (next, .ok next.verdict) ∧
      (tree.openLeaves next).length < (tree.openLeaves context).length

namespace Tracks

/-- Below an open node a leaf waits. -/
theorem exists_open_leaf (h : Tracks tree known counter start e)
    (hopen : e.status known start = none) :
    ∃ leaf, (tree.leaf? leaf).isSome = true ∧ 0 < counter leaf := by
  induction h with
  | settled hstatus _ _ => simp [hopen] at hstatus
  | @waiting start e _ _ hleaf hone => exact ⟨start, hleaf, by omega⟩
  | @pending start c es hstatus _ _ _ ih =>
    rw [status_join, Connective.combine_eq_none_iff] at hstatus
    obtain ⟨status, hmem, hnone⟩ := List.countP_pos_iff.mp hstatus.2
    obtain ⟨p, hp, rfl⟩ := List.mem_map.mp hmem
    exact ih p hp (Option.isNone_iff_eq_none.mp hnone)

variable (suspend) in
/-- A report of an undecided leaf decides that leaf, and no leaf becomes undecided. -/
theorem openLeaves_report (hl : Laid resolve tree [] 0 e) (hsize : tree.size = e.size)
    (hnumbered : tree.Numbered) (h : Tracks tree known context.counter 0 e) {leaf : Nat}
    (hleaf : (tree.leaf? leaf).isSome = true) (hopen : context.isDecidedAt leaf = false)
    (result : Bool) :
    (tree.openLeaves (tree.report suspend leaf result context).1).length
      < (tree.openLeaves context).length := by
  obtain ⟨next, hreport, htrack⟩ := report_of_tracks suspend hl hsize h hleaf hopen result
  have hkept : ∀ id, context.isDecidedAt id = true → next.isDecidedAt id = true := by
    intro id hid
    have hinvariant := (Tree.invariant_isDecidedAt tree suspend id).report leaf result context hid
    rwa [hreport] at hinvariant
  have hreported : next.isDecidedAt leaf = true := by
    refine Classical.byContradiction fun hwaits => ?_
    rw [Bool.not_eq_true, Context.isDecidedAt_eq_false_iff] at hwaits
    have hunknown := htrack.known_eq_none hl (covers_of_leaf hsize hleaf) hleaf hwaits
    simp [learn] at hunknown
  have hfilter : tree.openLeaves next
      = (tree.openLeaves context).filter fun id => !next.isDecidedAt id := by
    rw [Tree.openLeaves, Tree.openLeaves, List.filter_filter]
    refine List.filter_congr fun id _ => ?_
    cases hid : context.isDecidedAt id with
    | false => rw [Bool.not_false, Bool.and_true]
    | true => rw [hkept id hid, Bool.not_true, Bool.and_false]
  rw [hreport, hfilter, List.length_filter_lt_length_iff_exists]
  refine ⟨leaf, List.mem_filter.mpr ⟨hnumbered.mem_leafIds.mpr hleaf, ?_⟩, ?_⟩
  · rw [hopen, Bool.not_false]
  · simp [hreported]

/-- An evaluation on track makes progress. -/
theorem progresses (hl : Laid resolve tree [] 0 e) (hsize : tree.size = e.size)
    (hnumbered : tree.Numbered) (h : Tracks tree known context.counter 0 e) :
    Progresses tree suspend context := by
  refine ⟨⟨fun hroot => ?_, fun hexists => ?_⟩, fun leaf result hleaf hopen => ?_⟩
  · have hstatus := h.status_eq_none_iff.mpr (Context.isDecided_eq_false_iff.mp hroot)
    obtain ⟨leaf, hleaf, hwaits⟩ := h.exists_open_leaf hstatus
    exact ⟨leaf, hleaf, Context.isDecidedAt_eq_false_iff.mpr hwaits⟩
  · obtain ⟨leaf, hleaf, hopen⟩ := hexists
    rw [Context.isDecidedAt_eq_false_iff] at hopen
    exact Context.isDecided_eq_false_iff.mpr
      (h.counter_pos (h.open_of_leaf (covers_of_leaf hsize hleaf) hleaf hopen))
  · obtain ⟨next, hreport, _⟩ := report_of_tracks suspend hl hsize h hleaf hopen result
    have hfewer := h.openLeaves_report suspend hl hsize hnumbered hleaf hopen result
    rw [hreport] at hfewer
    exact ⟨next, hreport, hfewer⟩

/-- Every report of an orderly run takes up one of the leaves that are undecided at first. -/
theorem length_add_openLeaves_le (hl : Laid resolve tree [] 0 e) (hsize : tree.size = e.size)
    (hnumbered : tree.Numbered) (h : Tracks tree known context.counter 0 e)
    {reports : List (Nat × Bool)} (horderly : tree.Orderly suspend reports context) :
    reports.length + (tree.openLeaves (tree.reportAll suspend reports context)).length
      ≤ (tree.openLeaves context).length := by
  induction reports generalizing known context with
  | nil => exact Nat.le_of_eq (Nat.zero_add _)
  | cons report reports ih =>
    obtain ⟨leaf, result⟩ := report
    obtain ⟨_, hleaf, hopen, hrest⟩ := horderly
    obtain ⟨next, hreport, htrack⟩ := report_of_tracks suspend hl hsize h hleaf hopen result
    have hfewer := h.openLeaves_report suspend hl hsize hnumbered hleaf hopen result
    rw [hreport] at hrest hfewer
    have hlater := ih htrack hrest
    rw [Tree.reportAll, hreport, List.length_cons]
    dsimp only at hfewer ⊢
    omega

end Tracks

/-- The first reports of a row of picks. -/
def firstReports (picks : Nat → Nat × Bool) (n : Nat) : List (Nat × Bool) := (List.range n).map picks

/-- One more report comes last. -/
theorem firstReports_succ (picks : Nat → Nat × Bool) (n : Nat) :
    firstReports picks (n + 1) = firstReports picks n ++ [picks n] := by
  rw [firstReports, List.range_succ, List.map_append]
  rfl

/-- As long as undecided leaves are picked while the root is undecided, the picks are orderly, up to a
verdict. -/
theorem orderly_firstReports {picks : Nat → Nat × Bool} {n : Nat}
    (hpicks : ∀ i < n, (tree.reportAll suspend (firstReports picks i) context).isDecided = false →
      (tree.leaf? (picks i).1).isSome = true ∧
        (tree.reportAll suspend (firstReports picks i) context).isDecidedAt (picks i).1 = false) :
    ∃ m ≤ n, tree.Orderly suspend (firstReports picks m) context ∧
      (m = n ∨ (tree.reportAll suspend (firstReports picks m) context).isDecided = true) := by
  induction n with
  | zero => exact ⟨0, Nat.le_refl 0, trivial, .inl rfl⟩
  | succ n ih =>
    obtain ⟨m, hm, horderly, hcases⟩ := ih fun i hi => hpicks i (Nat.lt_succ_of_lt hi)
    cases hdecided : (tree.reportAll suspend (firstReports picks m) context).isDecided with
    | true => exact ⟨m, Nat.le_succ_of_le hm, horderly, .inr hdecided⟩
    | false =>
      rw [hdecided] at hcases
      obtain rfl := hcases.resolve_right Bool.false_ne_true
      obtain ⟨hleaf, hopen⟩ := hpicks m (Nat.lt_succ_self m) hdecided
      refine ⟨m + 1, Nat.le_refl _, ?_, .inl rfl⟩
      rw [firstReports_succ, Tree.orderly_append]
      exact ⟨horderly, hdecided, hleaf, hopen, trivial⟩

/-- Every state of an orderly run makes progress. And whoever reports undecided leaves as long as the
root is undecided, however they are picked, never sees a fault and knows the verdict after at most as
many reports as there are leaves. -/
theorem orderly_progress (hcompile : e.compile resolve = .ok tree)
    (hconstant : ∀ value, e ≠ .constant value) (session : σ) :
    (∀ reports, tree.Orderly suspend reports (.new tree session) →
      Progresses tree suspend (tree.reportAll suspend reports (.new tree session))) ∧
    ∀ picks : Nat → Nat × Bool,
      (∀ i < tree.leafIds.length,
        let context := tree.reportAll suspend (firstReports picks i) (.new tree session)
        context.isDecided = false →
          (tree.leaf? (picks i).1).isSome = true ∧ context.isDecidedAt (picks i).1 = false) →
      ∃ n ≤ tree.leafIds.length, tree.Orderly suspend (firstReports picks n) (.new tree session) ∧
        ∃ value, (tree.reportAll suspend (firstReports picks n) (.new tree session)).verdict
          = some value := by
  have hnumbered := numbered_of_compile hcompile
  have hprogress : ∀ reports, tree.Orderly suspend reports (.new tree session) →
      Progresses tree suspend (tree.reportAll suspend reports (.new tree session)) := by
    intro reports horderly
    obtain ⟨hl, hsize, htrack⟩ := tracks_orderly hcompile hconstant horderly
    exact htrack.progresses hl hsize hnumbered
  refine ⟨hprogress, fun picks hpicks => ?_⟩
  obtain ⟨n, hn, horderly, hcases⟩ := orderly_firstReports hpicks
  refine ⟨n, hn, horderly, Option.ne_none_iff_exists'.mp fun hnone => ?_⟩
  rw [Context.verdict_eq_none_iff] at hnone
  rw [hnone] at hcases
  obtain rfl := hcases.resolve_right Bool.false_ne_true
  -- All leaves have been reported, but one of them is undecided.
  obtain ⟨leaf, hleaf, hopen⟩ := (hprogress _ horderly).undecided_iff.mp hnone
  obtain ⟨hl, hsize, hnew⟩ := tracks_new hcompile hconstant session
  have hcount := hnew.length_add_openLeaves_le hl hsize hnumbered horderly
  have hfirst : (tree.openLeaves (Context.new tree session)).length ≤ tree.leafIds.length :=
    List.length_filter_le _ _
  have hmem : leaf ∈ tree.openLeaves
      (tree.reportAll suspend (firstReports picks tree.leafIds.length) (.new tree session)) :=
    List.mem_filter.mpr ⟨hnumbered.mem_leafIds.mpr hleaf, by rw [hopen, Bool.not_false]⟩
  have hpos := List.length_pos_of_mem hmem
  rw [firstReports, List.length_map, List.length_range] at hcount
  rw [firstReports] at hpos
  omega

/-- Reporting the first undecided leaf as true decides the nested tree after two reports, before its
last leaf is reached. -/
theorem orderly_progress_nested :
    let picks := fun i : Nat => (i + 2, true)
    nestedFilter.compile (fun _ => some ⟨[0], false⟩) = .ok nestedTree ∧
      nestedTree.leafIds.length = 3 ∧
      Progresses nestedTree List.cons
        (nestedTree.reportAll List.cons [(2, true)] (.new nestedTree [])) ∧
      ∃ n ≤ 3, nestedTree.Orderly List.cons (firstReports picks n) (.new nestedTree []) ∧
        ∃ value, (nestedTree.reportAll List.cons (firstReports picks n)
          (.new nestedTree [])).verdict = some value := by
  intro picks
  have hcompile : nestedFilter.compile (fun _ => some ⟨[0], false⟩) = .ok nestedTree := rfl
  have hconstant : ∀ value, nestedFilter ≠ .constant value := fun _ h => by cases h
  obtain ⟨hprogress, hverdict⟩ : (∀ reports, nestedTree.Orderly List.cons reports
      (.new nestedTree []) → Progresses nestedTree List.cons _) ∧ _ :=
    orderly_progress hcompile hconstant []
  exact ⟨hcompile, rfl, hprogress [(2, true)] (by decide +kernel),
    hverdict picks (by decide +kernel)⟩

end Percolator
