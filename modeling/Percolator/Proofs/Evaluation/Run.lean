import Percolator.Proofs.Evaluation.Tracking

/-!
# Runs of reports

A run is orderly if every report is made while the root is undecided, and on a leaf that is itself
undecided. Main statement: no report of an orderly run faults, and after every report the verdict is
known exactly if it no longer depends on the leaves not reported, which the report that settles it
answers.
-/

namespace Percolator

open Percolator.Expr

variable {σ : Type}

/-- What reports tell about the conditions. -/
def reported (reports : List (Nat × Bool)) : Nat → Option Bool := fun i => reports.lookup i

namespace Tree

/-- The state of an evaluation after reports, which go on after a fault. -/
def reportAll (tree : Tree) (suspend : Nat → σ → σ) :
    List (Nat × Bool) → Context σ → Context σ
  | [], context => context
  | (i, result) :: reports, context =>
    tree.reportAll suspend reports (tree.report suspend i result context).1

/-- Every report is made while the root is undecided, on a leaf that is undecided. -/
def Orderly (tree : Tree) (suspend : Nat → σ → σ) : List (Nat × Bool) → Context σ → Prop
  | [], _ => True
  | (i, result) :: reports, context =>
    context.isDecided = false ∧ (tree.leaf? i).isSome = true ∧ context.isDecidedAt i = false ∧
      tree.Orderly suspend reports (tree.report suspend i result context).1

/-- Whether a run is orderly is found out by running it. -/
instance decidableOrderly (tree : Tree) (suspend : Nat → σ → σ) :
    (reports : List (Nat × Bool)) → (context : Context σ) →
      Decidable (tree.Orderly suspend reports context)
  | [], _ => .isTrue trivial
  | (i, result) :: reports, context =>
    have := decidableOrderly tree suspend reports (tree.report suspend i result context).1
    inferInstanceAs (Decidable (_ ∧ _ ∧ _ ∧ _))

/-- Reports that follow others start where those ended. -/
theorem reportAll_append (tree : Tree) (suspend : Nat → σ → σ) (earlier later : List (Nat × Bool))
    (context : Context σ) : tree.reportAll suspend (earlier ++ later) context
      = tree.reportAll suspend later (tree.reportAll suspend earlier context) := by
  induction earlier generalizing context with
  | nil => rfl
  | cons report earlier ih => exact ih _

/-- Both parts of an orderly run are orderly. -/
theorem orderly_append {tree : Tree} {suspend : Nat → σ → σ} {earlier later : List (Nat × Bool)}
    {context : Context σ} : tree.Orderly suspend (earlier ++ later) context ↔
      tree.Orderly suspend earlier context ∧
        tree.Orderly suspend later (tree.reportAll suspend earlier context) := by
  induction earlier generalizing context with
  | nil => simp [Orderly, reportAll]
  | cons report earlier ih =>
    rw [List.cons_append, Orderly, Orderly, reportAll, ih]
    simp only [and_assoc]

end Tree

variable {resolve : String → Option Path} {tree : Tree} {suspend : Nat → σ → σ}
  {known : Nat → Option Bool} {e : Expr} {context : Context σ}

/-- The verdict of an evaluation on track is the status of the filter. -/
theorem verdict_of_tracks (ht : Tracks tree known context.counter 0 e) :
    context.verdict = e.verdict known := by
  rw [verdict_eq_status]
  cases hs : e.status known 0 with
  | none =>
    exact Context.verdict_eq_none_iff.mpr (Context.isDecided_eq_false_iff.mpr (ht.counter_pos hs))
  | some b => exact Context.verdict_of_counter (ht.of_settled hs).1

/-- The number of a leaf is one of the filter's. -/
theorem covers_of_leaf (hsize : tree.size = e.size) {i : Nat}
    (hleaf : (tree.leaf? i).isSome = true) : Covers 0 e i := by
  have hi := Tree.lt_size_of_isLeaf hleaf
  rw [hsize] at hi
  exact ⟨Nat.zero_le i, by omega⟩

variable (suspend) in
/-- A report of an undecided leaf does not fault, keeps the evaluation on track and answers the
verdict. -/
theorem report_of_tracks (hl : Laid resolve tree [] 0 e) (hsize : tree.size = e.size)
    (ht : Tracks tree known context.counter 0 e) {i : Nat} (hleaf : (tree.leaf? i).isSome = true)
    (hopen : context.isDecidedAt i = false) (result : Bool) :
    ∃ next, tree.report suspend i result context = (next, .ok next.verdict) ∧
      Tracks tree (learn known i result) next.counter 0 e := by
  have hi := covers_of_leaf hsize hleaf
  rw [Context.isDecidedAt_eq_false_iff] at hopen
  have hroot := ht.counter_pos (ht.open_of_leaf hi hleaf hopen)
  obtain ⟨node, hnode, hstart⟩ := hl.exists_node hi
  obtain ⟨leaf, hkind⟩ : ∃ leaf, node.kind = .leaf leaf := by
    rw [Tree.leaf?, hnode, Option.bind_some, Node.leaf?] at hleaf
    cases hkind : node.kind with
    | leaf leaf => exact ⟨leaf, rfl⟩
    | join c arity => simp [hkind] at hleaf
  obtain ⟨next, _, _, htrack, hclimb⟩ :=
    tracks_report suspend hl ht hi hnode hkind hopen hroot result
  have hverdict := verdict_of_tracks htrack
  rw [verdict_eq_status] at hverdict
  have hundecided : context.isDecided = false := Context.isDecidedAt_eq_false_iff.mpr hroot
  have hleaf' : node.leaf? = some leaf := by rw [Node.leaf?, hkind]
  obtain ⟨_, _, hpart⟩ := hl.exists_part hi
  have hid : leaf.id = i := hpart.leaf_id (Option.bind_eq_some_iff.mpr ⟨node, hnode, hleaf'⟩)
  have hreport := Tree.report_of_leaf hnode hleaf' hid suspend result context
  rw [hreport, Tree.reportLeaf, hundecided, if_neg (by decide), hstart]
  cases habove : node.above with
  | nil =>
    -- The leaf is the root, and is suspended without a sweep.
    rw [habove, Tree.climb] at hclimb
    cases hs : e.status (learn known i result) 0 with
    | none => simp [hs] at hclimb
    | some b =>
      simp only [hs, Tree.climb, Prod.mk.injEq, Except.ok.injEq] at hclimb
      obtain ⟨hmark, hvalue⟩ := hclimb
      have hcounters : (tree.suspendLeaf suspend next i).counter = next.counter :=
        funext fun j => Tree.counter_suspendLeaf next i j
      have htrack' : Tracks tree (learn known i result)
          (tree.suspendLeaf suspend next i).counter 0 e := hcounters ▸ htrack
      refine ⟨tree.suspendLeaf suspend next i, ?_, htrack'⟩
      rw [verdict_of_tracks htrack', verdict_eq_status, hs, ← hvalue, ← hmark]
  | cons parent above =>
    rw [habove] at hclimb
    refine ⟨next, ?_, htrack⟩
    dsimp only
    rw [hclimb, hverdict]
    cases hs : e.status (learn known i result) 0 with
    | none => rfl
    | some b => rfl

/-- An orderly run keeps the evaluation on track. -/
theorem tracks_reportAll (hl : Laid resolve tree [] 0 e) (hsize : tree.size = e.size)
    (reports : List (Nat × Bool)) (ht : Tracks tree known context.counter 0 e)
    (horderly : tree.Orderly suspend reports context) :
    Tracks tree (fun i => (known i).or (reported reports i))
      (tree.reportAll suspend reports context).counter 0 e := by
  induction reports generalizing known context with
  | nil =>
    refine ht.congr (fun i _ => ?_) fun _ _ => rfl
    exact (Option.or_none).symm
  | cons report reports ih =>
    obtain ⟨i, result⟩ := report
    obtain ⟨_, hleaf, hopen, hrest⟩ := horderly
    obtain ⟨next, hreport, htrack⟩ := report_of_tracks suspend hl hsize ht hleaf hopen result
    have hunknown : known i = none := ht.known_eq_none hl (covers_of_leaf hsize hleaf) hleaf
      (Context.isDecidedAt_eq_false_iff.mp hopen)
    rw [Tree.reportAll, hreport]
    rw [hreport] at hrest
    refine (ih htrack hrest).congr (fun j _ => ?_) fun _ _ => rfl
    by_cases hj : j = i
    · rw [hj, learn, if_pos rfl, hunknown, Option.none_or, Option.some_or]
      exact List.lookup_cons_self.symm
    · rw [learn, if_neg hj, reported, reported, List.lookup_cons, beq_false_of_ne hj]

/-- A new evaluation is on track of knowing nothing. -/
theorem tracks_new (hcompile : e.compile resolve = .ok tree)
    (hconstant : ∀ value, e ≠ .constant value) (session : σ) :
    Laid resolve tree [] 0 e ∧ tree.size = e.size ∧
      Tracks tree (fun _ => none) (Context.new tree session).counter 0 e := by
  rcases laid_of_compile hcompile with ⟨value, he, _⟩ | ⟨hl, hsize, hinitial⟩
  · exact absurd he (hconstant value)
  · refine ⟨hl, hsize, tracks_initial hl fun i node hnode => ?_⟩
    rw [Context.counter, Context.new, hinitial, Array.getElem?_map, hnode]
    rfl

/-- An orderly run from a new evaluation keeps it on track of what the reports tell. -/
theorem tracks_orderly (hcompile : e.compile resolve = .ok tree)
    (hconstant : ∀ value, e ≠ .constant value) {session : σ} {reports : List (Nat × Bool)}
    (horderly : tree.Orderly suspend reports (.new tree session)) :
    Laid resolve tree [] 0 e ∧ tree.size = e.size ∧
      Tracks tree (reported reports)
        (tree.reportAll suspend reports (.new tree session)).counter 0 e := by
  obtain ⟨hl, hsize, hnew⟩ := tracks_new hcompile hconstant session
  exact ⟨hl, hsize, tracks_reportAll hl hsize reports hnew horderly⟩

/-- No report of an orderly run faults. After any part of the run the verdict is the value of the
filter as soon as that no longer depends on the leaves not reported, and unknown before; and the
next report answers the verdict that is known after it. -/
theorem orderly_run_exact (hcompile : e.compile resolve = .ok tree)
    (hconstant : ∀ value, e ≠ .constant value) {session : σ} {earlier later : List (Nat × Bool)}
    (horderly : tree.Orderly suspend (earlier ++ later) (.new tree session)) :
    ((tree.reportAll suspend earlier (.new tree session)).verdict = some true ↔
      e.evaluate (reported earlier) false 0 = true) ∧
    ((tree.reportAll suspend earlier (.new tree session)).verdict = some false ↔
      e.evaluate (reported earlier) true 0 = false) ∧
    ∀ i result rest, later = (i, result) :: rest →
      (tree.reportAll suspend earlier (.new tree session)).verdict = none ∧
      (tree.report suspend i result (tree.reportAll suspend earlier (.new tree session))).2
        = .ok (tree.reportAll suspend (earlier ++ [(i, result)]) (.new tree session)).verdict := by
  obtain ⟨hearlier, hlater⟩ := Tree.orderly_append.mp horderly
  obtain ⟨hl, hsize, htrack⟩ := tracks_orderly hcompile hconstant hearlier
  rw [verdict_of_tracks htrack, verdict_eq_status, status_eq_some_iff, status_eq_some_iff]
  refine ⟨Iff.rfl, Iff.rfl, ?_⟩
  intro i result rest heq
  subst heq
  obtain ⟨_, hleaf, hopen, _⟩ := hlater
  refine ⟨htrack.open_of_leaf (covers_of_leaf hsize hleaf) hleaf
    (Context.isDecidedAt_eq_false_iff.mp hopen), ?_⟩
  obtain ⟨next, hreport, _⟩ := report_of_tracks suspend hl hsize htrack hleaf hopen result
  rw [Tree.reportAll_append, Tree.reportAll, Tree.reportAll, hreport]

/-- A disjunction of a conjunction and a condition. -/
def nestedFilter : Expr :=
  .join .or [.join .and [.test "a" .isNull, .test "b" .isNull], .test "c" .isNull]

/-- The tree of `nestedFilter` when all attributes are the same one. -/
def nestedTree : Tree :=
  let leaf (id : Nat) : Leaf := ⟨id, .isNull, false, ⟨[0], false⟩⟩
  .arena #[⟨[], 0, 5, .join .or 2⟩, ⟨[0], 1, 4, .join .and 2⟩, ⟨[1, 0], 2, 3, .leaf (leaf 2)⟩,
    ⟨[1, 0], 3, 4, .leaf (leaf 3)⟩, ⟨[0], 4, 5, .leaf (leaf 4)⟩]

/-- A conjunction that fails late in a disjunction that has failed so far settles the verdict. -/
theorem orderly_run_exact_nested :
    nestedFilter.compile (fun _ => some ⟨[0], false⟩) = .ok nestedTree ∧
      nestedTree.Orderly List.cons ([(2, true), (4, false)] ++ [(3, false)]) (.new nestedTree []) ∧
      (nestedTree.reportAll List.cons [(2, true), (4, false)] (.new nestedTree [])).verdict = none ∧
      (nestedTree.report List.cons 3 false
          (nestedTree.reportAll List.cons [(2, true), (4, false)] (.new nestedTree []))).2
        = .ok (nestedTree.reportAll List.cons ([(2, true), (4, false)] ++ [(3, false)])
            (.new nestedTree [])).verdict := by
  have hcompile : nestedFilter.compile (fun _ => some ⟨[0], false⟩) = .ok nestedTree := rfl
  have hconstant : ∀ value, nestedFilter ≠ .constant value := fun _ h => by cases h
  have horderly : nestedTree.Orderly List.cons ([(2, true), (4, false)] ++ [(3, false)])
      (.new nestedTree []) := by decide +kernel
  have hrun := orderly_run_exact hcompile hconstant horderly
  exact ⟨hcompile, horderly, hrun.2.2 3 false [] rfl⟩

end Percolator
