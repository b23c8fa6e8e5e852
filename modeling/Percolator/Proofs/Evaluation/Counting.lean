import Percolator.Proofs.Evaluation.Run
import Percolator.Proofs.Tree.Preorder

/-!
# What counters tell

The counter of a node is only kept up while no operator above the node is decided: a sweep decides
the leaves below its node, but leaves the operators there alone unless they count down from one. So
nothing can be said of the operators below a decided one. Main statement: after an orderly run every
leaf below a decided node is decided, and every node with nothing decided above it has the counter
that tells the value of its part, or the number of its undecided children as long as the value still
depends on leaves that were not reported.
-/

namespace Percolator

open Percolator.Expr

namespace Expr

variable {resolve : String → Option Path} {tree : Tree} {above : List Nat} {start i : Nat}
  {e part : Expr}

/-- Parents lead up from every part of an operand to the operator. -/
theorem Laid.below_of_partAt {c : Connective} {es : List Expr} {p : Nat × Expr}
    (hl : Laid resolve tree above start (Expr.join c es)) (hp : p ∈ places (start + 1) es)
    (hpart : PartAt p.1 p.2 i part) : Relation.TransGen tree.Below i start :=
  .tail' ((hl.operands p hp).reaches_start hpart.covers) (hl.operands p hp).parentOf?_start

end Expr

/-- The counter of the node of a part tells how far its value is known. -/
structure Tells (tree : Tree) (known : Nat → Option Bool) (counter : Nat → Int) (i : Nat)
    (part : Expr) : Prop where
  /-- It is zero exactly if the part holds however the unknown leaves turn out. -/
  holds : counter i = 0 ↔ part.evaluate known false i = true
  /-- It is minus one exactly if the part fails however the unknown leaves turn out. -/
  fails : counter i = -1 ↔ part.evaluate known true i = false
  /-- Otherwise it is one for a leaf, of which nothing is known. -/
  waits : counter i ≠ 0 → counter i ≠ -1 → (tree.leaf? i).isSome = true →
    known i = none ∧ counter i = 1
  /-- Otherwise it is the number of undecided children for an operator, of which there are some. -/
  counts : counter i ≠ 0 → counter i ≠ -1 → tree.leaf? i = none →
    0 < counter i ∧ counter i = (tree.children i).countP fun child => 0 < counter child

/-- The counters of an evaluation account for what is known about the leaves. -/
structure Accounts {σ : Type} (tree : Tree) (known : Nat → Option Bool) (context : Context σ)
    (e : Expr) : Prop where
  /-- A leaf at or below a decided node is decided. -/
  shadow : ∀ leaf node, (tree.leaf? leaf).isSome = true → Relation.ReflTransGen tree.Below leaf node →
    context.isDecidedAt node = true → context.isDecidedAt leaf = true
  /-- With nothing decided above it, a node has the counter that tells the value of its part. -/
  counters : ∀ i part, PartAt 0 e i part →
    (∀ ancestor, Relation.TransGen tree.Below i ancestor → context.isDecidedAt ancestor = false) →
    Tells tree known context.counter i part

variable {σ : Type} {resolve : String → Option Path} {tree : Tree} {suspend : Nat → σ → σ}
  {known : Nat → Option Bool} {counter : Nat → Int} {above : List Nat} {start i : Nat}
  {e part : Expr} {context : Context σ}

/-- A part is on track with the filter around it, unless something above it is decided. -/
theorem Tracks.partAt (h : Tracks tree known counter start e) (hl : Laid resolve tree above start e)
    (hpart : PartAt start e i part)
    (hopen : ∀ ancestor, Relation.TransGen tree.Below i ancestor → 0 < counter ancestor) :
    Tracks tree known counter i part := by
  induction hpart generalizing above with
  | self => exact h
  | @operand start c es p i part hp hpart ih =>
    have hstart : 0 < counter start := hopen start (hl.below_of_partAt hp hpart)
    cases h with
    | settled _ hcounter _ =>
      rw [hcounter] at hstart
      exact absurd hstart (Int.not_lt.mpr (decidedCounter_nonpos _))
    | waiting _ _ hleaf _ => simp [(laid_join hl).2] at hleaf
    | pending _ _ _ hbelow => exact ih (hbelow p hp) (hl.operands p hp) hopen

/-- The counter of a node on track tells the value of its part. -/
theorem Tracks.tells (h : Tracks tree known counter start e) (hl : Laid resolve tree above start e) :
    Tells tree known counter start e := by
  have hvalue : ∀ b, counter start = decidedCounter b ↔ e.evaluate known (!b) start = b := by
    intro b
    rw [← status_eq_some_iff]
    refine ⟨fun hcounter => ?_, fun hstatus => (h.of_settled hstatus).1⟩
    cases hs : e.status known start with
    | none =>
      have hpos := h.counter_pos hs
      have hnonpos := decidedCounter_nonpos b
      omega
    | some b' =>
      rw [(h.of_settled hs).1] at hcounter
      cases b <;> cases b' <;> simp_all [decidedCounter]
  have hsettled : ∀ b, e.status known start = some b → counter start = 0 ∨ counter start = -1 := by
    intro b hstatus
    rw [(h.of_settled hstatus).1]
    cases b with
    | true => exact .inl rfl
    | false => exact .inr rfl
  refine ⟨hvalue true, hvalue false, fun hholds hfails hleaf => ?_, fun hholds hfails hjoin => ?_⟩
  · cases h with
    | settled hstatus _ _ => exact absurd (hsettled _ hstatus) (by omega)
    | waiting hstatus hsize _ hone =>
      refine ⟨?_, hone⟩
      refine Tracks.known_eq_none hl (.waiting hstatus hsize hleaf hone) (covers_self _ _) hleaf ?_
      omega
    | pending _ hnone _ _ => simp [hnone] at hleaf
  · cases h with
    | settled hstatus _ _ => exact absurd (hsettled _ hstatus) (by omega)
    | waiting _ _ hleaf _ => simp [hjoin] at hleaf
    | pending hstatus _ hcount hbelow =>
      refine ⟨(Tracks.pending hstatus hjoin hcount hbelow).counter_pos hstatus, ?_⟩
      rw [hcount, statuses, hl.children_join, List.countP_map, List.countP_map]
      refine congrArg Nat.cast (List.countP_congr fun p hp => ?_)
      rw [Function.comp_apply, Function.comp_apply, Option.isNone_iff_eq_none, decide_eq_true_iff]
      exact (hbelow p hp).status_eq_none_iff

/-- Above an undecided leaf nothing is decided. -/
theorem Tracks.open_above (h : Tracks tree known counter 0 e) (hl : Laid resolve tree [] 0 e)
    (hsize : tree.size = e.size) (hleaf : (tree.leaf? i).isSome = true) (hopen : 0 < counter i)
    (node : Nat) (hreaches : Relation.ReflTransGen tree.Below i node) : 0 < counter node := by
  -- Nodes come after the operators above them, so the topmost nodes are taken first.
  induction node using Nat.strongRecOn with
  | ind node ih =>
    have hnode : node < tree.size := by
      rcases hreaches.cases_tail with heq | ⟨_, _, hbelow⟩
      · exact heq ▸ Tree.lt_size_of_isLeaf hleaf
      · obtain ⟨_, _, _, _, hlaid, _⟩ := hl.operand_of_below hsize hbelow
        obtain ⟨_, hfirst⟩ := hlaid.first_node
        exact (Array.getElem?_eq_some_iff.mp hfirst).1
    obtain ⟨part, hpart⟩ := hl.exists_partAt ⟨Nat.zero_le node, by omega⟩
    obtain ⟨_, hlaid⟩ := hpart.laid hl
    have htrack : Tracks tree known counter node part := h.partAt hl hpart fun ancestor hancestor =>
      ih ancestor (Tree.lt_of_above (fun _ _ => hl.lt_of_below hsize) hancestor)
        (hreaches.trans hancestor.to_reflTransGen)
    have hi : Covers node part i :=
      hlaid.mem_spanOf_start.mp (hl.mem_spanOf_of_reaches hsize hnode hreaches)
    exact htrack.counter_pos (htrack.open_of_leaf hi hleaf hopen)

/-- An evaluation on track accounts for what is known. -/
theorem Tracks.accounts (h : Tracks tree known context.counter 0 e) (hl : Laid resolve tree [] 0 e)
    (hsize : tree.size = e.size) : Accounts tree known context e := by
  constructor
  · intro leaf node hleaf hreaches hdecided
    refine Classical.byContradiction fun hopen => ?_
    rw [Bool.not_eq_true, Context.isDecidedAt_eq_false_iff] at hopen
    have hnode := h.open_above hl hsize hleaf hopen node hreaches
    rw [Context.isDecidedAt_iff] at hdecided
    omega
  · intro i part hpart hopen
    obtain ⟨_, hlaid⟩ := hpart.laid hl
    refine (h.partAt hl hpart fun ancestor hancestor => ?_).tells hlaid
    exact Context.isDecidedAt_eq_false_iff.mp (hopen ancestor hancestor)

/-- Every node of a compiled filter has a part, which it depicts, and after an orderly run the
counters account for what the reports tell. -/
theorem counters_exact (hcompile : e.compile resolve = .ok tree)
    (hconstant : ∀ value, e ≠ .constant value) {session : σ} {reports : List (Nat × Bool)}
    (horderly : tree.Orderly suspend reports (.new tree session)) :
    (∀ i < tree.size, ∃ part, PartAt 0 e i part) ∧
    (∀ i part, PartAt 0 e i part → ∃ outline, Depicts resolve part outline ∧
      tree.outlineAt part.size i = some outline) ∧
    Accounts tree (reported reports) (tree.reportAll suspend reports (.new tree session)) e := by
  obtain ⟨hl, hsize, htrack⟩ := tracks_orderly hcompile hconstant horderly
  refine ⟨fun i hi => hl.exists_partAt ⟨Nat.zero_le i, by omega⟩, fun i part hpart => ?_,
    htrack.accounts hl hsize⟩
  obtain ⟨_, hlaid⟩ := hpart.laid hl
  exact hlaid.outlineAt_start (Nat.le_refl part.size)

/-- A disjunction within a conjunction within a disjunction. -/
def shadowedFilter : Expr :=
  .join .or [.join .and [.join .or [.test "a" .isNull, .test "b" .isNull], .test "c" .isNull],
    .test "d" .isNull]

/-- The tree of `shadowedFilter` when all attributes are the same one. -/
def shadowedTree : Tree :=
  let leaf (id : Nat) : Leaf := ⟨id, .isNull, false, ⟨[0], false⟩⟩
  .arena #[⟨[], 0, 7, .join .or 2⟩, ⟨[0], 1, 6, .join .and 2⟩, ⟨[1, 0], 2, 5, .join .or 2⟩,
    ⟨[2, 1, 0], 3, 4, .leaf (leaf 3)⟩, ⟨[2, 1, 0], 4, 5, .leaf (leaf 4)⟩,
    ⟨[1, 0], 5, 6, .leaf (leaf 5)⟩, ⟨[0], 6, 7, .leaf (leaf 6)⟩]

/-- When the conjunction fails early, the disjunction below it keeps the counter two though both of
its leaves are decided, and the one above it counts the last leaf. -/
theorem counters_exact_shadowed :
    shadowedFilter.compile (fun _ => some ⟨[0], false⟩) = .ok shadowedTree ∧
      shadowedTree.Orderly List.cons [(5, false)] (.new shadowedTree []) ∧
      (shadowedTree.reportAll List.cons [(5, false)] (.new shadowedTree [])).counters
        = #[1, -1, 2, -1, -1, -1, 1] ∧
      Accounts shadowedTree (reported [(5, false)])
        (shadowedTree.reportAll List.cons [(5, false)] (.new shadowedTree [])) shadowedFilter := by
  have hcompile : shadowedFilter.compile (fun _ => some ⟨[0], false⟩) = .ok shadowedTree := rfl
  have hconstant : ∀ value, shadowedFilter ≠ .constant value := fun _ h => by cases h
  have horderly : shadowedTree.Orderly List.cons [(5, false)] (.new shadowedTree []) := by
    decide +kernel
  have hcounts := counters_exact hcompile hconstant horderly
  exact ⟨hcompile, horderly, by decide +kernel, hcounts.2.2⟩

end Percolator
