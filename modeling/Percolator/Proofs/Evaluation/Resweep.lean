import Percolator.Proofs.Evaluation.Damage

/-!
# Sweeping again changes nothing

An operator that takes a value without being decided sweeps the node that the value came from. That node
was decided just before: a leaf was marked by its own report, and an operator was swept with the same
value. Main statements: whatever state an evaluation is in, sweeping a node a second time changes
nothing; and whatever is reported, evaluations go step by step as if operators that stay undecided swept
nothing.
-/

namespace Percolator

open Relation

variable {σ : Type}

/-- What reports come to, one after the other: the state after each, and what it answers. A report that
faults keeps the changes that it made before. -/
def trace (report : Nat → Bool → Context σ → Reported σ) :
    List (Nat × Bool) → Context σ → List (Reported σ)
  | [], _ => []
  | (id, result) :: reports, context =>
    let reported := report id result context
    reported :: trace report reports reported.1

/-- Reports that come to the same one by one do so in a row. -/
theorem trace_congr {report other : Nat → Bool → Context σ → Reported σ}
    (h : ∀ id result context, report id result context = other id result context)
    (reports : List (Nat × Bool)) (context : Context σ) :
    trace report reports context = trace other reports context := by
  induction reports generalizing context with
  | nil => rfl
  | cons first reports ih =>
    obtain ⟨id, result⟩ := first
    rw [trace, trace, h id result context, ih]

namespace Context

/-- Marking a node a second time changes nothing. -/
theorem mark_mark (context : Context σ) (id : Nat) (value : Bool) :
    (context.mark id value).mark id value = context.mark id value := by
  simp [mark, setCounter]

/-- No counter is one where a node has just been marked. -/
theorem counter_mark_self_ne_one (context : Context σ) (id : Nat) (value : Bool) :
    (context.mark id value).counter id ≠ 1 := by
  rcases Nat.lt_or_ge id context.counters.size with hid | hid
  · rw [counter_mark _ _ _ _ hid, if_pos rfl]
    exact decidedCounter_ne_one value
  · rw [counter, Array.getElem?_eq_none (by rw [size_mark]; exact hid)]
    decide

/-- Counters of different nodes may be set in either order. -/
theorem mark_setCounter_comm (context : Context σ) {id other : Nat} (h : other ≠ id)
    (counter : Int) (value : Bool) :
    (context.setCounter other counter).mark id value
      = (context.mark id value).setCounter other counter := by
  rw [mark, setCounter, setCounter, mark, setCounter, setCounter]
  congr 1
  exact Array.setIfInBounds_comm _ _ h

end Context

namespace Tree

variable {tree : Tree} {suspend : Nat → σ → σ} {value : Bool} {id other child : Nat}
  {above : List Nat} {context : Context σ}

/-- A node is marked with a value, and nothing in its span waits. -/
structure Swept (tree : Tree) (id : Nat) (value : Bool) (context : Context σ) : Prop where
  marked : context.mark id value = context
  settled : ∀ i ∈ tree.spanOf id, context.counter i ≠ 1

/-- Forcing nodes that do not have the counter one changes nothing. -/
theorem foldl_force_eq_self {ids : List Nat} (h : ∀ i ∈ ids, context.counter i ≠ 1) :
    ids.foldl (tree.force suspend value) context = context := by
  induction ids with
  | nil => rfl
  | cons i ids ih =>
    rw [List.foldl_cons, force, if_neg (h i List.mem_cons_self)]
    exact ih fun j hj => h j (List.mem_cons_of_mem _ hj)

/-- Sweeping a node that is swept changes nothing. -/
theorem Swept.sweep_eq (h : Swept tree id value context) :
    tree.sweep suspend id value context = context := by
  unfold sweep
  cases hnode : tree.nodes[id]? with
  | none => rfl
  | some node =>
    have hsettled := h.settled
    rw [spanOf_eq_span hnode] at hsettled
    dsimp only
    rw [foldl_force_eq_self hsettled, h.marked]

/-- After a sweep a node is swept. -/
theorem swept_sweep (suspend : Nat → σ → σ) (hid : id < tree.size) (value : Bool)
    (context : Context σ) : Swept tree id value (tree.sweep suspend id value context) := by
  obtain ⟨node, hnode⟩ : ∃ node, tree.nodes[id]? = some node :=
    ⟨_, Array.getElem?_eq_getElem hid⟩
  have hsweep : tree.sweep suspend id value context
      = (node.span.foldl (tree.force suspend value) context).mark id value := by
    unfold sweep
    rw [hnode]
  rw [hsweep]
  refine ⟨Context.mark_mark _ _ _, fun i hi => ?_⟩
  rw [spanOf_eq_span hnode] at hi
  by_cases hself : i = id
  · rw [hself]
    exact Context.counter_mark_self_ne_one _ id value
  · rw [Context.mark, Context.counter_setCounter_of_ne _ _ hself, counter_foldl_force]
    split
    · exact decidedCounter_ne_one value
    · rename_i hwaits
      exact fun hone => hwaits ⟨hi, hone⟩

/-- Sweeping a node a second time changes nothing. -/
theorem sweep_sweep (tree : Tree) (suspend : Nat → σ → σ) (id : Nat) (value : Bool)
    (context : Context σ) : tree.sweep suspend id value (tree.sweep suspend id value context)
      = tree.sweep suspend id value context := by
  rcases Nat.lt_or_ge id tree.size with hid | hid
  · exact (swept_sweep suspend hid value context).sweep_eq
  · have hnone : tree.nodes[id]? = none := Array.getElem?_eq_none hid
    unfold sweep
    rw [hnone]

/-- Changing the counter of a node outside the span leaves a node swept. -/
theorem Swept.setCounter (h : Swept tree id value context) (hne : other ≠ id)
    (hout : other ∉ tree.spanOf id) (counter : Int) :
    Swept tree id value (context.setCounter other counter) := by
  refine ⟨?_, fun i hi => ?_⟩
  · rw [Context.mark_setCounter_comm _ hne, h.marked]
  · rw [Context.counter_setCounter_of_ne]
    · exact h.settled i hi
    · rintro rfl
      exact hout hi

/-- A leaf is swept as soon as it is marked. -/
theorem Rooted.swept_mark (h : tree.Rooted) (hleaf : (tree.leaf? id).isSome = true) (value : Bool)
    (context : Context σ) : Swept tree id value (context.mark id value) := by
  refine ⟨Context.mark_mark _ _ _, fun i hi => ?_⟩
  rw [h.spans id (lt_size_of_isLeaf hleaf)] at hi
  rw [h.eq_of_reaches_leaf hleaf hi]
  exact Context.counter_mark_self_ne_one _ id value

/-- Hand the value of a decided node to the operators above it, nearest first. An operator that takes
the value without being decided sweeps nothing. -/
def climbSparing (tree : Tree) (suspend : Nat → σ → σ) (value : Bool) :
    (above : List Nat) → Context σ → Reported σ
  | [], context => (context, .ok (some value))
  | id :: above, context =>
    if context.isDecidedAt id || context.isDecided then (context, .error (.alreadyDecided id))
    else if (tree.connective? id).any fun connective => connective.absorbing = value then
      tree.climbSparing suspend value above (tree.sweep suspend id value context)
    else
      let context := context.setCounter id (context.counter id - 1)
      if context.counter id = 0 then
        tree.climbSparing suspend value above (tree.sweep suspend id value context)
      else (context, .ok none)

/-- Report the result of the predicate of a leaf, and climb without the last sweep. -/
def reportSparing (tree : Tree) (suspend : Nat → σ → σ) (id : Nat) (result : Bool)
    (context : Context σ) : Reported σ :=
  match tree.nodes[id]? with
  | none => (context, .error (.outOfBounds tree.size id))
  | some node =>
    match node.kind with
    | .join .. => (context, .error (.notLeaf id))
    | .leaf leaf =>
      if leaf.id != id then (context, .error (.foreignReport leaf.id))
      else if context.isDecided then (context, .error (.evaluationDecided node.start))
      else
        let value := result != leaf.negated
        let context := context.mark node.start value
        match node.above with
        | [] => (tree.suspendLeaf suspend context node.start, .ok (some value))
        | above => tree.climbSparing suspend value above context

/-- From a swept node on the last sweep of a climb changes nothing. -/
theorem Rooted.climb_eq_sparing (h : tree.Rooted) (hchild : child < tree.size)
    (hlineage : tree.Lineage child above) (hswept : Swept tree child value context) :
    tree.climb suspend value child above context
      = tree.climbSparing suspend value above context := by
  induction above generalizing child context with
  | nil => rfl
  | cons id above ih =>
    obtain ⟨hbelow, hlineage⟩ := hlineage
    have hlt : id < child := h.parents _ _ hbelow
    have hid : id < tree.size := Nat.lt_trans hlt hchild
    have hnext : ∀ context : Context σ,
        tree.climb suspend value id above (tree.sweep suspend id value context)
          = tree.climbSparing suspend value above (tree.sweep suspend id value context) :=
      fun context => ih hid hlineage (swept_sweep suspend hid value context)
    rw [climb, climbSparing]
    split
    · rfl
    · split
      · exact hnext context
      · dsimp only
        split
        · exact hnext _
        · -- Counting the operator down does not touch the span of the node below it.
          have hout : id ∉ tree.spanOf child := by
            rw [h.spans child hchild]
            exact h.not_reaches_of_above (.single hbelow)
          rw [(hswept.setCounter (Nat.ne_of_lt hlt) hout _).sweep_eq]

/-- A report does the same with the last sweep and without. -/
theorem Rooted.report_eq_sparing (h : tree.Rooted) (suspend : Nat → σ → σ) (id : Nat)
    (result : Bool) (context : Context σ) :
    tree.report suspend id result context = tree.reportSparing suspend id result context := by
  unfold report reportSparing
  cases hnode : tree.nodes[id]? with
  | none => rfl
  | some node =>
    dsimp only
    cases hkind : node.kind with
    | join c arity => rfl
    | leaf leaf =>
      dsimp only
      have hstart : node.start = id := h.numbered.nodes id node hnode
      have hfound : tree.leaf? id = some leaf := by
        simp [leaf?, hnode, Node.leaf?, hkind]
      have hleaf := Option.isSome_of_eq_some hfound
      have hlineage := h.lineage id node hnode
      have hid := h.numbered.leaves id leaf hfound
      rw [if_pos hid, if_neg (by simp [hid]), reportLeaf, hstart]
      split
      · rfl
      · dsimp only
        cases habove : node.above with
        | nil => rfl
        | cons parent above =>
          rw [habove] at hlineage
          exact h.climb_eq_sparing (lt_size_of_isLeaf hleaf) hlineage
            (h.swept_mark hleaf _ context)

end Tree

/-- However leaves are subscribed and whatever state an evaluation is in, sweeping a node a second time
changes nothing. Whatever is reported, in whatever order and how often, reports come to the same as if
operators that stay undecided swept nothing, also those that fault. -/
theorem last_sweep_redundant {resolve : String → Option Path} {tree : Tree} {e : Expr}
    (hcompile : e.compile resolve = .ok tree) (suspend : Nat → σ → σ) :
    (∀ id value context, tree.sweep suspend id value (tree.sweep suspend id value context)
      = tree.sweep suspend id value context) ∧
    ∀ reports context, trace (tree.report suspend) reports context
      = trace (tree.reportSparing suspend) reports context := by
  have hrooted := Expr.rooted_of_compile hcompile
  refine ⟨fun id value context => Tree.sweep_sweep tree suspend id value context,
    fun reports context => ?_⟩
  exact trace_congr (fun id result context => hrooted.report_eq_sparing suspend id result context)
    reports context

/-- The conjunction fails and the root stays undecided; then a leaf below the conjunction is reported
again, which faults; then the last leaf decides the root. -/
theorem last_sweep_redundant_shadowed :
    let reports := [(5, false), (3, true), (6, false)]
    let sparing := trace (shadowedTree.reportSparing List.cons) reports (.new shadowedTree [])
    shadowedFilter.compile (fun _ => some ⟨[0], false⟩) = .ok shadowedTree ∧
      trace (shadowedTree.report List.cons) reports (.new shadowedTree []) = sparing ∧
      sparing.map (·.1.counters)
        = [#[1, -1, 2, -1, -1, -1, 1], #[1, -1, 0, 0, -1, -1, 1], #[-1, -1, 0, 0, -1, -1, -1]] ∧
      sparing.map (·.1.session) = [[4, 3], [4, 3], [4, 3]] ∧
      sparing.map (·.2.toOption) = [some none, none, some (some false)] := by
  intro reports sparing
  have hcompile : shadowedFilter.compile (fun _ => some ⟨[0], false⟩) = .ok shadowedTree := rfl
  have hredundant := last_sweep_redundant hcompile (List.cons (α := Nat))
  exact ⟨hcompile, hredundant.2 reports _, by decide +kernel, by decide +kernel,
    by decide +kernel⟩

end Percolator
