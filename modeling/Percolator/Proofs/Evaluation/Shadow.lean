import Percolator.Proofs.Evaluation.Counting
import Percolator.Proofs.Evaluation.Finality
import Percolator.Proofs.Tree.Ancestry

/-!
# Decided nodes have decided leaves

A report climbs from a leaf to the operators above it and sweeps each one that it decides; it stops at
an operator that it leaves undecided. So its steps are sweeps, and counting operators down that stay
undecided. What neither of these breaks, no climb breaks. Main statements: whatever leaves are reported,
in whatever order and how often, every leaf below a decided node is decided; so above an undecided leaf
nothing is decided, and reporting the leaf does not fault.
-/

namespace Percolator

open Relation

variable {σ : Type}

namespace Context

/-- A node that is marked is decided. -/
theorem isDecidedAt_mark_self {context : Context σ} {id : Nat} (hid : id < context.counters.size)
    (value : Bool) : (context.mark id value).isDecidedAt id = true := by
  rw [isDecidedAt_iff, counter_mark _ _ _ _ hid, if_pos rfl]
  exact decidedCounter_nonpos value

/-- Before any report no leaf is decided. -/
theorem isDecidedAt_new {tree : Tree} {leaf : Nat} (hleaf : (tree.leaf? leaf).isSome = true)
    (session : σ) : (Context.new tree session).isDecidedAt leaf = false := by
  obtain ⟨found, hfound⟩ := Option.isSome_iff_exists.mp hleaf
  obtain ⟨node, hnode, hkind⟩ := Option.bind_eq_some_iff.mp hfound
  cases tree with
  | constant value => simp [Tree.nodes] at hnode
  | arena nodes =>
    have hone : node.initialCounter = 1 := by
      unfold Node.leaf? at hkind
      unfold Node.initialCounter
      cases hjoin : node.kind with
      | join c arity => simp [hjoin] at hkind
      | leaf _ => rfl
    have hcounter : (Context.new (.arena nodes) session).counter leaf = node.initialCounter := by
      have hnode' : nodes[leaf]? = some node := hnode
      rw [counter, new, Tree.initialCounters, Array.getElem?_map, hnode', Option.map_some,
        Option.getD_some]
    rw [isDecidedAt_eq_false_iff, hcounter, hone]
    decide

/-- Marking a node decides no other. -/
theorem isDecidedAt_mark_of_ne (context : Context σ) {id other : Nat} (h : other ≠ id)
    (value : Bool) : (context.mark id value).isDecidedAt other = context.isDecidedAt other := by
  rw [isDecidedAt, mark, counter_setCounter_of_ne _ _ h, isDecidedAt]

/-- Changing the counter of a node that stays undecided decides nothing. -/
theorem isDecidedAt_setCounter {context : Context σ} {id : Nat} {counter : Int}
    (hopen : 0 < context.counter id) (hcounter : 0 < counter) (other : Nat) :
    (context.setCounter id counter).isDecidedAt other = context.isDecidedAt other := by
  by_cases hother : other = id
  · subst hother
    rw [isDecidedAt_eq_false_iff.mpr hopen, isDecidedAt_eq_false_iff,
      counter_setCounter _ _ _ _ (lt_size_of_counter_pos hopen), if_pos rfl]
    exact hcounter
  · rw [isDecidedAt, counter_setCounter_of_ne _ _ hother, isDecidedAt]

end Context

namespace Tree

variable {tree : Tree} {suspend : Nat → σ → σ} {value : Bool} {id other child : Nat}
  {above : List Nat} {context : Context σ}

/-- Suspending a leaf decides nothing. -/
theorem isDecidedAt_suspendLeaf (context : Context σ) (id other : Nat) :
    (tree.suspendLeaf suspend context id).isDecidedAt other = context.isDecidedAt other := by
  rw [Context.isDecidedAt, counter_suspendLeaf, Context.isDecidedAt]

/-- The places of a node are its span. -/
theorem spanOf_eq_span {node : Node} (hnode : tree.nodes[id]? = some node) :
    tree.spanOf id = node.span := by
  rw [spanOf, hnode]
  rfl

/-- A sweep changes no counter outside the span of its node. -/
theorem Rooted.counter_sweep_of_not_reaches (h : tree.Rooted)
    (hother : ¬ ReflTransGen tree.Below other id) (value : Bool) (context : Context σ) :
    (tree.sweep suspend id value context).counter other = context.counter other := by
  unfold sweep
  cases hnode : tree.nodes[id]? with
  | none => rfl
  | some node =>
    have hid : id < tree.size := (Array.getElem?_eq_some_iff.mp hnode).1
    have hne : other ≠ id := by
      rintro rfl
      exact hother .refl
    dsimp only
    rw [Context.mark, Context.counter_setCounter_of_ne _ _ hne, counter_foldl_force, if_neg]
    intro hparts
    rw [← h.spans id hid, spanOf_eq_span hnode] at hother
    exact hother hparts.1

/-- A sweep decides its node. -/
theorem isDecidedAt_sweep_self (suspend : Nat → σ → σ) (hid : id < tree.size)
    (hsize : id < context.counters.size) (value : Bool) : (tree.sweep suspend id value context).isDecidedAt id = true := by
  rw [Context.isDecidedAt_iff, counter_sweep (Array.getElem?_eq_getElem hid) value hsize,
    if_pos (.inl rfl)]
  exact decidedCounter_nonpos value

/-- In the span of its node a sweep decides what has the counter one, and it decides no node anew
besides that and its own. -/
theorem Rooted.counter_sweep (h : tree.Rooted) (hid : id < tree.size)
    (hsize : id < context.counters.size) (value : Bool) (hother : ReflTransGen tree.Below other id) :
    (tree.sweep suspend id value context).counter other
      = if other = id ∨ context.counter other = 1 then decidedCounter value
        else context.counter other := by
  have hnode := Array.getElem?_eq_getElem hid
  rw [← h.spans id hid, spanOf_eq_span hnode] at hother
  rw [Tree.counter_sweep hnode value hsize]
  simp only [hother, true_and]

/-- A sweep does not look at the counter of its own node if that is an operator. -/
theorem sweep_setCounter_operator {c : Connective} (hconnective : tree.connective? id = some c)
    (value : Bool) (context : Context σ) (counter : Int) :
    tree.sweep suspend id value (context.setCounter id counter)
      = tree.sweep suspend id value context := by
  obtain ⟨node, hnode⟩ : ∃ node, tree.nodes[id]? = some node := by
    cases hnode : tree.nodes[id]? with
    | none => simp [connective?, hnode] at hconnective
    | some node => exact ⟨node, rfl⟩
  rcases Nat.lt_or_ge id context.counters.size with hsize | hsize
  · refine Context.ext_counter (by simp) (fun i => ?_) ?_
    · rw [Tree.counter_sweep hnode _ (by simpa using hsize), Tree.counter_sweep hnode _ hsize]
      by_cases hi : i = id
      · rw [if_pos (.inl hi), if_pos (.inl hi)]
      · rw [Context.counter_setCounter_of_ne context _ hi]
    · have hwaiting : ∀ i ∈ node.span,
          (decide ((context.setCounter id counter).counter i = 1) && (tree.leaf? i).isSome)
            = (decide (context.counter i = 1) && (tree.leaf? i).isSome) := by
        intro i _
        cases hleaf : (tree.leaf? i).isSome with
        | false => rw [Bool.and_false, Bool.and_false]
        | true =>
          rw [Context.counter_setCounter_of_ne context _ (ne_of_connective? hconnective hleaf)]
      rw [session_sweep hnode, session_sweep hnode, List.filter_congr hwaiting]
      rfl
  · rw [Context.setCounter, Array.setIfInBounds_eq_of_size_le hsize]

/-- What handing a value to the nearest operator above a node comes to. -/
inductive Ascent (tree : Tree) (suspend : Nat → σ → σ) (value : Bool) (child id : Nat)
    (above : List Nat) (context : Context σ) : Reported σ → Prop
  /-- The operator or the root is decided. -/
  | refused (hdecided : (context.isDecidedAt id || context.isDecided) = true) :
      Ascent tree suspend value child id above context (context, .error (.alreadyDecided id))
  /-- The operator is decided by the value, and swept. -/
  | decides (hopen : 0 < context.counter id) (hroot : 0 < context.counter 0) :
      Ascent tree suspend value child id above context
        (tree.climb suspend value id above (tree.sweep suspend id value context))
  /-- The operator is counted down and stays undecided. -/
  | pending {counter : Int} (hopen : 0 < context.counter id) (hroot : 0 < context.counter 0)
      (hcounter : 0 < counter) :
      Ascent tree suspend value child id above context
        (tree.sweep suspend child value (context.setCounter id counter), .ok none)

/-- An undecided operator takes a value. It is swept if the value decides it, whether by itself or as
the last one. -/
theorem climb_cons_of_open {c : Connective} (hconnective : tree.connective? id = some c)
    (hopen : context.isDecidedAt id = false) (hroot : context.isDecided = false)
    (suspend : Nat → σ → σ) (value : Bool) (child : Nat) (above : List Nat) :
    tree.climb suspend value child (id :: above) context =
      if c.absorbing = value ∨ context.counter id = 1 then
        tree.climb suspend value id above (tree.sweep suspend id value context)
      else (tree.sweep suspend child value (context.setCounter id (context.counter id - 1)),
        .ok none) := by
  have hsize := Context.lt_size_of_counter_pos (Context.isDecidedAt_eq_false_iff.mp hopen)
  rw [climb, hopen, hroot, Bool.or_self, if_neg Bool.false_ne_true, hconnective, Option.any_some]
  simp only [decide_eq_true_iff]
  by_cases habsorbing : c.absorbing = value
  · rw [if_pos habsorbing, if_pos (.inl habsorbing)]
  · rw [if_neg habsorbing, Context.counter_setCounter _ _ _ _ hsize, if_pos rfl,
      sweep_setCounter_operator hconnective]
    by_cases hlast : context.counter id = 1
    · rw [if_pos (Int.sub_eq_zero.mpr hlast), if_pos (.inr hlast)]
    · rw [if_neg fun hzero => hlast (Int.sub_eq_zero.mp hzero),
        if_neg (not_or.mpr ⟨habsorbing, hlast⟩)]

/-- Handing a value to an operator comes to one of these. -/
theorem ascent {c : Connective} (hconnective : tree.connective? id = some c)
    (suspend : Nat → σ → σ) (value : Bool) (child : Nat) (above : List Nat) (context : Context σ) :
    Ascent tree suspend value child id above context
      (tree.climb suspend value child (id :: above) context) := by
  cases hdecided : context.isDecidedAt id || context.isDecided with
  | true =>
    rw [climb, if_pos hdecided]
    exact .refused hdecided
  | false =>
    obtain ⟨hopen, hroot⟩ := Bool.or_eq_false_iff.mp hdecided
    have hpos := Context.isDecidedAt_eq_false_iff.mp hopen
    have hroot' := Context.isDecided_eq_false_iff.mp hroot
    rw [climb_cons_of_open hconnective hopen hroot]
    split
    · exact .decides hpos hroot'
    · rename_i hstays
      exact .pending hpos hroot' (by omega)

/-- A property of evaluations that no sweep breaks, and no counting down of an operator that stays
undecided. -/
structure SweepInvariant (tree : Tree) (suspend : Nat → σ → σ) (P : Context σ → Prop) : Prop where
  sweep : ∀ context id value, id < tree.size → P context → P (tree.sweep suspend id value context)
  count : ∀ context id c counter, tree.connective? id = some c → 0 < context.counter id →
    0 < counter → P context → P (context.setCounter id counter)

/-- Handing a value upwards preserves such a property. -/
theorem SweepInvariant.climb {P : Context σ → Prop} (h : SweepInvariant tree suspend P)
    (hrooted : tree.Rooted) (hchild : child < tree.size) (hlineage : tree.Lineage child above)
    (hp : P context) (value : Bool) : P (tree.climb suspend value child above context).1 := by
  induction above generalizing child context with
  | nil => exact hp
  | cons id above ih =>
    obtain ⟨hbelow, hlineage⟩ := hlineage
    obtain ⟨c, hconnective⟩ := hrooted.operators _ _ hbelow
    have hid : id < tree.size := Nat.lt_trans (hrooted.parents _ _ hbelow) hchild
    have hascent := ascent hconnective suspend value child above context
    generalize tree.climb suspend value child (id :: above) context = reported at hascent ⊢
    cases hascent with
    | refused _ => exact hp
    | decides _ _ => exact ih hid hlineage (h.sweep _ id value hid hp)
    | pending hopen _ hcounter =>
      exact h.sweep _ child value hchild (h.count _ id c _ hconnective hopen hcounter hp)

/-- A leaf that is reported into an undecided evaluation is marked; its value is handed upwards, unless
the leaf is the only node. -/
theorem Rooted.report_leaf (h : tree.Rooted) {node : Node} {leaf : Leaf}
    (hnode : tree.nodes[id]? = some node) (hkind : node.leaf? = some leaf)
    (hopen : context.isDecided = false) (suspend : Nat → σ → σ) (result : Bool) :
    tree.report suspend id result context =
      if node.above = [] then
        (tree.suspendLeaf suspend (context.mark id (result != leaf.negated)) id,
          .ok (some (result != leaf.negated)))
      else
        tree.climb suspend (result != leaf.negated) id node.above
          (context.mark id (result != leaf.negated)) := by
  have hid := h.numbered.leaves id leaf (Option.bind_eq_some_iff.mpr ⟨node, hnode, hkind⟩)
  rw [report_of_leaf hnode hkind hid, reportLeaf, hopen, if_neg Bool.false_ne_true,
    h.numbered.nodes id node hnode]
  cases node.above <;> rfl

/-- A climb from a decided node past undecided operators does not fault. If it answers a verdict, the
root is decided. -/
theorem Rooted.climb_of_open (h : tree.Rooted) (hsize : tree.size ≤ context.counters.size)
    (hchild : child < tree.size) (hlineage : tree.Lineage child above)
    (hopen : ∀ ancestor ∈ above, context.isDecidedAt ancestor = false)
    (hdecided : context.isDecidedAt child = true) (suspend : Nat → σ → σ) (value : Bool) :
    ∃ next answer, tree.climb suspend value child above context = (next, .ok answer) ∧
      (answer ≠ none → next.isDecided = true) := by
  induction above generalizing child context with
  | nil =>
    obtain rfl : child = 0 := hlineage
    exact ⟨context, some value, rfl, fun _ => hdecided⟩
  | cons id above ih =>
    have hroot : context.isDecided = false :=
      hopen 0 (Lineage.root_mem hlineage (List.cons_ne_nil _ _))
    obtain ⟨hbelow, hlineage⟩ := hlineage
    obtain ⟨_, hconnective⟩ := h.operators _ _ hbelow
    have hid : id < tree.size := Nat.lt_trans (h.parents _ _ hbelow) hchild
    have hascent := ascent hconnective suspend value child above context
    generalize tree.climb suspend value child (id :: above) context = reported at hascent ⊢
    cases hascent with
    | refused hrefused =>
      rw [hopen id List.mem_cons_self, hroot, Bool.or_self] at hrefused
      exact absurd hrefused Bool.false_ne_true
    | pending _ _ _ => exact ⟨_, none, rfl, fun hne => absurd rfl hne⟩
    | decides _ _ =>
      refine ih (by rw [size_sweep]; exact hsize) hid hlineage (fun ancestor hmem => ?_)
        (isDecidedAt_sweep_self suspend hid (Nat.lt_of_lt_of_le hid hsize) value)
      have hout := h.not_reaches_of_above (hlineage.above_of_mem hmem)
      rw [Context.isDecidedAt, h.counter_sweep_of_not_reaches hout]
      exact hopen ancestor (List.mem_cons_of_mem _ hmem)

/-- What reporting a leaf into an undecided evaluation comes to: a climb from the marked leaf, unless
the leaf is the only node. -/
inductive LeafReport (tree : Tree) (suspend : Nat → σ → σ) (id : Nat) (value : Bool)
    (context : Context σ) : Reported σ → Prop
  | single (hid : id = 0) : LeafReport tree suspend id value context
      (tree.suspendLeaf suspend (context.mark id value) id, .ok (some value))
  | climb {above : List Nat} (hne : above ≠ []) (hlineage : tree.Lineage id above) :
      LeafReport tree suspend id value context
        (tree.climb suspend value id above (context.mark id value))

/-- Reporting a leaf into an undecided evaluation comes to one of these. -/
theorem Rooted.leafReport (h : tree.Rooted) {leaf : Leaf} (hleaf : tree.leaf? id = some leaf)
    (hopen : context.isDecided = false) (suspend : Nat → σ → σ) (result : Bool) :
    LeafReport tree suspend id (result != leaf.negated) context
      (tree.report suspend id result context) := by
  obtain ⟨node, hnode, hkind⟩ := Option.bind_eq_some_iff.mp hleaf
  have hlineage := h.lineage id node hnode
  rw [h.report_leaf hnode hkind hopen]
  split
  · rename_i habove
    rw [habove] at hlineage
    exact .single hlineage
  · rename_i habove
    exact .climb habove hlineage

end Tree

/-- Every leaf below a decided node is decided, and an undecided leaf waits for one value. -/
structure Shadowed (tree : Tree) (context : Context σ) : Prop where
  size : tree.size ≤ context.counters.size
  waits : ∀ leaf, (tree.leaf? leaf).isSome = true → context.counter leaf ≤ 1
  shadow : ∀ leaf node, (tree.leaf? leaf).isSome = true → ReflTransGen tree.Below leaf node →
    context.isDecidedAt node = true → context.isDecidedAt leaf = true

namespace Shadowed

variable {tree : Tree} {suspend : Nat → σ → σ} {context : Context σ} {id leaf node : Nat}

/-- Above an undecided leaf nothing is decided. -/
theorem open_above (h : Shadowed tree context) (hleaf : (tree.leaf? leaf).isSome = true)
    (hopen : context.isDecidedAt leaf = false) (hreaches : ReflTransGen tree.Below leaf node) :
    context.isDecidedAt node = false := by
  cases hnode : context.isDecidedAt node with
  | false => rfl
  | true => rw [← hopen, h.shadow leaf node hleaf hreaches hnode]

/-- As long as a leaf is undecided, so is the root. -/
theorem open_root (h : Shadowed tree context) (hrooted : tree.Rooted)
    (hleaf : (tree.leaf? leaf).isSome = true) (hopen : context.isDecidedAt leaf = false) :
    context.isDecided = false := by
  obtain ⟨_, hfound⟩ := Option.isSome_iff_exists.mp hleaf
  obtain ⟨node, hnode, _⟩ := Option.bind_eq_some_iff.mp hfound
  exact h.open_above hleaf hopen (hrooted.lineage leaf node hnode).reaches_root

/-- Only the counters matter. -/
theorem of_counters (h : Shadowed tree context) {next : Context σ}
    (hcounters : next.counters = context.counters) : Shadowed tree next := by
  have hsame : ∀ id, next.counter id = context.counter id := fun id => by
    rw [Context.counter, hcounters, Context.counter]
  refine ⟨hcounters ▸ h.size, fun leaf hleaf => ?_, fun leaf node hleaf hreaches hnode => ?_⟩
  · rw [hsame]
    exact h.waits leaf hleaf
  · rw [Context.isDecidedAt_iff, hsame] at hnode ⊢
    exact Context.isDecidedAt_iff.mp
      (h.shadow leaf node hleaf hreaches (Context.isDecidedAt_iff.mpr hnode))

/-- Marking a leaf decides no node that has other leaves below it. -/
theorem mark (h : Shadowed tree context) (hrooted : tree.Rooted)
    (hid : (tree.leaf? id).isSome = true) (value : Bool) :
    Shadowed tree (context.mark id value) := by
  have hsize : id < context.counters.size :=
    Nat.lt_of_lt_of_le (Tree.lt_size_of_isLeaf hid) h.size
  have hcounter := fun other => Context.counter_mark context id other value hsize
  have hnonpos := decidedCounter_nonpos value
  refine ⟨by rw [Context.size_mark]; exact h.size, fun leaf hleaf => ?_,
    fun leaf node hleaf hreaches hnode => ?_⟩
  · rw [hcounter]
    split
    · omega
    · exact h.waits leaf hleaf
  · rw [Context.isDecidedAt_iff, hcounter] at hnode ⊢
    by_cases hsame : leaf = id
    · rw [if_pos hsame]
      exact hnonpos
    · have hne : node ≠ id := by
        rintro rfl
        exact hsame (hrooted.eq_of_reaches_leaf hid hreaches)
      rw [if_neg hne] at hnode
      rw [if_neg hsame]
      exact Context.isDecidedAt_iff.mp
        (h.shadow leaf node hleaf hreaches (Context.isDecidedAt_iff.mpr hnode))

/-- After a sweep the leaves in the span of the node are decided, and the others are as before. -/
theorem sweep (h : Shadowed tree context) (hrooted : tree.Rooted) (suspend : Nat → σ → σ)
    (hid : id < tree.size) (value : Bool) :
    Shadowed tree (tree.sweep suspend id value context) := by
  have hsize : id < context.counters.size := Nat.lt_of_lt_of_le hid h.size
  have hnonpos := decidedCounter_nonpos value
  -- In the span a leaf that has not the counter one is decided already.
  have hinside : ∀ leaf, (tree.leaf? leaf).isSome = true → ReflTransGen tree.Below leaf id →
      (tree.sweep suspend id value context).counter leaf ≤ 0 := by
    intro leaf hleaf hreaches
    have hwaits := h.waits leaf hleaf
    rw [hrooted.counter_sweep hid hsize value hreaches]
    split
    · exact hnonpos
    · omega
  refine ⟨by rw [Tree.size_sweep]; exact h.size, fun leaf hleaf => ?_,
    fun leaf node hleaf hreaches hnode => ?_⟩
  · by_cases hin : ReflTransGen tree.Below leaf id
    · have hdecided := hinside leaf hleaf hin
      omega
    · rw [hrooted.counter_sweep_of_not_reaches hin]
      exact h.waits leaf hleaf
  · rw [Context.isDecidedAt_iff] at hnode ⊢
    by_cases hin : ReflTransGen tree.Below leaf id
    · exact hinside leaf hleaf hin
    · have hout : ¬ ReflTransGen tree.Below node id := fun hnode => hin (hreaches.trans hnode)
      rw [hrooted.counter_sweep_of_not_reaches hout] at hnode
      rw [hrooted.counter_sweep_of_not_reaches hin]
      exact Context.isDecidedAt_iff.mp
        (h.shadow leaf node hleaf hreaches (Context.isDecidedAt_iff.mpr hnode))

/-- Counting an operator down that stays undecided decides nothing. -/
theorem setCounter (h : Shadowed tree context) {c : Connective}
    (hconnective : tree.connective? id = some c) {counter : Int} (hcounter : 0 < counter) :
    Shadowed tree (context.setCounter id counter) := by
  have hsame : ∀ leaf, (tree.leaf? leaf).isSome = true →
      (context.setCounter id counter).counter leaf = context.counter leaf := fun leaf hleaf =>
    Context.counter_setCounter_of_ne _ _ (Tree.ne_of_connective? hconnective hleaf)
  refine ⟨by rw [Context.size_setCounter]; exact h.size, fun leaf hleaf => ?_,
    fun leaf node hleaf hreaches hnode => ?_⟩
  · rw [hsame leaf hleaf]
    exact h.waits leaf hleaf
  · have hbefore : context.isDecidedAt node = true := by
      rw [Context.isDecidedAt_iff] at hnode ⊢
      by_cases heq : node = id
      · subst heq
        rcases Nat.lt_or_ge node context.counters.size with hsize | hsize
        · rw [Context.counter_setCounter _ _ _ _ hsize, if_pos rfl] at hnode
          omega
        · rw [Context.counter, Array.getElem?_eq_none hsize]
          exact Int.le_refl 0
      · rwa [Context.counter_setCounter_of_ne _ _ heq] at hnode
    rw [Context.isDecidedAt, hsame leaf hleaf]
    exact h.shadow leaf node hleaf hreaches hbefore

/-- No climb leads out of the shadow. -/
theorem invariant (hrooted : tree.Rooted) (suspend : Nat → σ → σ) :
    Tree.SweepInvariant tree suspend (Shadowed tree) :=
  ⟨fun _ _ value hid h => h.sweep hrooted suspend hid value,
    fun _ _ _ _ hconnective _ hcounter h => h.setCounter hconnective hcounter⟩

/-- A report keeps the leaves below decided nodes decided, whether it faults or not. -/
theorem report (h : Shadowed tree context) (hrooted : tree.Rooted) (suspend : Nat → σ → σ)
    (id : Nat) (result : Bool) : Shadowed tree (tree.report suspend id result context).1 := by
  cases hleaf : tree.leaf? id with
  | none =>
    have hfault : (tree.report suspend id result context).1 = context := by
      unfold Tree.report
      split
      · rfl
      · rename_i node hnode
        rw [Tree.leaf?, hnode, Option.bind_some, Node.leaf?] at hleaf
        split
        · rfl
        · rename_i leaf hkind
          simp [hkind] at hleaf
    rw [hfault]
    exact h
  | some leaf =>
    cases hopen : context.isDecided with
    | true =>
      obtain ⟨_, hreport⟩ := Tree.report_of_decided hopen tree suspend id result
      rw [hreport]
      exact h
    | false =>
      have hmark := h.mark hrooted (Option.isSome_of_eq_some hleaf) (result != leaf.negated)
      have hcases := hrooted.leafReport hleaf hopen suspend result
      generalize tree.report suspend id result context = reported at hcases ⊢
      cases hcases with
      | single _ => exact hmark.of_counters (Tree.counters_suspendLeaf _ _)
      | climb _ hlineage =>
        exact (invariant hrooted suspend).climb hrooted (Tree.lt_size_of_leaf? hleaf) hlineage hmark _

/-- A report of an undecided leaf does not fault, and decides the leaf. If it answers a verdict, the root
is decided. -/
theorem report_of_open (h : Shadowed tree context) (hrooted : tree.Rooted)
    (hleaf : (tree.leaf? leaf).isSome = true) (hopen : context.isDecidedAt leaf = false)
    (suspend : Nat → σ → σ) (result : Bool) :
    ∃ next answer, tree.report suspend leaf result context = (next, .ok answer) ∧
      next.isDecidedAt leaf = true ∧ (answer ≠ none → next.isDecided = true) := by
  obtain ⟨found, hfound⟩ := Option.isSome_iff_exists.mp hleaf
  have hid := Tree.lt_size_of_leaf? hfound
  have hcases := hrooted.leafReport hfound (h.open_root hrooted hleaf hopen) suspend result
  generalize (result != found.negated) = value at hcases
  generalize tree.report suspend leaf result context = reported at hcases ⊢
  have hmarked := Context.isDecidedAt_mark_self (Nat.lt_of_lt_of_le hid h.size) value
  cases hcases with
  | single hroot =>
    have hstill : (tree.suspendLeaf suspend (context.mark leaf value) leaf).isDecidedAt leaf = true :=
      (Tree.isDecidedAt_suspendLeaf _ leaf leaf).trans hmarked
    exact ⟨_, some value, rfl, hstill, fun _ => hroot ▸ hstill⟩
  | @climb above _ hlineage =>
    have hkept := (Tree.invariant_isDecidedAt tree suspend leaf).climb value leaf above _ hmarked
    obtain ⟨next, answer, hclimb, hverdict⟩ := hrooted.climb_of_open
      (by rw [Context.size_mark]; exact h.size) hid hlineage (fun ancestor hmem => by
        have habove := hlineage.above_of_mem hmem
        rw [Context.isDecidedAt_mark_of_ne context (Nat.ne_of_lt (hrooted.lt_of_above habove))]
        exact h.open_above hleaf hopen habove.to_reflTransGen) hmarked suspend value
    rw [hclimb] at hkept ⊢
    exact ⟨next, answer, rfl, hkept, hverdict⟩

/-- Reports keep the leaves below decided nodes decided. -/
theorem reportAll (h : Shadowed tree context) (hrooted : tree.Rooted) (suspend : Nat → σ → σ)
    (reports : List (Nat × Bool)) : Shadowed tree (tree.reportAll suspend reports context) := by
  induction reports generalizing context with
  | nil => exact h
  | cons report reports ih => exact ih (h.report hrooted suspend report.1 report.2)

/-- In a new evaluation no leaf is decided, and nothing above a leaf is. -/
theorem new {resolve : String → Option Path} {e : Expr} (hcompile : e.compile resolve = .ok tree)
    (session : σ) : Shadowed tree (.new tree session) := by
  by_cases hconstant : ∃ value, e = .constant value
  · obtain ⟨value, rfl⟩ := hconstant
    obtain rfl : Tree.constant value = tree := Except.ok.inj hcompile
    have hnone : ∀ leaf, (Tree.leaf? (.constant value) leaf).isSome ≠ true := by
      simp [Tree.leaf?, Tree.nodes]
    exact ⟨Nat.zero_le _, fun leaf hleaf => absurd hleaf (hnone leaf),
      fun leaf _ hleaf => absurd hleaf (hnone leaf)⟩
  · obtain ⟨hl, hsize, htrack⟩ :=
      tracks_new hcompile (fun value heq => hconstant ⟨value, heq⟩) session
    refine ⟨?_, fun leaf hleaf => htrack.leaf_le_one (covers_of_leaf hsize hleaf) hleaf,
      (htrack.accounts hl hsize).shadow⟩
    rcases Expr.laid_of_compile hcompile with ⟨value, he, _⟩ | ⟨_, _, hinitial⟩
    · exact absurd ⟨value, he⟩ hconstant
    · rw [Context.new, hinitial, Array.size_map]
      exact Nat.le_refl _

end Shadowed

end Percolator
