import Percolator.Proofs.Evaluation.Sweep
import Percolator.Proofs.Tree.Layout

/-!
# Reports made out of order

Nothing keeps a leaf from being reported again, or from being reported although an operator above it
is decided. Such reports count operators down too far, and fault halfway up the tree after changing
counters. Main statements: whatever is reported, every counter stays between minus one and its initial
value; a report into an undecided evaluation answers the verdict that is known after it, and leaves the
root undecided if it faults; and a report into a decided evaluation faults and changes nothing.
-/

namespace Percolator

variable {σ : Type}

/-- A report that faults leaves the root undecided, and any other one answers the verdict that is known
after it. -/
def Candid (reported : Reported σ) : Prop := reported.1.verdict = reported.2.toOption.join

/-- The counters of an evaluation are those of a tree, between minus one and their initial values. -/
structure Bounded (tree : Tree) (context : Context σ) : Prop where
  size : context.counters.size = tree.initialCounters.size
  lower : ∀ id, -1 ≤ context.counter id
  upper : ∀ id, context.counter id ≤ tree.initialCounters[id]?.getD 0

namespace Tree

variable {tree : Tree} {suspend : Nat → σ → σ} {context : Context σ}

/-- A report into a decided evaluation faults and changes nothing. -/
theorem report_of_decided (h : context.isDecided = true) (tree : Tree) (suspend : Nat → σ → σ)
    (id : Nat) (result : Bool) :
    ∃ fault, tree.report suspend id result context = (context, .error fault) := by
  unfold report
  split
  · exact ⟨_, rfl⟩
  · split
    · exact ⟨_, rfl⟩
    · split
      · rw [reportLeaf, if_pos h]
        exact ⟨_, rfl⟩
      · exact ⟨_, rfl⟩

/-- A sweep below the root leaves the root alone. -/
theorem counter_sweep_root (hnumbered : tree.Numbered) {id : Nat} (hid : 0 < id) (value : Bool)
    (context : Context σ) : (tree.sweep suspend id value context).counter 0 = context.counter 0 := by
  unfold sweep
  split
  · rfl
  · rename_i node hnode
    rw [Context.mark, Context.counter_setCounter_of_ne _ _ (Nat.ne_of_lt hid), counter_foldl_force,
      if_neg]
    intro hparts
    have hbounds := mem_span.mp hparts.1
    rw [hnumbered.nodes id node hnode] at hbounds
    omega

/-- A sweep of the root decides the root. -/
theorem verdict_sweep_root (hroot : 0 < tree.size) (hsize : 0 < context.counters.size)
    (value : Bool) : (tree.sweep suspend 0 value context).verdict = some value := by
  refine Context.verdict_of_counter ?_
  rw [counter_sweep (Array.getElem?_eq_getElem hroot) value hsize, if_pos (.inl rfl)]

/-- Handing the value of a node to the operators above it is candid, if the root is undecided as long as
there are any and has that value otherwise. -/
theorem candid_climb (hnumbered : tree.Numbered) {value : Bool} {child : Nat} {above : List Nat}
    (hleads : tree.Leads child above) (hsize : context.counters.size = tree.size)
    (hopen : above ≠ [] → 0 < context.counter 0)
    (hdone : above = [] → context.verdict = some value) :
    Candid (tree.climb suspend value child above context) := by
  induction above generalizing child context with
  | nil => exact hdone rfl
  | cons id above ih =>
    obtain ⟨hchild, hid, hleads⟩ := hleads
    have hroot := hopen (List.cons_ne_nil _ _)
    -- Sweeping an operator and climbing on from it is candid, however far it was counted down.
    have hswept : ∀ next : Context σ, next.counters.size = tree.size →
        (0 < id → next.counter 0 = context.counter 0) →
        Candid (tree.climb suspend value id above (tree.sweep suspend id value next)) := by
      intro next hnext hsame
      refine ih hleads (by rw [size_sweep, hnext]) (fun hne => ?_) fun heq => ?_
      · have hpos := hleads.pos hne
        rw [counter_sweep_root hnumbered hpos, hsame hpos]
        exact hroot
      · subst heq
        obtain rfl : id = 0 := hleads
        exact verdict_sweep_root hid (by omega) value
    rw [climb]
    split
    · exact Context.verdict_eq_none_iff.mpr (Context.isDecided_eq_false_iff.mpr hroot)
    · split
      · exact hswept context hsize fun _ => rfl
      · dsimp only
        split
        · exact hswept _ (by rw [Context.size_setCounter, hsize]) fun hpos =>
            Context.counter_setCounter_of_ne _ _ (Nat.ne_of_lt hpos)
        · rename_i hcount
          refine Context.verdict_eq_none_iff.mpr (Context.isDecided_eq_false_iff.mpr ?_)
          dsimp only
          rw [Context.counter_setCounter _ _ _ _ (by omega), if_pos rfl] at hcount
          rw [counter_sweep_root hnumbered hchild, Context.counter_setCounter _ _ _ _ (by omega)]
          split
          · rename_i heq
            subst heq
            omega
          · exact hroot

/-- The report of a leaf into an undecided evaluation is candid. -/
theorem candid_reportLeaf (hnumbered : tree.Numbered) (hconnected : tree.Connected)
    (hsize : context.counters.size = tree.size) (hopen : context.isDecided = false) {id : Nat}
    {node : Node} (hnode : tree.nodes[id]? = some node) (leaf : Leaf) (result : Bool) :
    Candid (tree.reportLeaf suspend node leaf result context) := by
  have hid : id < context.counters.size := hsize ▸ (Array.getElem?_eq_some_iff.mp hnode).1
  have hleads := hconnected id node hnode
  rw [reportLeaf, hopen, if_neg (by decide), hnumbered.nodes id node hnode]
  dsimp only
  generalize (result != leaf.negated) = value
  have hmark := Context.counter_mark context id 0 value hid
  split
  · rename_i habove
    rw [habove] at hleads
    obtain rfl : id = 0 := hleads
    refine Context.verdict_of_counter ?_
    rw [counter_suspendLeaf, hmark, if_pos rfl]
  · rename_i habove
    have hpos := hleads.pos habove
    refine candid_climb hnumbered hleads (by rw [Context.size_mark, hsize]) (fun _ => ?_)
      fun heq => absurd heq habove
    rw [hmark, if_neg (Nat.ne_of_lt hpos)]
    exact Context.isDecided_eq_false_iff.mp hopen

/-- So is a report at any node. -/
theorem candid_report (hnumbered : tree.Numbered) (hconnected : tree.Connected)
    (hsize : context.counters.size = tree.size) (hopen : context.isDecided = false) (id : Nat)
    (result : Bool) : Candid (tree.report suspend id result context) := by
  have hfault := Context.verdict_eq_none_iff.mpr hopen
  unfold report
  split
  · exact hfault
  · rename_i node hnode
    split
    · exact hfault
    · split
      · exact candid_reportLeaf hnumbered hconnected hsize hopen hnode _ result
      · exact hfault

/-- The initial counters of a tree with nodes are not negative. -/
theorem initialCounters_nonneg (nodes : Array Node) (id : Nat) :
    0 ≤ (arena nodes).initialCounters[id]?.getD 0 := by
  rw [initialCounters, Array.getElem?_map]
  cases nodes[id]? with
  | none => exact Int.le_refl 0
  | some node =>
    rw [Option.map_some, Option.getD_some, Node.initialCounter]
    split <;> omega

end Tree

namespace Bounded

variable {tree : Tree} {suspend : Nat → σ → σ} {context : Context σ}

/-- A new evaluation of a tree is bounded. -/
theorem new (tree : Tree) (session : σ) : Bounded tree (.new tree session) := by
  refine ⟨rfl, fun id => ?_, fun _ => Int.le_refl _⟩
  cases tree with
  | constant value =>
    cases id with
    | zero => exact decidedCounter_ge value
    | succ id => simp [Context.counter, Context.new, Tree.initialCounters]
  | arena nodes =>
    have hnonneg := Tree.initialCounters_nonneg nodes id
    exact Int.le_trans (by decide) hnonneg

/-- Changing the session keeps an evaluation bounded. -/
theorem of_counters (h : Bounded tree context) {next : Context σ}
    (hcounters : next.counters = context.counters) : Bounded tree next := by
  have hsame : ∀ id, next.counter id = context.counter id := fun id => by
    rw [Context.counter, hcounters, Context.counter]
  refine ⟨hcounters ▸ h.size, fun id => ?_, fun id => ?_⟩
  · rw [hsame]
    exact h.lower id
  · rw [hsame]
    exact h.upper id

/-- Setting a counter within its bounds keeps an evaluation bounded. -/
theorem setCounter (h : Bounded tree context) {id : Nat} {counter : Int} (hlower : -1 ≤ counter)
    (hupper : counter ≤ tree.initialCounters[id]?.getD 0) :
    Bounded tree (context.setCounter id counter) := by
  rcases Nat.lt_or_ge id context.counters.size with hid | hid
  · refine ⟨by rw [Context.size_setCounter, h.size], fun other => ?_, fun other => ?_⟩ <;>
      rw [Context.counter_setCounter _ _ _ _ hid] <;> split
    · exact hlower
    · exact h.lower other
    · rename_i heq
      exact heq ▸ hupper
    · exact h.upper other
  · exact h.of_counters (Array.setIfInBounds_eq_of_size_le hid)

/-- What a report may do to an evaluation of a tree with nodes keeps it bounded. -/
theorem invariant (nodes : Array Node) (suspend : Nat → σ → σ) :
    Tree.Invariant (.arena nodes) suspend (Bounded (.arena nodes)) := by
  refine ⟨fun context id value h => ?_, fun context id _ _ h => h.of_counters rfl,
    fun context id hopen h => ?_⟩
  · have hnonpos := decidedCounter_nonpos value
    have hnonneg := Tree.initialCounters_nonneg nodes id
    exact h.setCounter (decidedCounter_ge value) (by omega)
  · have hpos := Context.isDecidedAt_eq_false_iff.mp hopen
    have hupper := h.upper id
    exact h.setCounter (by omega) (by omega)

/-- An evaluation of a constant is decided. -/
theorem isDecided_of_constant {value : Bool} (h : Bounded (.constant value) context) :
    context.isDecided = true := by
  have hnonpos := decidedCounter_nonpos value
  have hupper : context.counter 0 ≤ decidedCounter value := h.upper 0
  exact Context.isDecidedAt_iff.mpr (by omega)

/-- A bounded evaluation that is undecided has a counter for every node. -/
theorem size_eq (h : Bounded tree context) (hopen : context.isDecided = false) :
    context.counters.size = tree.size := by
  cases tree with
  | constant value =>
    rw [h.isDecided_of_constant] at hopen
    simp at hopen
  | arena nodes =>
    rw [h.size]
    exact Array.size_map

/-- A report keeps an evaluation bounded, whether it faults or not. -/
theorem report (h : Bounded tree context) (suspend : Nat → σ → σ) (id : Nat) (result : Bool) :
    Bounded tree (tree.report suspend id result context).1 := by
  cases tree with
  | constant value =>
    obtain ⟨fault, hreport⟩ := Tree.report_of_decided h.isDecided_of_constant (.constant value)
      suspend id result
    rw [hreport]
    exact h
  | arena nodes => exact (invariant nodes suspend).report id result context h

/-- If the root of a bounded evaluation is undecided, then it was undecided at first. -/
theorem initial_undecided (h : Bounded tree context) (hopen : context.isDecided = false) :
    (context.reset tree).isDecided = false := by
  rw [Context.isDecided_eq_false_iff] at hopen ⊢
  have hupper := h.upper 0
  exact Int.lt_of_lt_of_le hopen hupper

end Bounded

end Percolator
