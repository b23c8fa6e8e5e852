import Percolator.Evaluation

/-!
# What a report may change

A report changes an evaluation in three ways only: it marks nodes as decided, it counts down the
counter of an undecided operator, and it suspends leaves that are decided. So whatever these three
moves preserve, every report preserves, also one that faults: a decided node stays decided, for one. The
module also tells the counters and the session after a sweep: it marks its node, and in the span of the
node it decides what has the counter one and suspends the leaves among that.
-/

namespace Percolator

/-- No counter of a decided node is the counter of a leaf that waits. -/
theorem decidedCounter_ne_one (value : Bool) : decidedCounter value ≠ 1 := by
  cases value <;> decide

/-- The counter of a decided node is not positive. -/
theorem decidedCounter_nonpos (value : Bool) : decidedCounter value ≤ 0 := by
  cases value <;> decide

/-- No counter of a decided node is below minus one. -/
theorem decidedCounter_ge (value : Bool) : -1 ≤ decidedCounter value := by
  cases value <;> decide

namespace Context

variable {σ : Type}

/-- A node is decided exactly if its counter is not positive. -/
theorem isDecidedAt_iff {context : Context σ} {id : Nat} :
    context.isDecidedAt id = true ↔ context.counter id ≤ 0 := by
  rw [isDecidedAt, decide_eq_true_iff]

/-- A node is undecided exactly if its counter is positive. -/
theorem isDecidedAt_eq_false_iff {context : Context σ} {id : Nat} :
    context.isDecidedAt id = false ↔ 0 < context.counter id := by
  rw [isDecidedAt, decide_eq_false_iff_not]
  omega

/-- There is a verdict exactly if the root is decided. -/
theorem verdict_eq_none_iff {context : Context σ} :
    context.verdict = none ↔ context.isDecided = false := by
  unfold verdict
  cases context.isDecided <;> simp

/-- The root is undecided exactly if its counter is positive. -/
theorem isDecided_eq_false_iff {context : Context σ} :
    context.isDecided = false ↔ 0 < context.counter 0 := isDecidedAt_eq_false_iff

/-- Whether the root is decided depends on the counters only. -/
theorem isDecided_congr {context other : Context σ} (h : context.counters = other.counters) :
    context.isDecided = other.isDecided := by
  rw [isDecided, isDecidedAt, counter, h]
  rfl

/-- If the counter of the root is that of a value, the verdict is that value. -/
theorem verdict_of_counter {context : Context σ} {value : Bool}
    (h : context.counter 0 = decidedCounter value) : context.verdict = some value := by
  have hdecided : context.isDecided = true :=
    isDecidedAt_iff.mpr (h ▸ decidedCounter_nonpos value)
  rw [verdict, hdecided, if_pos rfl, h]
  cases value <;> rfl

/-- Only nodes of an evaluation have positive counters. -/
theorem lt_size_of_counter_pos {context : Context σ} {id : Nat} (h : 0 < context.counter id) :
    id < context.counters.size := by
  by_cases hid : id < context.counters.size
  · exact hid
  · rw [counter, Array.getElem?_eq_none (by omega)] at h
    simp at h

/-- Setting a counter keeps the number of counters. -/
@[simp] theorem size_setCounter (context : Context σ) (id : Nat) (counter : Int) :
    (context.setCounter id counter).counters.size = context.counters.size := by
  simp [setCounter]

/-- So does deciding a node. -/
@[simp] theorem size_mark (context : Context σ) (id : Nat) (value : Bool) :
    (context.mark id value).counters.size = context.counters.size := size_setCounter _ _ _

/-- Marking a node sets its counter and no other. -/
theorem counter_mark (context : Context σ) (id other : Nat) (value : Bool)
    (h : id < context.counters.size) :
    (context.mark id value).counter other
      = if other = id then decidedCounter value else context.counter other :=
  counter_setCounter context id other _ h

/-- Setting a counter leaves every other counter alone. -/
theorem counter_setCounter_of_ne (context : Context σ) {id other : Nat} (counter : Int)
    (h : other ≠ id) : (context.setCounter id counter).counter other = context.counter other := by
  unfold setCounter Context.counter
  rw [Array.getElem?_setIfInBounds_ne (Ne.symm h)]

/-- Evaluations with as many nodes, the same counters and the same session are the same. -/
theorem ext_counter {context other : Context σ} (hsize : context.counters.size = other.counters.size)
    (hcounter : ∀ id, context.counter id = other.counter id)
    (hsession : context.session = other.session) : context = other := by
  have hcounters : context.counters = other.counters := by
    refine Array.ext hsize fun id hid hid' => ?_
    have hsame := hcounter id
    rw [counter, counter, Array.getElem?_eq_getElem hid, Array.getElem?_eq_getElem hid'] at hsame
    exact hsame
  cases context
  cases other
  exact congr (congrArg Context.mk hcounters) hsession

end Context

namespace Tree

variable {σ : Type} {tree : Tree} {suspend : Nat → σ → σ}

/-- Suspending a leaf changes no counter. -/
@[simp] theorem counters_suspendLeaf (context : Context σ) (id : Nat) :
    (tree.suspendLeaf suspend context id).counters = context.counters := by
  unfold suspendLeaf
  split <;> rfl

/-- Suspending a leaf changes no counter. -/
@[simp] theorem counter_suspendLeaf (context : Context σ) (id other : Nat) :
    (tree.suspendLeaf suspend context id).counter other = context.counter other := by
  rw [Context.counter, counters_suspendLeaf, Context.counter]

/-- Forcing keeps the number of counters. -/
@[simp] theorem size_force (value : Bool) (context : Context σ) (id : Nat) :
    (tree.force suspend value context id).counters.size = context.counters.size := by
  unfold force
  split
  · rw [counters_suspendLeaf, Context.size_mark]
  · rfl

/-- Forcing a node decides it if its counter is one, and decides no other node. -/
theorem counter_force (value : Bool) (context : Context σ) (id other : Nat) :
    (tree.force suspend value context id).counter other
      = if other = id ∧ context.counter other = 1 then decidedCounter value
        else context.counter other := by
  unfold force
  by_cases h : context.counter id = 1
  · have hid : id < context.counters.size := Context.lt_size_of_counter_pos (by omega)
    rw [if_pos h, counter_suspendLeaf, Context.counter_mark _ _ _ _ hid]
    by_cases ho : other = id
    · rw [if_pos ho, if_pos ⟨ho, ho ▸ h⟩]
    · rw [if_neg ho, if_neg fun hc => ho hc.1]
  · rw [if_neg h, if_neg]
    intro hparts
    rcases hparts with ⟨rfl, hc⟩
    exact h hc

/-- Forcing nodes one after the other keeps the number of counters. -/
theorem size_foldl_force (value : Bool) (ids : List Nat) (context : Context σ) :
    (ids.foldl (tree.force suspend value) context).counters.size = context.counters.size := by
  induction ids generalizing context with
  | nil => rfl
  | cons id ids ih => rw [List.foldl_cons, ih, size_force]

/-- Forcing nodes one after the other decides those among them that have the counter one. -/
theorem counter_foldl_force (value : Bool) (ids : List Nat) (context : Context σ) (other : Nat) :
    (ids.foldl (tree.force suspend value) context).counter other
      = if other ∈ ids ∧ context.counter other = 1 then decidedCounter value
        else context.counter other := by
  induction ids generalizing context with
  | nil => simp
  | cons id ids ih =>
    rw [List.foldl_cons, ih, counter_force]
    have hne := decidedCounter_ne_one value
    by_cases hone : context.counter other = 1
    · by_cases hid : other = id
      · simp [← hid, hone, hne]
      · simp [hid, hone]
    · simp [hone]

/-- The numbers in the span of a node. -/
theorem mem_span {node : Node} {i : Nat} :
    i ∈ node.span ↔ node.start ≤ i ∧ i < node.start + (node.stop - node.start) :=
  List.mem_range'_1

/-- A sweep keeps the number of counters. -/
@[simp] theorem size_sweep (id : Nat) (value : Bool) (context : Context σ) :
    (tree.sweep suspend id value context).counters.size = context.counters.size := by
  unfold sweep
  split
  · rfl
  · rw [Context.size_mark, size_foldl_force]

/-- A sweep decides its node, and in the span of the node all that has the counter one. -/
theorem counter_sweep {id : Nat} {node : Node} (hnode : tree.nodes[id]? = some node) (value : Bool)
    {context : Context σ} (hid : id < context.counters.size) (other : Nat) :
    (tree.sweep suspend id value context).counter other
      = if other = id ∨ (other ∈ node.span ∧ context.counter other = 1) then decidedCounter value
        else context.counter other := by
  unfold sweep
  rw [hnode]
  dsimp only
  rw [Context.counter_mark _ _ _ _ (by rw [size_foldl_force]; exact hid), counter_foldl_force]
  by_cases ho : other = id <;> simp [ho]

/-- Forcing different nodes one after the other suspends the leaves among them that wait, in order. -/
theorem session_foldl_force (value : Bool) {ids : List Nat} (hids : ids.Nodup)
    (context : Context σ) : (ids.foldl (tree.force suspend value) context).session
      = (ids.filter fun id => context.counter id = 1 && (tree.leaf? id).isSome).foldl
          (fun session id => suspend id session) context.session := by
  induction ids generalizing context with
  | nil => rfl
  | cons id ids ih =>
    obtain ⟨hid, hids⟩ := List.nodup_cons.mp hids
    -- What was forced before has another counter, and is no later node.
    have hlater : ∀ other ∈ ids,
        (tree.force suspend value context id).counter other = context.counter other := by
      intro other hother
      rw [counter_force, if_neg]
      intro hparts
      exact hid (hparts.1 ▸ hother)
    have hfilter : ids.filter (fun other => (tree.force suspend value context id).counter other = 1
          && (tree.leaf? other).isSome)
        = ids.filter fun other => context.counter other = 1 && (tree.leaf? other).isSome :=
      List.filter_congr fun other hother => by rw [hlater other hother]
    rw [List.foldl_cons, ih hids, hfilter, List.filter_cons]
    unfold force suspendLeaf
    by_cases hone : context.counter id = 1
    · rw [if_pos hone]
      cases (tree.leaf? id).isSome <;> simp [hone, Context.mark, Context.setCounter]
    · simp [hone]

/-- A sweep suspends the leaves in the span of its node that wait, in order. -/
theorem session_sweep {id : Nat} {node : Node} (hnode : tree.nodes[id]? = some node) (value : Bool)
    (context : Context σ) : (tree.sweep suspend id value context).session
      = (node.span.filter fun i => context.counter i = 1 && (tree.leaf? i).isSome).foldl
          (fun session i => suspend i session) context.session := by
  unfold sweep
  rw [hnode]
  exact session_foldl_force value List.nodup_range' context

/-- A sweep does not look at the counter of its own node, unless that is one. -/
theorem sweep_setCounter {id : Nat} (hid : id < tree.size) (value : Bool) (context : Context σ)
    {counter other : Int} (hcounter : counter ≠ 1) (hother : other ≠ 1) :
    tree.sweep suspend id value (context.setCounter id counter)
      = tree.sweep suspend id value (context.setCounter id other) := by
  rcases Nat.lt_or_ge id context.counters.size with hsize | hsize
  · obtain ⟨node, hnode⟩ : ∃ node, tree.nodes[id]? = some node :=
      ⟨_, Array.getElem?_eq_getElem hid⟩
    have hone : ∀ i, (context.setCounter id counter).counter i = 1 ↔
        (context.setCounter id other).counter i = 1 := by
      intro i
      rw [Context.counter_setCounter _ _ _ _ hsize, Context.counter_setCounter _ _ _ _ hsize]
      split
      · exact ⟨fun h => absurd h hcounter, fun h => absurd h hother⟩
      · rfl
    refine Context.ext_counter (by simp) (fun i => ?_) ?_
    · rw [counter_sweep hnode _ (by simpa using hsize), counter_sweep hnode _ (by simpa using hsize)]
      by_cases hi : i = id
      · rw [if_pos (.inl hi), if_pos (.inl hi)]
      · simp only [Context.counter_setCounter_of_ne context _ hi]
    · rw [session_sweep hnode, session_sweep hnode]
      simp only [hone]
      rfl
  · rw [Context.setCounter, Context.setCounter, Array.setIfInBounds_eq_of_size_le hsize,
      Array.setIfInBounds_eq_of_size_le hsize]

/-- A property of evaluations that no move of a report breaks. -/
structure Invariant (tree : Tree) (suspend : Nat → σ → σ) (P : Context σ → Prop) : Prop where
  /-- It survives marking a node as decided. -/
  mark : ∀ context id value, P context → P (context.mark id value)
  /-- It survives suspending a leaf that is decided. -/
  suspend : ∀ context id, (tree.leaf? id).isSome = true → context.isDecidedAt id = true →
    P context → P { context with session := suspend id context.session }
  /-- It survives counting down an undecided node. -/
  countDown : ∀ context id, context.isDecidedAt id = false → P context →
    P (context.setCounter id (context.counter id - 1))

namespace Invariant

variable {P : Context σ → Prop} (h : Invariant tree suspend P)

include h

/-- Marking a node and suspending it preserves an invariant. -/
theorem suspendLeaf_mark (context : Context σ) (id : Nat) (value : Bool) (hp : P context) :
    P (tree.suspendLeaf suspend (context.mark id value) id) := by
  have hmark := h.mark context id value hp
  unfold suspendLeaf
  split
  · rename_i hleaf
    refine h.suspend _ id hleaf ?_ hmark
    rw [Context.isDecidedAt_iff]
    by_cases hid : id < context.counters.size
    · rw [Context.counter_mark _ _ _ _ hid, if_pos rfl]
      exact decidedCounter_nonpos value
    · rw [Context.counter, Array.getElem?_eq_none (by rw [Context.size_mark]; omega)]
      exact Int.le_refl 0
  · exact hmark

/-- Forcing a node preserves an invariant. -/
theorem force (value : Bool) (context : Context σ) (id : Nat) (hp : P context) :
    P (tree.force suspend value context id) := by
  unfold Tree.force
  split
  · exact h.suspendLeaf_mark context id value hp
  · exact hp

/-- A sweep preserves an invariant. -/
theorem sweep (id : Nat) (value : Bool) (context : Context σ) (hp : P context) :
    P (tree.sweep suspend id value context) := by
  have hfold : ∀ (ids : List Nat) (context : Context σ), P context →
      P (ids.foldl (tree.force suspend value) context) := by
    intro ids
    induction ids with
    | nil => exact fun _ hp => hp
    | cons id ids ih => exact fun context hp => ih _ (h.force value context id hp)
  unfold Tree.sweep
  split
  · exact hp
  · exact h.mark _ id value (hfold _ context hp)

/-- Handing a value upwards preserves an invariant. -/
theorem climb (value : Bool) (child : Nat) (above : List Nat) (context : Context σ)
    (hp : P context) : P (tree.climb suspend value child above context).1 := by
  induction above generalizing child context with
  | nil => exact hp
  | cons id above ih =>
    rw [Tree.climb]
    split
    · exact hp
    · rename_i hopen
      split
      · exact ih id _ (h.sweep id value context hp)
      · have hcount := h.countDown context id (by simp_all) hp
        dsimp only
        split
        · exact ih id _ (h.sweep id value _ hcount)
        · exact h.sweep child value _ hcount

/-- The report of a leaf preserves an invariant. -/
theorem reportLeaf (node : Node) (leaf : Leaf) (result : Bool) (context : Context σ)
    (hp : P context) : P (tree.reportLeaf suspend node leaf result context).1 := by
  unfold Tree.reportLeaf
  split
  · exact hp
  · dsimp only
    split
    · exact h.suspendLeaf_mark context _ _ hp
    · exact h.climb _ _ _ _ (h.mark context _ _ hp)

/-- A report preserves an invariant, whether it faults or not. -/
theorem report (id : Nat) (result : Bool) (context : Context σ) (hp : P context) :
    P (tree.report suspend id result context).1 := by
  unfold Tree.report
  split
  · exact hp
  · split
    · exact hp
    · split
      · exact h.reportLeaf _ _ result context hp
      · exact hp

end Invariant

/-- A report at a node whose leaf has its number is a report of this leaf. -/
theorem report_of_leaf {id : Nat} {node : Node} {leaf : Leaf} (hnode : tree.nodes[id]? = some node)
    (hleaf : node.leaf? = some leaf) (hid : leaf.id = id) (suspend : Nat → σ → σ) (result : Bool)
    (context : Context σ) :
    tree.report suspend id result context = tree.reportLeaf suspend node leaf result context := by
  obtain ⟨above, start, stop, _ | found⟩ := node
  · cases hleaf
  · obtain rfl := Option.some.inj hleaf
    simp only [report, hnode, if_pos hid]

/-- A decided node stays decided. -/
theorem invariant_isDecidedAt (tree : Tree) (suspend : Nat → σ → σ) (id : Nat) :
    Invariant tree suspend fun context => context.isDecidedAt id = true := by
  have hset : ∀ (context : Context σ) other counter, other ≠ id ∨ counter ≤ 0 →
      context.isDecidedAt id = true → (context.setCounter other counter).isDecidedAt id = true := by
    intro context other counter hcases h
    rw [Context.isDecidedAt_iff] at h ⊢
    rcases Nat.lt_or_ge other context.counters.size with hsize | hsize
    · rw [Context.counter_setCounter _ _ _ _ hsize]
      split
      · rename_i heq
        exact hcases.resolve_left fun hne => hne heq.symm
      · exact h
    · rw [Context.setCounter, Array.setIfInBounds_eq_of_size_le hsize]
      exact h
  refine ⟨fun context other value h => hset context other _ (.inr (decidedCounter_nonpos value)) h,
    fun _ _ _ _ h => h, fun context other hopen h => hset context other _ (.inl ?_) h⟩
  rintro rfl
  rw [h] at hopen
  exact Bool.false_ne_true hopen.symm

end Tree

end Percolator
