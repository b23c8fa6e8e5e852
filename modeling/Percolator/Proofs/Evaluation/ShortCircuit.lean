import Percolator.Proofs.Evaluation.Shadow

/-!
# Which leaves are suspended

A decided operator is swept, which decides and suspends the leaves below it that wait; no other leaf is
decided without being reported. The sweeps of a single report overlap, but a leaf that was swept does
not wait any more. Main statements: if the session of a recorder holds exactly the leaves that were
decided without being reported, each of them once, then so it does after the report of an undecided
leaf; and the leaves that the report adds lie below the topmost node that it decides.
-/

namespace Percolator

open Relation

/-- Suspending a leaf writes its number down at the end of the session. -/
def Tree.Records (tree : Tree) (suspend : Nat → List Nat → List Nat) : Prop :=
  ∀ leaf, (tree.leaf? leaf).isSome = true → ∀ session, suspend leaf session = session ++ [leaf]

/-- The leaves below a node that wait, in order. -/
def Tree.waitingBelow {σ : Type} (tree : Tree) (context : Context σ) (id : Nat) : List Nat :=
  (tree.spanOf id).filter fun i => context.counter i = 1 && (tree.leaf? i).isSome

/-- The session holds the leaves that were decided without being reported, each of them once. The only
node of a tree is there once it was reported. -/
structure Suspends (tree : Tree) (reported : List Nat) (context : Context (List Nat)) : Prop where
  once : context.session.Nodup
  exactly : ∀ leaf, leaf ∈ context.session ↔ (tree.leaf? leaf).isSome = true ∧
    ((context.isDecidedAt leaf = true ∧ leaf ∉ reported) ∨ (tree.size = 1 ∧ leaf ∈ reported))

/-- A report decides a topmost node, which has the leaf below it and all other nodes that the report
decides. The leaves that it suspends are below that node as well. -/
structure Decides (tree : Tree) (leaf top : Nat) (context next : Context (List Nat)) : Prop where
  reaches : ReflTransGen tree.Below leaf top
  undecided : context.isDecidedAt top = false
  decided : next.isDecidedAt top = true
  topmost : ∀ id, context.isDecidedAt id = false → next.isDecidedAt id = true →
    ReflTransGen tree.Below id top
  suspends : ∃ added, next.session = context.session ++ added ∧
    ∀ id ∈ added, ReflTransGen tree.Below id top

variable {tree : Tree} {suspend : Nat → List Nat → List Nat} {context : Context (List Nat)}
  {reported : List Nat} {id leaf child : Nat} {above : List Nat}

namespace Tree

/-- The leaves that wait below a node are different ones. -/
theorem nodup_waitingBelow {σ : Type} (hid : id < tree.size) (context : Context σ) :
    (tree.waitingBelow context id).Nodup := by
  rw [waitingBelow, spanOf_eq_span (Array.getElem?_eq_getElem hid)]
  exact List.Pairwise.filter _ List.nodup_range'

/-- A leaf that waits below a node is below it, and waits. -/
theorem Rooted.mem_waitingBelow (h : tree.Rooted) (hid : id < tree.size) :
    leaf ∈ tree.waitingBelow context id ↔
      ReflTransGen tree.Below leaf id ∧ context.counter leaf = 1 ∧ (tree.leaf? leaf).isSome = true := by
  rw [waitingBelow, List.mem_filter, h.spans id hid, Bool.and_eq_true, decide_eq_true_iff]

namespace Records

variable (h : tree.Records suspend)

include h

/-- Leaves that are suspended one after the other are written down in this order. -/
theorem foldl_suspend {leaves : List Nat} (hleaves : ∀ i ∈ leaves, (tree.leaf? i).isSome = true)
    (session : List Nat) :
    leaves.foldl (fun session i => suspend i session) session = session ++ leaves := by
  induction leaves generalizing session with
  | nil => exact (List.append_nil session).symm
  | cons i leaves ih =>
    rw [List.foldl_cons, h i (hleaves i List.mem_cons_self),
      ih (fun j hj => hleaves j (List.mem_cons_of_mem _ hj)), List.append_assoc, List.singleton_append]

/-- A sweep writes down the leaves below its node that wait. -/
theorem session_sweep (hid : id < tree.size) (value : Bool) (context : Context (List Nat)) :
    (tree.sweep suspend id value context).session
      = context.session ++ tree.waitingBelow context id := by
  have hnode := Array.getElem?_eq_getElem hid
  rw [Tree.session_sweep hnode, waitingBelow, spanOf_eq_span hnode]
  refine h.foldl_suspend (fun i hi => ?_) context.session
  exact (Bool.and_eq_true_iff.mp (List.mem_filter.mp hi).2).2

/-- A climb from a decided node decides a topmost node above it, or none but itself; what it decides
and suspends is below that node. -/
theorem climb (hrooted : tree.Rooted) (hsize : tree.size ≤ context.counters.size)
    (hchild : child < tree.size) (hlineage : tree.Lineage child above)
    (hdecided : context.isDecidedAt child = true) (value : Bool) :
    ∃ top added, ReflTransGen tree.Below child top ∧
      (tree.climb suspend value child above context).1.isDecidedAt top = true ∧
      (∀ id, ¬ ReflTransGen tree.Below id top →
        (tree.climb suspend value child above context).1.isDecidedAt id = context.isDecidedAt id) ∧
      (tree.climb suspend value child above context).1.session = context.session ++ added ∧
      ∀ id ∈ added, ReflTransGen tree.Below id top := by
  induction above generalizing child context with
  | nil =>
    exact ⟨child, [], .refl, hdecided, fun _ _ => rfl, (List.append_nil _).symm,
      fun _ hmem => absurd hmem List.not_mem_nil⟩
  | cons id above ih =>
    obtain ⟨hbelow, hlineage⟩ := hlineage
    obtain ⟨_, hconnective⟩ := hrooted.operators _ _ hbelow
    have hid : id < tree.size := Nat.lt_trans (hrooted.parents _ _ hbelow) hchild
    have hascent := Tree.ascent hconnective suspend value child above context
    generalize tree.climb suspend value child (id :: above) context = reported at hascent ⊢
    cases hascent with
    | refused _ =>
      exact ⟨child, [], .refl, hdecided, fun _ _ => rfl, (List.append_nil _).symm,
        fun _ hmem => absurd hmem List.not_mem_nil⟩
    | decides _ _ =>
      have hswept := isDecidedAt_sweep_self suspend hid (Nat.lt_of_lt_of_le hid hsize) value
      obtain ⟨top, added, hreaches, htop, hothers, hsession, hadded⟩ :=
        ih (by rw [size_sweep]; exact hsize) hid hlineage hswept
      refine ⟨top, tree.waitingBelow context id ++ added, .head hbelow hreaches, htop,
        fun other hother => ?_, ?_, fun other hmem => ?_⟩
      · have hout : ¬ ReflTransGen tree.Below other id := fun hin => hother (hin.trans hreaches)
        rw [hothers other hother, Context.isDecidedAt, hrooted.counter_sweep_of_not_reaches hout,
          Context.isDecidedAt]
      · rw [hsession, h.session_sweep hid, List.append_assoc]
      · rcases List.mem_append.mp hmem with hmem | hmem
        · exact ((hrooted.mem_waitingBelow hid).mp hmem).1.trans hreaches
        · exact hadded other hmem
    | @pending counter hopen _ hcounter =>
      have hsize' : child < (context.setCounter id counter).counters.size := by
        rw [Context.size_setCounter]
        exact Nat.lt_of_lt_of_le hchild hsize
      refine ⟨child, tree.waitingBelow (context.setCounter id counter) child, .refl,
        isDecidedAt_sweep_self suspend hchild hsize' value, fun other hother => ?_,
        h.session_sweep hchild value _, fun other hmem => ((hrooted.mem_waitingBelow hchild).mp hmem).1⟩
      rw [Context.isDecidedAt, hrooted.counter_sweep_of_not_reaches hother, ← Context.isDecidedAt]
      exact Context.isDecidedAt_setCounter hopen hcounter other

/-- A report of an undecided leaf decides a topmost node. -/
theorem decides_report (hrooted : tree.Rooted) (hshadowed : Shadowed tree context)
    (hleaf : (tree.leaf? leaf).isSome = true) (hopen : context.isDecidedAt leaf = false)
    (result : Bool) :
    ∃ top, Decides tree leaf top context (tree.report suspend leaf result context).1 := by
  obtain ⟨found, hfound⟩ := Option.isSome_iff_exists.mp hleaf
  have hid := lt_size_of_leaf? hfound
  have hsize : leaf < context.counters.size := Nat.lt_of_lt_of_le hid hshadowed.size
  have hcases := hrooted.leafReport hfound (hshadowed.open_root hrooted hleaf hopen) suspend result
  generalize (result != found.negated) = value at hcases
  generalize tree.report suspend leaf result context = reported at hcases ⊢
  have hmarked := Context.isDecidedAt_mark_self hsize value
  -- Outside the subtree of a node above the leaf marking the leaf decides nothing.
  have hmark : ∀ {top id}, ReflTransGen tree.Below leaf top → ¬ ReflTransGen tree.Below id top →
      (context.mark leaf value).isDecidedAt id = context.isDecidedAt id := by
    intro top id hreaches hout
    refine Context.isDecidedAt_mark_of_ne context ?_ value
    rintro rfl
    exact hout hreaches
  cases hcases with
  | single _ =>
    refine ⟨leaf, .refl, hopen, (isDecidedAt_suspendLeaf _ leaf leaf).trans hmarked,
      fun id hbefore hafter => ?_, [leaf], ?_, fun id hmem => ?_⟩
    · refine Classical.byContradiction fun hout => ?_
      rw [isDecidedAt_suspendLeaf, hmark .refl hout, hbefore] at hafter
      exact Bool.false_ne_true hafter
    · rw [suspendLeaf, if_pos hleaf]
      exact h leaf hleaf context.session
    · rw [List.mem_singleton.mp hmem]
  | climb _ hlineage =>
    obtain ⟨top, added, hreaches, htop, hothers, hsession, hadded⟩ :=
      h.climb hrooted (by rw [Context.size_mark]; exact hshadowed.size) hid hlineage hmarked value
    refine ⟨top, hreaches, hshadowed.open_above hleaf hopen hreaches, htop,
      fun id hbefore hafter => ?_, added, hsession, hadded⟩
    refine Classical.byContradiction fun hout => ?_
    rw [hothers id hout, hmark hreaches hout, hbefore] at hafter
    exact Bool.false_ne_true hafter

end Records

end Tree

/-- What the session holds, along with what sweeps need to keep it so. -/
structure Noted (tree : Tree) (reported : List Nat) (context : Context (List Nat)) : Prop where
  shadowed : Shadowed tree context
  decided : ∀ leaf ∈ reported, context.isDecidedAt leaf = true
  suspends : Suspends tree reported context

namespace Noted

variable (h : Noted tree reported context) (hrooted : tree.Rooted) (hrecords : tree.Records suspend)

include h

/-- A leaf that is suspended is decided. -/
theorem decided_of_mem (hmem : leaf ∈ context.session) : context.isDecidedAt leaf = true := by
  rcases ((h.suspends.exactly leaf).mp hmem).2 with ⟨hdecided, _⟩ | ⟨_, hreported⟩
  · exact hdecided
  · exact h.decided leaf hreported

/-- Counting an operator down that stays undecided concerns no leaf. -/
theorem setCounter {c : Connective} (hconnective : tree.connective? id = some c) {counter : Int}
    (hopen : 0 < context.counter id) (hcounter : 0 < counter) :
    Noted tree reported (context.setCounter id counter) := by
  have hsame := fun other => Context.isDecidedAt_setCounter hopen hcounter other
  refine ⟨h.shadowed.setCounter hconnective hcounter, fun leaf hmem => ?_, h.suspends.once,
    fun leaf => ?_⟩
  · rw [hsame]
    exact h.decided leaf hmem
  · rw [hsame]
    exact h.suspends.exactly leaf

include hrooted

/-- A sweep decides the leaves that it suspends, and no other. -/
theorem sweep (hrecords : tree.Records suspend) (hid : id < tree.size) (value : Bool) :
    Noted tree reported (tree.sweep suspend id value context) := by
  have hsize : id < context.counters.size := Nat.lt_of_lt_of_le hid h.shadowed.size
  have hnext := h.shadowed.sweep hrooted suspend hid value
  have hself := Tree.isDecidedAt_sweep_self suspend hid hsize value
  have hwaits : ∀ {leaf}, leaf ∈ tree.waitingBelow context id → context.isDecidedAt leaf = false :=
    fun {leaf} hmem => by
      have hone := ((hrooted.mem_waitingBelow hid).mp hmem).2.1
      rw [Context.isDecidedAt_eq_false_iff]
      omega
  have hleaves : ∀ leaf, (tree.leaf? leaf).isSome = true →
      ((tree.sweep suspend id value context).isDecidedAt leaf = true ↔
        context.isDecidedAt leaf = true ∨ leaf ∈ tree.waitingBelow context id) := by
    intro leaf hleaf
    have hle := h.shadowed.waits leaf hleaf
    rw [hrooted.mem_waitingBelow hid]
    by_cases hreaches : ReflTransGen tree.Below leaf id
    · rw [hnext.shadow leaf id hleaf hreaches hself, Context.isDecidedAt_iff]
      simp only [hreaches, hleaf, true_and, and_true, true_iff]
      omega
    · simp only [hreaches, false_and, or_false]
      rw [Context.isDecidedAt, hrooted.counter_sweep_of_not_reaches hreaches, Context.isDecidedAt]
  refine ⟨hnext, fun leaf hmem => ?_, ?_, fun leaf => ?_⟩
  · exact (Tree.invariant_isDecidedAt tree suspend leaf).sweep id value context (h.decided leaf hmem)
  · rw [hrecords.session_sweep hid, List.nodup_append]
    refine ⟨h.suspends.once, Tree.nodup_waitingBelow hid context, fun leaf hmem other hother heq => ?_⟩
    subst heq
    have hdecided := h.decided_of_mem hmem
    rw [hwaits hother] at hdecided
    exact Bool.false_ne_true hdecided
  · rw [hrecords.session_sweep hid, List.mem_append, h.suspends.exactly]
    -- A leaf that waits was not reported.
    have hfresh : leaf ∈ tree.waitingBelow context id → leaf ∉ reported := fun hmem hreported => by
      have hdecided := h.decided leaf hreported
      rw [hwaits hmem] at hdecided
      exact Bool.false_ne_true hdecided
    have hleaf : leaf ∈ tree.waitingBelow context id → (tree.leaf? leaf).isSome = true :=
      fun hmem => ((hrooted.mem_waitingBelow hid).mp hmem).2.2
    constructor
    · rintro (⟨hisLeaf, ⟨hdecided, hunreported⟩ | hsingle⟩ | hmem)
      · exact ⟨hisLeaf, .inl ⟨(hleaves leaf hisLeaf).mpr (.inl hdecided), hunreported⟩⟩
      · exact ⟨hisLeaf, .inr hsingle⟩
      · exact ⟨hleaf hmem, .inl ⟨(hleaves leaf (hleaf hmem)).mpr (.inr hmem), hfresh hmem⟩⟩
    · rintro ⟨hisLeaf, ⟨hdecided, hunreported⟩ | hsingle⟩
      · rcases (hleaves leaf hisLeaf).mp hdecided with hbefore | hmem
        · exact .inl ⟨hisLeaf, .inl ⟨hbefore, hunreported⟩⟩
        · exact .inr hmem
      · exact .inl ⟨hisLeaf, .inr hsingle⟩

/-- A leaf that is marked is one that was reported, unless it is the only node. -/
theorem mark (hleaf : (tree.leaf? leaf).isSome = true) (hopen : context.isDecidedAt leaf = false)
    (hne : leaf ≠ 0) (value : Bool) :
    Noted tree (reported ++ [leaf]) (context.mark leaf value) := by
  have hsize : leaf < context.counters.size :=
    Nat.lt_of_lt_of_le (Tree.lt_size_of_isLeaf hleaf) h.shadowed.size
  have hmarked := Context.isDecidedAt_mark_self hsize value
  have hsingle : tree.size ≠ 1 := fun hone => hne ((hrooted.size_eq_one_iff hleaf).mp hone)
  have hmem : ∀ {id}, id ∈ reported ++ [leaf] ↔ id ∈ reported ∨ id = leaf := by
    intro id
    rw [List.mem_append, List.mem_singleton]
  refine ⟨h.shadowed.mark hrooted hleaf value, fun id hid => ?_, h.suspends.once, fun id => ?_⟩
  · by_cases hsame : id = leaf
    · rw [hsame, hmarked]
    · rw [Context.isDecidedAt_mark_of_ne context hsame]
      exact h.decided id ((hmem.mp hid).resolve_right hsame)
  · refine (h.suspends.exactly id).trans (and_congr_right fun _ => ?_)
    rw [hmem]
    by_cases hsame : id = leaf
    · subst hsame
      simp [hopen, hsingle]
    · simp [Context.isDecidedAt_mark_of_ne context hsame, hsame]

omit h in
/-- No climb breaks what is noted. -/
theorem invariant (hrecords : tree.Records suspend) :
    Tree.SweepInvariant tree suspend (Noted tree reported) :=
  ⟨fun _ _ value hid h => h.sweep hrooted hrecords hid value,
    fun _ _ _ _ hconnective hopen hcounter h => h.setCounter hconnective hopen hcounter⟩

/-- A report of an undecided leaf adds to the session what it decides besides the leaf. -/
theorem report (hrecords : tree.Records suspend) (hleaf : (tree.leaf? leaf).isSome = true)
    (hopen : context.isDecidedAt leaf = false) (result : Bool) :
    Noted tree (reported ++ [leaf]) (tree.report suspend leaf result context).1 := by
  obtain ⟨found, hfound⟩ := Option.isSome_iff_exists.mp hleaf
  have hid := Tree.lt_size_of_leaf? hfound
  have hcases := hrooted.leafReport hfound (h.shadowed.open_root hrooted hleaf hopen) suspend result
  have hnext := h.shadowed.report hrooted suspend leaf result
  generalize (result != found.negated) = value at hcases
  generalize tree.report suspend leaf result context = reported' at hcases hnext ⊢
  cases hcases with
  | climb hne hlineage =>
    have hmark := h.mark hrooted hleaf hopen
      (Nat.ne_of_gt (hrooted.pos_of_lineage hlineage hne)) value
    exact (invariant hrooted hrecords).climb hrooted hid hlineage hmark value
  | single hroot =>
    subst hroot
    have hsingle := (hrooted.size_eq_one_iff hleaf).mpr rfl
    have honly : ∀ id, (tree.leaf? id).isSome = true → id = 0 := by
      intro id hisLeaf
      have hlt := Tree.lt_size_of_isLeaf hisLeaf
      omega
    have hempty : context.session = [] := by
      refine List.eq_nil_iff_forall_not_mem.mpr fun id hmem => ?_
      have hdecided := h.decided_of_mem hmem
      rw [honly id ((h.suspends.exactly id).mp hmem).1, hopen] at hdecided
      exact Bool.false_ne_true hdecided
    have hsession : (tree.suspendLeaf suspend (context.mark 0 value) 0).session = [0] := by
      rw [Tree.suspendLeaf, if_pos hleaf]
      exact (hrecords 0 hleaf context.session).trans (by rw [hempty, List.nil_append])
    refine ⟨hnext, fun id hmem => ?_, ?_, fun id => ?_⟩
    · rw [Tree.isDecidedAt_suspendLeaf]
      by_cases hsame : id = 0
      · rw [hsame]
        exact Context.isDecidedAt_mark_self (Nat.lt_of_lt_of_le hid h.shadowed.size) value
      · rw [Context.isDecidedAt_mark_of_ne context hsame]
        refine h.decided id ((List.mem_append.mp hmem).resolve_right fun hlast => hsame ?_)
        exact List.mem_singleton.mp hlast
    · rw [hsession]
      exact List.pairwise_singleton _ 0
    · rw [hsession, List.mem_singleton]
      constructor
      · rintro rfl
        exact ⟨hleaf, .inr ⟨hsingle, List.mem_append_right _ List.mem_cons_self⟩⟩
      · exact fun hparts => honly id hparts.1

end Noted

/-- In a new evaluation nothing is suspended and no leaf is decided. -/
theorem Noted.new {resolve : String → Option Path} {e : Expr}
    (hcompile : e.compile resolve = .ok tree) : Noted tree [] (.new tree []) := by
  refine ⟨.new hcompile [], fun _ hmem => absurd hmem List.not_mem_nil, List.Pairwise.nil,
    fun leaf => ⟨fun hmem => absurd hmem List.not_mem_nil, fun hparts => ?_⟩⟩
  obtain ⟨hleaf, ⟨hdecided, _⟩ | ⟨_, hreported⟩⟩ := hparts
  · rw [Context.isDecidedAt_new hleaf] at hdecided
    exact absurd hdecided Bool.false_ne_true
  · exact absurd hreported List.not_mem_nil

end Percolator
