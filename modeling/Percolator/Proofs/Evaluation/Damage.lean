import Percolator.Proofs.Evaluation.Shadow

/-!
# What a faulting report leaves behind

Leaves do not look whether they were reported before. Such a report marks the leaf again, and counts
down and sweeps operators above it, until a decided one refuses the value. Main statements: whatever was
reported before, a report that faults in an undecided evaluation changes counters below that operator
only, no other leaf among them, and suspends nothing; and nobody who reports undecided leaves from then
on can tell that it was made.
-/

namespace Percolator

open Relation

variable {σ : Type}

/-- A change below an operator that touches no leaf and suspends nothing. -/
structure Spares (tree : Tree) (operator : Nat) (before after : Context σ) : Prop where
  counters : ∀ id, ¬ TransGen tree.Below id operator → after.counter id = before.counter id
  leaves : ∀ leaf, (tree.leaf? leaf).isSome = true → after.counter leaf = before.counter leaf
  session : after.session = before.session

namespace Spares

variable {tree : Tree} {suspend : Nat → σ → σ} {operator id : Nat} {context next last : Context σ}

/-- What two steps spare is spared by both together. -/
theorem trans (h : Spares tree operator context next) (h' : Spares tree operator next last) :
    Spares tree operator context last :=
  ⟨fun id hid => (h'.counters id hid).trans (h.counters id hid),
    fun leaf hleaf => (h'.leaves leaf hleaf).trans (h.leaves leaf hleaf),
    h'.session.trans h.session⟩

/-- Sweeping another operator below the operator is such a change if the operator is decided, since all
leaves in the way are decided then. -/
theorem sweep (hrooted : tree.Rooted) (h : Shadowed tree context) {c : Connective}
    (hconnective : tree.connective? id = some c) (hid : id < tree.size)
    (habove : TransGen tree.Below id operator) (hdecided : context.isDecidedAt operator = true)
    (value : Bool) : Spares tree operator context (tree.sweep suspend id value context) := by
  have hsize : id < context.counters.size := Nat.lt_of_lt_of_le hid h.size
  have hone : ∀ leaf, (tree.leaf? leaf).isSome = true → ReflTransGen tree.Below leaf id →
      context.counter leaf ≠ 1 := by
    intro leaf hleaf hreaches
    have hleaf' := h.shadow leaf operator hleaf (hreaches.trans habove.to_reflTransGen) hdecided
    rw [Context.isDecidedAt_iff] at hleaf'
    omega
  refine ⟨fun other hother => ?_, fun leaf hleaf => ?_, ?_⟩
  · exact hrooted.counter_sweep_of_not_reaches
      (fun hreaches => hother (.trans_right hreaches habove)) value context
  · by_cases hreaches : ReflTransGen tree.Below leaf id
    · rw [hrooted.counter_sweep hid hsize value hreaches, if_neg]
      exact not_or.mpr ⟨Tree.ne_of_connective? hconnective hleaf, hone leaf hleaf hreaches⟩
    · exact hrooted.counter_sweep_of_not_reaches hreaches value context
  · have hnode := Array.getElem?_eq_getElem hid
    have hnobody : (tree.nodes[id].span.filter fun i =>
        context.counter i = 1 && (tree.leaf? i).isSome) = [] := by
      rw [List.filter_eq_nil_iff]
      intro leaf hin
      rw [← Tree.spanOf_eq_span hnode, hrooted.spans id hid] at hin
      rw [Bool.and_eq_true, decide_eq_true_iff]
      exact fun hparts => hone leaf hparts.2 hin hparts.1
    rw [Tree.session_sweep hnode, hnobody, List.foldl_nil]

end Spares

/-- A climb that faults was refused by a decided operator, and changed nothing but what is below. -/
theorem Shadowed.spares_climb {tree : Tree} {suspend : Nat → σ → σ} {context : Context σ}
    {child : Nat} {above : List Nat} {value : Bool} {fault : Fault} (h : Shadowed tree context)
    (hrooted : tree.Rooted) (hchild : child < tree.size) (hlineage : tree.Lineage child above)
    (hroot : above ≠ [] → 0 < context.counter 0)
    (hfault : (tree.climb suspend value child above context).2 = .error fault) :
    ∃ operator ∈ above, fault = .alreadyDecided operator ∧ context.isDecidedAt operator = true ∧
      Spares tree operator context (tree.climb suspend value child above context).1 := by
  induction above generalizing child context with
  | nil => simp [Tree.climb] at hfault
  | cons id above ih =>
    obtain ⟨hbelow, hlineage⟩ := hlineage
    obtain ⟨c, hconnective⟩ := hrooted.operators _ _ hbelow
    have hid : id < tree.size := Nat.lt_trans (hrooted.parents _ _ hbelow) hchild
    have hascent := Tree.ascent hconnective suspend value child above context
    generalize tree.climb suspend value child (id :: above) context = reported at hascent hfault ⊢
    cases hascent with
    | refused hdecided =>
      refine ⟨id, List.mem_cons_self, (Except.error.inj hfault).symm, ?_,
        fun _ _ => rfl, fun _ _ => rfl, rfl⟩
      rwa [Context.isDecided_eq_false_iff.mpr (hroot (List.cons_ne_nil _ _)), Bool.or_false]
        at hdecided
    | pending _ _ _ => simp at hfault
    | decides _ hroot =>
      -- What is above the operator stays as it is.
      have hsame : ∀ ancestor ∈ above,
          (tree.sweep suspend id value context).counter ancestor = context.counter ancestor := by
        intro ancestor hmem
        exact hrooted.counter_sweep_of_not_reaches
          (hrooted.not_reaches_of_above (hlineage.above_of_mem hmem)) value context
      obtain ⟨operator, hmem, hnames, hdecided, hspares⟩ :=
        ih (h.sweep hrooted suspend hid value) hid hlineage (fun hne => by
          rw [hsame 0 (hlineage.root_mem hne)]
          exact hroot) hfault
      rw [Context.isDecidedAt, hsame operator hmem] at hdecided
      have habove := hlineage.above_of_mem hmem
      exact ⟨operator, List.mem_cons_of_mem _ hmem, hnames, hdecided,
        (Spares.sweep hrooted h hconnective hid habove hdecided value).trans hspares⟩

/-- What a report of a leaf that faults may have changed. -/
inductive Confined (tree : Tree) (leaf : Nat) (before after : Context σ) : Fault → Prop
  /-- The evaluation was decided, and is as before. -/
  | settled {fault : Fault} (hdecided : before.isDecided = true) (hsame : after = before) :
      Confined tree leaf before after fault
  /-- A decided operator above the leaf is named. Only counters below it are changed, no other leaf is,
  and nothing is suspended. -/
  | below {operator : Nat} (hoperator : ∃ c, tree.connective? operator = some c)
      (habove : TransGen tree.Below leaf operator)
      (hdecided : before.isDecidedAt operator = true)
      (hcounters : ∀ id, ¬ TransGen tree.Below id operator → after.counter id = before.counter id)
      (hleaves : ∀ other, (tree.leaf? other).isSome = true → other ≠ leaf →
        after.counter other = before.counter other)
      (hsession : after.session = before.session) :
      Confined tree leaf before after (.alreadyDecided operator)

/-- The damage of a report that faults is confined. -/
theorem Shadowed.confined {tree : Tree} {suspend : Nat → σ → σ} {context : Context σ} {leaf : Nat}
    {result : Bool} {fault : Fault} (h : Shadowed tree context) (hrooted : tree.Rooted)
    (hleaf : (tree.leaf? leaf).isSome = true)
    (hfault : (tree.report suspend leaf result context).2 = .error fault) :
    Confined tree leaf context (tree.report suspend leaf result context).1 fault := by
  cases hopen : context.isDecided with
  | true =>
    obtain ⟨_, hreport⟩ := Tree.report_of_decided hopen tree suspend leaf result
    exact .settled hopen (congrArg Prod.fst hreport)
  | false =>
    obtain ⟨found, hfound⟩ := Option.isSome_iff_exists.mp hleaf
    have hid := Tree.lt_size_of_leaf? hfound
    have hsize : leaf < context.counters.size := Nat.lt_of_lt_of_le hid h.size
    have hcases := hrooted.leafReport hfound hopen suspend result
    generalize (result != found.negated) = value at hcases
    generalize tree.report suspend leaf result context = reported at hcases hfault ⊢
    have hmark := fun other => Context.counter_mark context leaf other value hsize
    cases hcases with
    | single _ => simp at hfault
    | climb hne hlineage =>
      have hpos := hrooted.pos_of_lineage hlineage hne
      obtain ⟨operator, hmem, rfl, hdecided, hspares⟩ :=
        (h.mark hrooted hleaf value).spares_climb hrooted hid hlineage (fun _ => by
          rw [hmark, if_neg (Nat.ne_of_lt hpos)]
          exact Context.isDecided_eq_false_iff.mp hopen) hfault
      have habove := hlineage.above_of_mem hmem
      obtain ⟨_, _, hbelow⟩ := TransGen.tail'_iff.mp habove
      refine .below (hrooted.operators _ _ hbelow) habove ?_ (fun other hout => ?_)
        (fun other hother hne => ?_) hspares.session
      · rw [Context.isDecidedAt_iff, hmark, if_neg] at hdecided
        · exact Context.isDecidedAt_iff.mpr hdecided
        · rintro rfl
          exact hrooted.not_reaches_of_above habove .refl
      · rw [hspares.counters other hout, hmark, if_neg]
        rintro rfl
        exact hout habove
      · rw [hspares.leaves other hother, hmark, if_neg hne]

namespace Tree

/-- Every report is made on a leaf that is undecided. -/
def Fresh (tree : Tree) (suspend : Nat → σ → σ) : List (Nat × Bool) → Context σ → Prop
  | [], _ => True
  | (leaf, result) :: reports, context =>
    (tree.leaf? leaf).isSome = true ∧ context.isDecidedAt leaf = false ∧
      tree.Fresh suspend reports (tree.report suspend leaf result context).1

/-- What reports answer, and the verdict that is known after each. -/
def answers (tree : Tree) (suspend : Nat → σ → σ) :
    List (Nat × Bool) → Context σ → List (Except Fault (Option Bool) × Option Bool)
  | [], _ => []
  | (leaf, result) :: reports, context =>
    let (next, answer) := tree.report suspend leaf result context
    (answer, next.verdict) :: tree.answers suspend reports next

end Tree

/-- Two evaluations agree on the session, on which leaves are decided, and on the counters of the nodes
with nothing decided above them. -/
structure AgreeLive (tree : Tree) (context other : Context σ) : Prop where
  shadowed : Shadowed tree context
  shadowed' : Shadowed tree other
  session : context.session = other.session
  leaves : ∀ leaf, (tree.leaf? leaf).isSome = true →
    context.isDecidedAt leaf = other.isDecidedAt leaf
  live : ∀ id, (∀ ancestor, TransGen tree.Below id ancestor →
    context.isDecidedAt ancestor = false) → context.counter id = other.counter id

namespace AgreeLive

variable {tree : Tree} {suspend : Nat → σ → σ} {context other : Context σ} {id leaf : Nat}
  (h : AgreeLive tree context other) (hrooted : tree.Rooted)

include h

section Rooted

include hrooted

/-- The same nodes have nothing decided above them in both. -/
theorem symm : AgreeLive tree other context := by
  refine ⟨h.shadowed', h.shadowed, h.session.symm, fun leaf hleaf => (h.leaves leaf hleaf).symm,
    fun id hopen => (h.live id fun ancestor habove => ?_).symm⟩
  -- Nodes come after the operators above them, so the topmost ones are taken first.
  induction ancestor using Nat.strongRecOn with
  | ind ancestor ih =>
    have hsame : context.counter ancestor = other.counter ancestor :=
      h.live ancestor fun node hnode => ih node (hrooted.lt_of_above hnode) (habove.trans hnode)
    rw [Context.isDecidedAt, hsame]
    exact hopen ancestor habove

/-- The root has the same counter in both. -/
theorem counter_root : context.counter 0 = other.counter 0 :=
  h.live 0 fun _ habove => absurd habove hrooted.not_above_root

/-- The root is decided in both or in none. -/
theorem isDecided_eq : context.isDecided = other.isDecided := by
  rw [Context.isDecided, Context.isDecided, Context.isDecidedAt, Context.isDecidedAt,
    h.counter_root hrooted]

/-- The verdict is the same in both. -/
theorem verdict_eq : context.verdict = other.verdict := by
  rw [Context.verdict, Context.verdict, h.isDecided_eq hrooted, h.counter_root hrooted]

/-- Marking a leaf in both keeps them in agreement. -/
theorem mark (hleaf : (tree.leaf? leaf).isSome = true) (value : Bool) :
    AgreeLive tree (context.mark leaf value) (other.mark leaf value) := by
  have hid := Tree.lt_size_of_isLeaf hleaf
  have hmark := fun node => Context.counter_mark context leaf node value
    (Nat.lt_of_lt_of_le hid h.shadowed.size)
  have hmark' := fun node => Context.counter_mark other leaf node value
    (Nat.lt_of_lt_of_le hid h.shadowed'.size)
  refine ⟨h.shadowed.mark hrooted hleaf value, h.shadowed'.mark hrooted hleaf value, h.session,
    fun other hother => ?_, fun id hopen => ?_⟩
  · rw [Context.isDecidedAt, Context.isDecidedAt, hmark, hmark']
    split
    · rfl
    · exact h.leaves other hother
  · rw [hmark, hmark']
    split
    · rfl
    · refine h.live id fun ancestor habove => ?_
      have hne : ancestor ≠ leaf := by
        rintro rfl
        simp [hrooted.leaf?_of_above habove] at hleaf
      have hstill := hopen ancestor habove
      rwa [Context.isDecidedAt, hmark, if_neg hne] at hstill

/-- Sweeping a node in both keeps them in agreement: the leaves that wait are the same, and operators
that differ have the node, which is decided, above them. -/
theorem sweep (suspend : Nat → σ → σ) (hid : id < tree.size) (value : Bool) :
    AgreeLive tree (tree.sweep suspend id value context) (tree.sweep suspend id value other) := by
  have hsize : id < context.counters.size := Nat.lt_of_lt_of_le hid h.shadowed.size
  have hsize' : id < other.counters.size := Nat.lt_of_lt_of_le hid h.shadowed'.size
  have hnext := h.shadowed.sweep hrooted suspend hid value
  have hnext' := h.shadowed'.sweep hrooted suspend hid value
  have hself := Tree.isDecidedAt_sweep_self suspend hid hsize value
  have hself' := Tree.isDecidedAt_sweep_self suspend hid hsize' value
  refine ⟨hnext, hnext', ?_, fun leaf hleaf => ?_, fun node hopen => ?_⟩
  · have hnode := Array.getElem?_eq_getElem hid
    have hwaiting : ∀ i ∈ tree.nodes[id].span,
        (decide (context.counter i = 1) && (tree.leaf? i).isSome)
          = (decide (other.counter i = 1) && (tree.leaf? i).isSome) := by
      intro i _
      cases hleaf : (tree.leaf? i).isSome with
      | false => rw [Bool.and_false, Bool.and_false]
      | true =>
        have hwaits := h.shadowed.waits i hleaf
        have hwaits' := h.shadowed'.waits i hleaf
        have hsame := h.leaves i hleaf
        rw [Bool.eq_iff_iff, Context.isDecidedAt_iff, Context.isDecidedAt_iff] at hsame
        rw [Bool.and_true, Bool.and_true, Bool.eq_iff_iff, decide_eq_true_iff, decide_eq_true_iff]
        omega
    rw [Tree.session_sweep hnode, Tree.session_sweep hnode, List.filter_congr hwaiting, h.session]
  · by_cases hreaches : ReflTransGen tree.Below leaf id
    · rw [hnext.shadow leaf id hleaf hreaches hself, hnext'.shadow leaf id hleaf hreaches hself']
    · rw [Context.isDecidedAt, Context.isDecidedAt, hrooted.counter_sweep_of_not_reaches hreaches,
        hrooted.counter_sweep_of_not_reaches hreaches]
      exact h.leaves leaf hleaf
  · by_cases hreaches : ReflTransGen tree.Below node id
    · rcases reflTransGen_iff_eq_or_transGen.mp hreaches with rfl | habove
      · rw [hrooted.counter_sweep hid hsize value .refl, if_pos (.inl rfl),
          hrooted.counter_sweep hid hsize' value .refl, if_pos (.inl rfl)]
      · rw [hopen id habove] at hself
        exact absurd hself Bool.false_ne_true
    · rw [hrooted.counter_sweep_of_not_reaches hreaches,
        hrooted.counter_sweep_of_not_reaches hreaches]
      refine h.live node fun ancestor habove => ?_
      have hstill := hopen ancestor habove
      rwa [Context.isDecidedAt, hrooted.counter_sweep_of_not_reaches fun hancestor =>
        hreaches (habove.to_reflTransGen.trans hancestor)] at hstill

end Rooted

/-- Counting an operator down in both that stays undecided keeps them in agreement. -/
theorem setCounter {c : Connective} (hconnective : tree.connective? id = some c)
    (hid : id < tree.size) (hopen : 0 < context.counter id) {counter : Int} (hcounter : 0 < counter) :
    AgreeLive tree (context.setCounter id counter) (other.setCounter id counter) := by
  have hset := fun node => Context.counter_setCounter context id node counter
    (Nat.lt_of_lt_of_le hid h.shadowed.size)
  have hset' := fun node => Context.counter_setCounter other id node counter
    (Nat.lt_of_lt_of_le hid h.shadowed'.size)
  refine ⟨h.shadowed.setCounter hconnective hcounter, h.shadowed'.setCounter hconnective hcounter,
    h.session, fun leaf hleaf => ?_, fun node hstill => ?_⟩
  · rw [Context.isDecidedAt, Context.isDecidedAt, hset, hset']
    split
    · rfl
    · exact h.leaves leaf hleaf
  · rw [hset, hset']
    split
    · rfl
    · refine h.live node fun ancestor habove => ?_
      have hancestor := hstill ancestor habove
      rw [Context.isDecidedAt_eq_false_iff, hset] at hancestor
      rw [Context.isDecidedAt_eq_false_iff]
      split at hancestor
      · rename_i heq
        exact heq ▸ hopen
      · exact hancestor

/-- Suspending a leaf in both keeps them in agreement. -/
theorem suspendLeaf (hleaf : (tree.leaf? leaf).isSome = true) (suspend : Nat → σ → σ) :
    AgreeLive tree (tree.suspendLeaf suspend context leaf) (tree.suspendLeaf suspend other leaf) := by
  rw [Tree.suspendLeaf, Tree.suspendLeaf, if_pos hleaf, if_pos hleaf]
  exact ⟨h.shadowed.of_counters rfl, h.shadowed'.of_counters rfl, congrArg (suspend leaf) h.session,
    h.leaves, h.live⟩

include hrooted

/-- A climb past undecided operators answers the same in both, and keeps them in agreement. -/
theorem climb {child : Nat} {above : List Nat} (hchild : child < tree.size)
    (hlineage : tree.Lineage child above)
    (hopen : ∀ ancestor ∈ above, context.isDecidedAt ancestor = false) (suspend : Nat → σ → σ)
    (value : Bool) :
    (tree.climb suspend value child above context).2
        = (tree.climb suspend value child above other).2 ∧
      AgreeLive tree (tree.climb suspend value child above context).1
        (tree.climb suspend value child above other).1 := by
  induction above generalizing child context other with
  | nil => exact ⟨rfl, h⟩
  | cons id above ih =>
    have hroot : context.isDecided = false :=
      hopen 0 (Tree.Lineage.root_mem hlineage (List.cons_ne_nil _ _))
    obtain ⟨hbelow, hlineage⟩ := hlineage
    obtain ⟨c, hconnective⟩ := hrooted.operators _ _ hbelow
    have hid : id < tree.size := Nat.lt_trans (hrooted.parents _ _ hbelow) hchild
    have hself := hopen id List.mem_cons_self
    have hpos := Context.isDecidedAt_eq_false_iff.mp hself
    have hsame : context.counter id = other.counter id := h.live id fun ancestor habove =>
      hopen ancestor (List.mem_cons_of_mem _ (hrooted.mem_of_above hlineage habove))
    have hself' : other.isDecidedAt id = false := by
      rw [← hself, Context.isDecidedAt, Context.isDecidedAt, hsame]
    have hroot' : other.isDecided = false := by rw [← hroot, h.isDecided_eq hrooted]
    rw [Tree.climb_cons_of_open hconnective hself hroot,
      Tree.climb_cons_of_open hconnective hself' hroot', ← hsame]
    split
    · refine ih (h.sweep hrooted suspend hid value) hid hlineage fun ancestor hmem => ?_
      -- The operators further up are as they were.
      have hout := hrooted.not_reaches_of_above (hlineage.above_of_mem hmem)
      rw [Context.isDecidedAt, hrooted.counter_sweep_of_not_reaches hout]
      exact hopen ancestor (List.mem_cons_of_mem _ hmem)
    · rename_i hstays
      have hcounter : 0 < context.counter id - 1 := by omega
      have hmid := h.setCounter hconnective hid hpos hcounter
      exact ⟨rfl, hmid.sweep hrooted suspend hchild value⟩

/-- A report of an undecided leaf answers the same in both, and keeps them in agreement. -/
theorem report (hleaf : (tree.leaf? leaf).isSome = true)
    (hopen : context.isDecidedAt leaf = false) (suspend : Nat → σ → σ) (result : Bool) :
    (tree.report suspend leaf result context).2 = (tree.report suspend leaf result other).2 ∧
      AgreeLive tree (tree.report suspend leaf result context).1
        (tree.report suspend leaf result other).1 := by
  obtain ⟨found, hfound⟩ := Option.isSome_iff_exists.mp hleaf
  obtain ⟨node, hnode, hkind⟩ := Option.bind_eq_some_iff.mp hfound
  have hid := Tree.lt_size_of_leaf? hfound
  have hlineage := hrooted.lineage leaf node hnode
  have hroot : context.isDecided = false := h.shadowed.open_root hrooted hleaf hopen
  have hroot' : other.isDecided = false := by rw [← hroot, h.isDecided_eq hrooted]
  have hmark := h.mark hrooted hleaf (result != found.negated)
  rw [hrooted.report_leaf hnode hkind hroot, hrooted.report_leaf hnode hkind hroot']
  split
  · exact ⟨rfl, hmark.suspendLeaf hleaf suspend⟩
  · refine hmark.climb hrooted hid hlineage (fun ancestor hmem => ?_) suspend _
    have habove := hlineage.above_of_mem hmem
    rw [Context.isDecidedAt_mark_of_ne context (Nat.ne_of_lt (hrooted.lt_of_above habove))]
    exact h.shadowed.open_above hleaf hopen habove.to_reflTransGen

/-- Reports that are fresh in one are fresh in the other, and answer the same. -/
theorem answers {reports : List (Nat × Bool)} (hfresh : tree.Fresh suspend reports context) :
    tree.Fresh suspend reports other ∧
      tree.answers suspend reports context = tree.answers suspend reports other := by
  induction reports generalizing context other with
  | nil => exact ⟨trivial, rfl⟩
  | cons report reports ih =>
    obtain ⟨leaf, result⟩ := report
    obtain ⟨hleaf, hopen, hrest⟩ := hfresh
    obtain ⟨hanswer, hnext⟩ := h.report hrooted hleaf hopen suspend result
    obtain ⟨hfresh, hanswers⟩ := ih hnext hrest
    refine ⟨⟨hleaf, by rw [← h.leaves leaf hleaf, hopen], hfresh⟩, ?_⟩
    rw [Tree.answers, Tree.answers]
    dsimp only
    rw [hanswer, hnext.verdict_eq hrooted, hanswers]

end AgreeLive

/-- Confined damage leaves the evaluation in agreement with what it was. -/
theorem Confined.agreeLive {tree : Tree} {before after : Context σ} {leaf : Nat} {fault : Fault}
    (h : Confined tree leaf before after fault) (hrooted : tree.Rooted)
    (hbefore : Shadowed tree before) (hafter : Shadowed tree after)
    (hleaf : (tree.leaf? leaf).isSome = true) : AgreeLive tree before after := by
  cases h with
  | settled _ hsame =>
    subst hsame
    exact ⟨hbefore, hbefore, rfl, fun _ _ => rfl, fun _ _ => rfl⟩
  | @below operator _ habove hdecided hcounters hleaves hsession =>
    have hout : ¬ TransGen tree.Below operator operator :=
      fun hself => Nat.lt_irrefl _ (hrooted.lt_of_above hself)
    have hdecided' : after.isDecidedAt operator = true := by
      rw [Context.isDecidedAt, hcounters operator hout]
      exact hdecided
    refine ⟨hbefore, hafter, hsession.symm, fun other hother => ?_, fun id hopen => ?_⟩
    · by_cases hne : other = leaf
      · -- The reported leaf was in the shadow of the operator before.
        subst hne
        rw [hbefore.shadow other operator hleaf habove.to_reflTransGen hdecided,
          hafter.shadow other operator hleaf habove.to_reflTransGen hdecided']
      · rw [Context.isDecidedAt, Context.isDecidedAt, hleaves other hother hne]
    · refine (hcounters id fun hid => ?_).symm
      rw [hopen operator hid] at hdecided
      exact Bool.false_ne_true hdecided

/-- Whatever leaves were reported before, in whatever order and how often, a report of a leaf that
faults does confined damage: reports of undecided leaves that follow can be made as if it had not been
made, and answer the same. -/
theorem damage_confined {resolve : String → Option Path} {tree : Tree} {e : Expr}
    {suspend : Nat → σ → σ} (hcompile : e.compile resolve = .ok tree) {session : σ}
    {reports : List (Nat × Bool)} {leaf : Nat} {result : Bool} {fault : Fault}
    (hleaf : (tree.leaf? leaf).isSome = true)
    (hfault : (tree.report suspend leaf result
      (tree.reportAll suspend reports (.new tree session))).2 = .error fault) :
    let before := tree.reportAll suspend reports (.new tree session)
    let after := (tree.report suspend leaf result before).1
    Confined tree leaf before after fault ∧
      ∀ later, (tree.Fresh suspend later after ↔ tree.Fresh suspend later before) ∧
        (tree.Fresh suspend later before →
          tree.answers suspend later after = tree.answers suspend later before) := by
  intro before after
  have hrooted := Expr.rooted_of_compile hcompile
  have hbefore : Shadowed tree before := (Shadowed.new hcompile session).reportAll hrooted suspend _
  have hafter : Shadowed tree after := hbefore.report hrooted suspend leaf result
  have hconfined : Confined tree leaf before after fault := hbefore.confined hrooted hleaf hfault
  have hagree := hconfined.agreeLive hrooted hbefore hafter hleaf
  refine ⟨hconfined, fun later => ⟨⟨fun hfresh => ?_, fun hfresh => ?_⟩, fun hfresh => ?_⟩⟩
  · exact ((hagree.symm hrooted).answers hrooted hfresh).1
  · exact (hagree.answers hrooted hfresh).1
  · exact (hagree.answers hrooted hfresh).2.symm

/-- After the conjunction has failed, a leaf below it is reported again: the disjunction in between is
counted down and swept before the conjunction refuses it. The last leaf can be reported all the
same. -/
theorem damage_confined_shadowed :
    let before := shadowedTree.reportAll List.cons [(5, false)] (.new shadowedTree [])
    let after := (shadowedTree.report List.cons 3 true before).1
    shadowedFilter.compile (fun _ => some ⟨[0], false⟩) = .ok shadowedTree ∧
      (shadowedTree.leaf? 3).isSome = true ∧
      (shadowedTree.report List.cons 3 true before).2 = .error (.alreadyDecided 1) ∧
      before.counters = #[1, -1, 2, -1, -1, -1, 1] ∧ after.counters = #[1, -1, 0, 0, -1, -1, 1] ∧
      Confined shadowedTree 3 before after (.alreadyDecided 1) ∧
      shadowedTree.Fresh List.cons [(6, false)] after ∧
      shadowedTree.answers List.cons [(6, false)] after
        = shadowedTree.answers List.cons [(6, false)] before := by
  intro before after
  have hcompile : shadowedFilter.compile (fun _ => some ⟨[0], false⟩) = .ok shadowedTree := rfl
  have hfault : (shadowedTree.report List.cons 3 true before).2 = .error (.alreadyDecided 1) := by
    decide +kernel
  have hdamage := damage_confined hcompile (show (shadowedTree.leaf? 3).isSome = true from rfl) hfault
  have hfresh : shadowedTree.Fresh List.cons [(6, false)] before :=
    ⟨rfl, by decide +kernel, trivial⟩
  obtain ⟨hconfined, hlater⟩ := hdamage
  obtain ⟨hiff, hanswers⟩ := hlater [(6, false)]
  exact ⟨hcompile, rfl, hfault, by decide +kernel, by decide +kernel, hconfined, hiff.mpr hfresh,
    hanswers hfresh⟩

end Percolator
