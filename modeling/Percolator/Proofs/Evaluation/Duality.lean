import Percolator.Proofs.Evaluation.Alike
import Percolator.Proofs.Evaluation.Run
import Percolator.Proofs.Tree.Preorder
import Percolator.Recorder
import Percolator.Workspace.Basic

/-!
# Conjunctions and disjunctions are dual

Exchanging the two operators everywhere in a filter exchanges truth and falsehood of what comes out
of it. Main statement: in any run of reports, orderly or not, the dual of a filter answers the turned
results with the turned verdicts, faults where the filter faults, and suspends the same leaves in the
same order; of the counters only those of decided nodes differ, which are turned as well.
-/

namespace Percolator

/-- The counter of a node that is decided the other way round. The counter of an undecided node
stays. -/
def dualCounter (counter : Int) : Int :=
  if counter = 0 then -1 else if counter = -1 then 0 else counter

/-- The dual of a decided node is decided the other way round. -/
theorem dualCounter_decidedCounter (value : Bool) :
    dualCounter (decidedCounter value) = decidedCounter (!value) := by
  cases value <;> rfl

/-- The counter of an undecided node stays. -/
theorem dualCounter_of_pos {counter : Int} (h : 0 < counter) : dualCounter counter = counter := by
  rw [dualCounter, if_neg (by omega), if_neg (by omega)]

/-- The dual of a node is decided if the node is. -/
theorem dualCounter_nonpos_iff {counter : Int} : dualCounter counter ≤ 0 ↔ counter ≤ 0 := by
  unfold dualCounter
  split
  · omega
  · split <;> omega

/-- A counter is one exactly if its dual is. -/
theorem dualCounter_eq_one_iff {counter : Int} : dualCounter counter = 1 ↔ counter = 1 := by
  unfold dualCounter
  split
  · omega
  · split <;> omega

/-- What the value of an operand does that decides an operator at once, the turned one does to the
dual operator. -/
theorem Connective.absorbing_dual (c : Connective) : c.dual.absorbing = !c.absorbing := by
  cases c <;> rfl

/-- A node with the other operator, if it is one. -/
def Node.dual (node : Node) : Node :=
  { node with
    kind := match node.kind with
      | .join connective arity => .join connective.dual arity
      | .leaf leaf => .leaf leaf }

/-- A tree with every operator exchanged for the other one. -/
def Tree.dual : Tree → Tree
  | .constant value => .constant value
  | .arena nodes => .arena (nodes.map Node.dual)

/-- An evaluation in which every decided node is decided the other way round. -/
def Context.dual {σ : Type} (context : Context σ) : Context σ :=
  { context with counters := context.counters.map dualCounter }

/-- The answer with the other verdict. A fault stays. -/
def dualAnswer (answer : Except Fault (Option Bool)) : Except Fault (Option Bool) :=
  answer.map (Option.map not)

/-- The report with the other verdict into the dual evaluation. -/
def Reported.dual {σ : Type} (reported : Reported σ) : Reported σ :=
  (reported.1.dual, dualAnswer reported.2)

/-- The reports with the other results. -/
def dualReports (reports : List (Nat × Bool)) : List (Nat × Bool) :=
  reports.map fun report => (report.1, !report.2)

namespace Context

variable {σ : Type} (context : Context σ)

/-- The counters of the dual of an evaluation. -/
theorem counter_dual {id : Nat} (h : id < context.counters.size) :
    context.dual.counter id = dualCounter (context.counter id) := by
  simp [dual, counter, h]

/-- Only nodes of an evaluation have counters other than zero. -/
theorem counter_of_size_le {id : Nat} (h : context.counters.size ≤ id) : context.counter id = 0 := by
  rw [counter, Array.getElem?_eq_none h, Option.getD_none]

/-- The dual evaluation has as many counters. -/
@[simp] theorem size_dual : context.dual.counters.size = context.counters.size := by
  simp [dual]

/-- A node is decided in the dual evaluation when it is decided in this one. -/
@[simp] theorem isDecidedAt_dual (id : Nat) :
    context.dual.isDecidedAt id = context.isDecidedAt id := by
  rw [Bool.eq_iff_iff, isDecidedAt_iff, isDecidedAt_iff]
  rcases Nat.lt_or_ge id context.counters.size with hid | hid
  · rw [counter_dual context hid, dualCounter_nonpos_iff]
  · rw [counter_of_size_le _ (by simpa using hid), counter_of_size_le _ hid]

/-- So is the whole. -/
@[simp] theorem isDecided_dual : context.dual.isDecided = context.isDecided :=
  isDecidedAt_dual context 0

/-- A node waits in the dual of an evaluation exactly if it does in the evaluation. -/
theorem counter_dual_eq_one_iff {id : Nat} :
    context.dual.counter id = 1 ↔ context.counter id = 1 := by
  rcases Nat.lt_or_ge id context.counters.size with hid | hid
  · rw [counter_dual context hid, dualCounter_eq_one_iff]
  · rw [counter_of_size_le _ (by simpa using hid), counter_of_size_le _ hid]

/-- Setting a counter and then turning the evaluation is turning it before. -/
theorem dual_setCounter (id : Nat) (counter : Int) :
    (context.setCounter id counter).dual = context.dual.setCounter id (dualCounter counter) := by
  simp [dual, setCounter, Array.map_setIfInBounds]

/-- A node marked in an evaluation is marked the other way round in its dual. -/
theorem dual_mark (id : Nat) (value : Bool) :
    (context.mark id value).dual = context.dual.mark id (!value) := by
  rw [mark, dual_setCounter, dualCounter_decidedCounter, mark]

end Context

namespace Tree

variable {σ : Type} (tree : Tree) (suspend : Nat → σ → σ)

/-- The nodes of the dual tree are the dual nodes. -/
theorem getElem?_nodes_dual (id : Nat) : tree.dual.nodes[id]? = tree.nodes[id]?.map Node.dual := by
  cases tree with
  | constant value => rfl
  | arena nodes => exact Array.getElem?_map

/-- The dual tree has as many nodes. -/
@[simp] theorem size_nodes_dual : tree.dual.size = tree.size := by
  cases tree with
  | constant value => rfl
  | arena nodes => exact Array.size_map

/-- Leaves are the same in the dual tree. -/
@[simp] theorem leaf?_dual (id : Nat) : tree.dual.leaf? id = tree.leaf? id := by
  rw [leaf?, getElem?_nodes_dual, leaf?]
  cases tree.nodes[id]? with
  | none => rfl
  | some node => obtain ⟨_, _, _, _ | _⟩ := node <;> rfl

/-- Operators have the dual connective. -/
theorem connective?_dual (id : Nat) :
    tree.dual.connective? id = (tree.connective? id).map Connective.dual := by
  rw [connective?, getElem?_nodes_dual, connective?]
  cases tree.nodes[id]? with
  | none => rfl
  | some node => obtain ⟨_, _, _, _ | _⟩ := node <;> rfl

/-- The dual of a tree is forced to the other value as the tree is. -/
theorem force_dual (value : Bool) (context : Context σ) (id : Nat) :
    tree.dual.force suspend (!value) context.dual id = (tree.force suspend value context id).dual := by
  unfold force suspendLeaf
  simp only [Context.counter_dual_eq_one_iff, leaf?_dual, ← Context.dual_mark]
  split
  · split <;> rfl
  · rfl

/-- Forcing a row of nodes to the other value is dual to forcing it. -/
theorem foldl_force_dual (value : Bool) (ids : List Nat) (context : Context σ) :
    ids.foldl (tree.dual.force suspend (!value)) context.dual
      = (ids.foldl (tree.force suspend value) context).dual := by
  induction ids generalizing context with
  | nil => rfl
  | cons id ids ih => rw [List.foldl_cons, force_dual, ih, List.foldl_cons]

/-- The dual of a tree is swept with the other value as the tree is. -/
theorem sweep_dual (id : Nat) (value : Bool) (context : Context σ) :
    tree.dual.sweep suspend id (!value) context.dual
      = (tree.sweep suspend id value context).dual := by
  unfold sweep
  rw [getElem?_nodes_dual]
  cases tree.nodes[id]? with
  | none => rfl
  | some node =>
    dsimp only [Option.map_some]
    rw [Context.dual_mark, ← foldl_force_dual]
    rfl

variable {tree}

/-- An operator takes a value of the dual as its dual takes the value. -/
theorem climb_dual {child : Nat} {above : List Nat} (h : ∀ id ∈ above, id < tree.size)
    (value : Bool) (context : Context σ) :
    tree.dual.climb suspend (!value) child above context.dual
      = (tree.climb suspend value child above context).dual := by
  induction above generalizing child context with
  | nil => rfl
  | cons id above ih =>
    obtain ⟨hid, habove⟩ := List.forall_mem_cons.mp h
    rw [climb, climb, Context.isDecidedAt_dual, Context.isDecided_dual, connective?_dual]
    split
    · rfl
    · rename_i hopen
      rw [Bool.not_eq_true, Bool.or_eq_false_iff, Context.isDecidedAt_eq_false_iff] at hopen
      have hsize := Context.lt_size_of_counter_pos hopen.1
      have hsame : context.dual.counter id = context.counter id := by
        rw [Context.counter_dual context hsize, dualCounter_of_pos hopen.1]
      have habsorbs : ((tree.connective? id).map Connective.dual).any (·.absorbing = !value)
          = (tree.connective? id).any (·.absorbing = value) := by
        cases tree.connective? id with
        | none => rfl
        | some c => simp [Connective.absorbing_dual]
      rw [habsorbs, hsame]
      split
      · rw [sweep_dual, ih habove]
      · dsimp only
        rw [Context.counter_setCounter _ _ _ _ (by simpa using hsize), if_pos rfl,
          Context.counter_setCounter _ _ _ _ hsize, if_pos rfl]
        by_cases hlast : context.counter id - 1 = 0
        · -- What was counted down is overwritten by the sweep.
          have hsweep : tree.dual.sweep suspend id (!value) (context.dual.setCounter id 0)
              = (tree.sweep suspend id value (context.setCounter id 0)).dual := by
            rw [sweep_setCounter (by simpa using hid) (!value) context.dual
              (show (0 : Int) ≠ 1 by decide) (show dualCounter 0 ≠ 1 by decide),
              ← Context.dual_setCounter, sweep_dual]
          rw [if_pos hlast, if_pos hlast, hlast, hsweep, ih habove]
        · have hpos : 0 < context.counter id - 1 := by omega
          rw [if_neg hlast, if_neg hlast, ← dualCounter_of_pos hpos, ← Context.dual_setCounter,
            sweep_dual, dualCounter_of_pos hpos]
          rfl

/-- A leaf of the dual of a tree takes the other result as the leaf of the tree does. -/
theorem reportLeaf_dual {node : Node} (h : ∀ id ∈ node.above, id < tree.size) (leaf : Leaf)
    (result : Bool) (context : Context σ) :
    tree.dual.reportLeaf suspend node leaf (!result) context.dual
      = (tree.reportLeaf suspend node leaf result context).dual := by
  obtain ⟨above, start, stop, kind⟩ := node
  unfold reportLeaf
  rw [Context.isDecided_dual]
  split
  · rfl
  · have hvalue : ((!result) != leaf.negated) = !(result != leaf.negated) := by
      cases result <;> cases leaf.negated <;> rfl
    dsimp only
    rw [hvalue, ← Context.dual_mark]
    cases above with
    | nil =>
      dsimp only
      unfold suspendLeaf
      rw [leaf?_dual]
      split <;> rfl
    | cons parent above => exact climb_dual suspend h _ _

/-- So does a report at any node. -/
theorem report_dual (h : tree.Connected) (id : Nat) (result : Bool) (context : Context σ) :
    tree.dual.report suspend id (!result) context.dual
      = (tree.report suspend id result context).dual := by
  unfold report
  rw [getElem?_nodes_dual, size_nodes_dual]
  cases hnode : tree.nodes[id]? with
  | none => rfl
  | some node =>
    obtain ⟨above, start, stop, _ | leaf⟩ := node
    · rfl
    · dsimp only [Option.map_some, Node.dual]
      split
      · exact reportLeaf_dual suspend (h id _ hnode).lt_size leaf result context
      · rfl

/-- The dual of a tree takes the other reports as the tree takes the reports. -/
theorem reportAll_dual (h : tree.Connected) (reports : List (Nat × Bool)) (context : Context σ) :
    tree.dual.reportAll suspend (dualReports reports) context.dual
      = (tree.reportAll suspend reports context).dual := by
  induction reports generalizing context with
  | nil => rfl
  | cons report reports ih =>
    rw [dualReports, List.map_cons, reportAll, report_dual suspend h, reportAll]
    exact ih _

end Tree

/-- Reports into evaluations that are alike leave them alike. -/
theorem Alike.reportAll {σ τ : Type} {R : σ → τ → Prop} {context : Context σ} {other : Context τ}
    (h : Alike R context other) {tree : Tree} {suspend : Nat → σ → σ} {suspend' : Nat → τ → τ}
    (hs : tree.SuspendsAlike R suspend suspend') (reports : List (Nat × Bool)) :
    Alike R (tree.reportAll suspend reports context) (tree.reportAll suspend' reports other) := by
  induction reports generalizing context other with
  | nil => exact h
  | cons report reports ih => exact ih (h.report hs report.1 report.2).context

namespace Expr

open Percolator.Tree

variable {resolve : String → Option Path} {e : Expr} {tree : Tree}

/-- There are as many operands after exchanging operators. -/
theorem length_dualAll (es : List Expr) : (dualAll es).length = es.length := by
  induction es with
  | nil => rfl
  | cons e es ih => rw [dualAll, List.length_cons, ih, List.length_cons]

mutual

/-- The dual of a filter is laid out as the filter is, with the dual nodes. -/
theorem layout_dual {above : List Nat} {start : Nat} : (e : Expr) → {nodes : List Node} →
    e.layout resolve above start = .ok nodes →
    e.dual.layout resolve above start = .ok (nodes.map Node.dual)
  | constant _, _, h => by simp [layout] at h
  | test _ _, _, h => by
    rw [layout] at h
    obtain ⟨leaf, _, rfl⟩ := layoutLeaf_eq_ok h
    exact h
  | not (test _ _), _, h => by
    rw [layout] at h
    obtain ⟨leaf, _, rfl⟩ := layoutLeaf_eq_ok h
    exact h
  | not (constant _), _, h => by simp [layout] at h
  | not (not _), _, h => by simp [layout] at h
  | not (join _ _), _, h => by simp [layout] at h
  | join c es, _, h => by
    rw [layout] at h
    split at h
    · simp at h
    · rename_i hes
      split at h
      · simp at h
      · rename_i below hbelow
        simp only [Except.ok.injEq] at h
        subst h
        have hempty : ¬ (dualAll es).isEmpty = true := by
          rw [List.isEmpty_iff, ← List.length_eq_zero_iff, length_dualAll, List.length_eq_zero_iff,
            ← List.isEmpty_iff]
          exact hes
        rw [dual, layout, if_neg hempty, layoutAll_dual es hbelow]
        simp [Node.dual, length_dualAll]

/-- The duals of operands are laid out as the operands are. -/
theorem layoutAll_dual {above : List Nat} {start : Nat} : (es : List Expr) → {nodes : List Node} →
    layoutAll resolve above start es = .ok nodes →
    layoutAll resolve above start (dualAll es) = .ok (nodes.map Node.dual)
  | [], _, h => by
    simp only [layoutAll, Except.ok.injEq] at h
    subst h
    rfl
  | e :: es, _, h => by
    rw [layoutAll] at h
    split at h
    · simp at h
    · rename_i nodes hnodes
      split at h
      · simp at h
      · rename_i more hmore
        simp only [Except.ok.injEq] at h
        subst h
        rw [dualAll, layoutAll, layout_dual e hnodes]
        dsimp only
        rw [List.length_map, layoutAll_dual es hmore, List.map_append]

end

/-- The dual of a filter compiles to the dual tree. -/
theorem compile_dual (h : e.compile resolve = .ok tree) (hconstant : ∀ value, e ≠ constant value) :
    e.dual.compile resolve = .ok tree.dual := by
  have hdual : ∀ value, e.dual ≠ constant value := by
    intro value heq
    cases e <;> simp [dual] at heq
    exact hconstant _ rfl
  rw [compile_eq_map_layout hconstant] at h
  rw [compile_eq_map_layout hdual]
  cases hlayout : e.layout resolve [] 0 with
  | error error => simp [hlayout, Except.map] at h
  | ok nodes =>
    rw [hlayout] at h
    rw [layout_dual e hlayout, ← Except.ok.inj h]
    simp [Except.map, Tree.dual]

/-- Before any report every node of a laid out filter is undecided. -/
theorem Laid.initialCounter_pos {above : List Nat} {start : Nat}
    (h : Laid resolve tree above start e) {node : Node} (hnode : tree.nodes[start]? = some node) :
    0 < node.initialCounter := by
  cases h with
  | leaf _ hlaid =>
    rw [← Option.some.inj (hlaid.symm.trans hnode)]
    exact Int.zero_lt_one
  | join hes hlaid _ =>
    rw [← Option.some.inj (hlaid.symm.trans hnode)]
    exact Int.natCast_pos.mpr (List.length_pos_iff.mpr hes)

/-- The dual of a new evaluation of a filter that is no constant is a new one of the dual. -/
theorem new_dual (h : e.compile resolve = .ok tree) (hconstant : ∀ value, e ≠ constant value)
    {σ : Type} (session : σ) :
    Context.new tree.dual session = (Context.new tree session).dual := by
  rcases laid_of_compile h with ⟨value, he, _⟩ | ⟨hl, hsize, hinitial⟩
  · exact absurd he (hconstant value)
  · cases tree with
    | constant value =>
      have hpos := size_pos e
      rw [← hsize] at hpos
      exact absurd hpos (Nat.lt_irrefl 0)
    | arena nodes =>
      have hcounters : (nodes.map Node.dual).map Node.initialCounter
          = (nodes.map Node.initialCounter).map dualCounter := by
        rw [Array.map_map, Array.map_map]
        refine Array.map_congr_left fun node hmem => ?_
        obtain ⟨id, hid, hnode⟩ := Array.mem_iff_getElem.mp hmem
        obtain ⟨_, _, hpart⟩ := hl.exists_part ⟨Nat.zero_le id, hsize ▸ (Nat.zero_add _).symm ▸ hid⟩
        have hpos := hpart.initialCounter_pos (Array.getElem?_eq_some_iff.mpr ⟨hid, hnode⟩)
        rw [Function.comp_apply, Function.comp_apply, dualCounter_of_pos hpos]
        obtain ⟨_, _, _, _ | _⟩ := node <;> rfl
      exact congrArg (Context.mk · session) hcounters

variable {σ : Type} {suspend suspend' : Nat → σ → σ}

/-- The dual of a filter compiles to the dual tree. When the leaves of both are suspended alike, the
turned results lead to the turned counters and to the same session at every moment of a run, and the
next report is answered with the turned verdict or with the same fault. -/
theorem dual_run (hcompile : e.compile resolve = .ok tree)
    (hconstant : ∀ value, e ≠ constant value)
    (halike : ∀ id, (tree.leaf? id).isSome = true → suspend' id = suspend id) (session : σ)
    (reports : List (Nat × Bool)) :
    e.dual.compile resolve = .ok tree.dual ∧
    (tree.dual.reportAll suspend' (dualReports reports) (.new tree.dual session)).counters
      = (tree.reportAll suspend reports (.new tree session)).counters.map dualCounter ∧
    (tree.dual.reportAll suspend' (dualReports reports) (.new tree.dual session)).session
      = (tree.reportAll suspend reports (.new tree session)).session ∧
    ∀ id result, (tree.dual.report suspend' id (!result)
        (tree.dual.reportAll suspend' (dualReports reports) (.new tree.dual session))).2
      = dualAnswer (tree.report suspend id result
          (tree.reportAll suspend reports (.new tree session))).2 := by
  have hs : tree.dual.SuspendsAlike Eq suspend' suspend := by
    intro id hid session other hsame
    rw [leaf?_dual] at hid
    rw [halike id hid, hsame]
  have hconnected := connected_of_compile hcompile
  have hrun : Alike Eq
      (tree.dual.reportAll suspend' (dualReports reports) (.new tree.dual session))
      (tree.reportAll suspend reports (.new tree session)).dual := by
    rw [← reportAll_dual suspend hconnected, ← new_dual hcompile hconstant]
    exact Alike.reportAll ⟨rfl, rfl⟩ hs _
  refine ⟨compile_dual hcompile hconstant, hrun.counters, hrun.session, fun id result => ?_⟩
  rw [(hrun.report hs id (!result)).answer, report_dual suspend hconnected]
  rfl

end Expr

namespace Workspace

/-- The leaf that a recorder writes down when the subscription of a leaf is suspended. -/
def recordedAs? {φ : Type} (w : Workspace (Recorder φ) (List Nat)) (tree leaf : Nat) : Option Nat :=
  (w.handle? tree leaf).bind fun handle => (w.dispatcher? handle.dispatcher).bind fun recorder =>
    recorder.recordings[handle.key]?.map Recording.leaf

/-- Suspending a leaf that is subscribed to a recorder writes a leaf down at the end. -/
theorem suspend_eq_append {φ : Type} (w : Workspace (Recorder φ) (List Nat)) (tree leaf : Nat)
    (session : List Nat) : w.suspend tree leaf session
      = session ++ (w.recordedAs? tree leaf).toList := by
  unfold Workspace.suspend recordedAs?
  cases w.handle? tree leaf with
  | none => simp
  | some handle =>
    dsimp only [Option.bind_some]
    cases w.dispatcher? handle.dispatcher with
    | none => simp
    | some recorder =>
      dsimp only [Dispatcher.suspend, Option.bind_some]
      cases recorder.recordings[handle.key]? <;> simp

end Workspace

namespace Expr

open Percolator.Tree

/-- The trees of `nestedFilter` and of its dual, all leaves of both subscribed to one recorder. -/
def bothRecorded : Workspace (Recorder Nat) (List Nat) :=
  let w := (((Workspace.new .empty).plant nestedTree).1.plant nestedTree.dual).1
  ((w.subscribeAll 0 7 0 nestedTree.leafIds).1.subscribeAll 0 8 1 nestedTree.leafIds).1

/-- A failing leaf decides the conjunction in `nestedFilter`, as a leaf that holds decides the
disjunction in its dual. The other leaf there is suspended, and reporting it all the same faults at
the same node. -/
theorem dual_run_nested :
    nestedFilter.compile (fun _ => some ⟨[0], false⟩) = .ok nestedTree ∧
    (∀ id, (nestedTree.leaf? id).isSome = true →
      bothRecorded.suspend 1 id = bothRecorded.suspend 0 id) ∧
    (nestedTree.dual.reportAll (bothRecorded.suspend 1) (dualReports [(2, false)])
      (.new nestedTree.dual [])).session = [3] ∧
    (nestedTree.dual.report (bothRecorded.suspend 1) 3 (!true)
      (nestedTree.dual.reportAll (bothRecorded.suspend 1) (dualReports [(2, false)])
        (.new nestedTree.dual []))).2 = .error (.alreadyDecided 1) := by
  have hcompile : nestedFilter.compile (fun _ => some ⟨[0], false⟩) = .ok nestedTree := rfl
  have hconstant : ∀ value, nestedFilter ≠ .constant value := fun _ h => by cases h
  have hrecorded : ∀ id < 5, bothRecorded.recordedAs? 1 id = bothRecorded.recordedAs? 0 id := by
    decide +kernel
  have halike : ∀ id, (nestedTree.leaf? id).isSome = true →
      bothRecorded.suspend 1 id = bothRecorded.suspend 0 id := by
    intro id hid
    funext session
    rw [Workspace.suspend_eq_append, Workspace.suspend_eq_append,
      hrecorded id (lt_size_of_isLeaf hid)]
  obtain ⟨_, _, hsession, hanswer⟩ := dual_run hcompile hconstant halike [] [(2, false)]
  exact ⟨hcompile, halike, hsession.trans (by decide +kernel),
    (hanswer 3 true).trans (by decide +kernel)⟩

end Expr

end Percolator
