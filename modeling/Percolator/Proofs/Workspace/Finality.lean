import Percolator.Proofs.Evaluation.Finality
import Percolator.Proofs.Workspace.Suspension

/-!
# Verdicts are final

A workspace does not keep its user from reporting a leaf twice, a leaf of another tree, or anything
after the verdict, and it goes on after a fault. Main statement: whatever the steps, every counter of
an evaluation stays between minus one and its initial value; the root is only decided by a report or
by a value dispatched that answers the verdict; and until the evaluation is reset every later report
faults, every later value dispatched answers nothing, and neither changes the workspace at all.
-/

namespace Percolator

namespace PredicateIndex

variable {φ : Type} [BEq φ] {tree : Tree} {suspend : Nat → MatchSession → MatchSession}
  {context : Context MatchSession}

/-- A value dispatched into a decided evaluation answers nothing and changes nothing. -/
theorem dispatchTo_of_decided (h : context.isDecided = true) (index : PredicateIndex φ)
    (treeId : Nat) (tree : Tree) (suspend : Nat → MatchSession → MatchSession) (filter : φ)
    (value : Option Value) (keys : List Nat) :
    index.dispatchTo treeId tree suspend filter value keys context = (context, .ok none) := by
  cases keys with
  | nil => rfl
  | cons key keys => rw [dispatchTo, if_pos h]

/-- A value dispatched into a bounded evaluation keeps it bounded, whether it faults or not. -/
theorem bounded_dispatchTo (h : Bounded tree context) (index : PredicateIndex φ) (treeId : Nat)
    (suspend : Nat → MatchSession → MatchSession) (filter : φ) (value : Option Value)
    (keys : List Nat) :
    Bounded tree (index.dispatchTo treeId tree suspend filter value keys context).1 := by
  cases tree with
  | constant value =>
    rw [dispatchTo_of_decided h.isDecided_of_constant]
    exact h
  | arena nodes => exact (Bounded.invariant nodes suspend).dispatchTo index treeId filter value keys h

/-- A value dispatched into an undecided evaluation is answered candidly. -/
theorem candid_dispatchTo (hnumbered : tree.Numbered) (hconnected : tree.Connected)
    (h : Bounded tree context) (hopen : context.isDecided = false) (index : PredicateIndex φ)
    (treeId : Nat) (filter : φ) (value : Option Value) (keys : List Nat) :
    Candid (index.dispatchTo treeId tree suspend filter value keys context) := by
  have hnone : context.verdict = none := Context.verdict_eq_none_iff.mpr hopen
  induction keys generalizing context with
  | nil => exact hnone
  | cons key keys ih =>
    rw [dispatchTo, hopen, if_neg (by decide)]
    split
    · exact hnone
    · rename_i entry _
      split
      · exact ih h hopen hnone
      · split
        · exact hnone
        · split
          · exact hnone
          · rename_i leaf _
            dsimp only
            split
            · exact ih h hopen hnone
            · -- A report that settles nothing leaves the root undecided, so the rest is dispatched.
              have hcandid : Candid (tree.report suspend entry.leaf (leaf.predicate.accepts value)
                  context) := Tree.candid_report hnumbered hconnected (h.size_eq hopen) hopen _ _
              have hbounded := h.report suspend entry.leaf (leaf.predicate.accepts value)
              split
              · rename_i next hreport
                rw [hreport] at hcandid hbounded
                exact ih hbounded (Context.verdict_eq_none_iff.mp hcandid) hcandid
              · exact hcandid

end PredicateIndex

namespace Workspace

variable {φ : Type} {resolve : String → Option Path} {step : IndexStep φ}
  {earlier : List (Handle × φ)}
  {w : Workspace (PredicateIndex φ) MatchSession} {number treeId : Nat} {tree : Tree}
  {attempt : Attempt MatchSession}

/-- A report into a decided evaluation faults and leaves the workspace as it is. -/
theorem report_of_decided (hattempt : w.attempt? number = some attempt)
    (htree : w.tree? attempt.tree = some tree) (hdecided : attempt.context.isDecided = true)
    (leaf : Nat) (result : Bool) :
    ∃ fault, w.report number leaf result = (w, .error (.fault fault)) := by
  obtain ⟨fault, hreport⟩ := Tree.report_of_decided hdecided tree (w.suspend attempt.tree) leaf
    result
  refine ⟨fault, ?_⟩
  rw [report_eq hattempt htree, hreport, record]
  exact congrArg (·, _) (setAttempt_self hattempt)

/-- What a step with an answer keeps of the evaluation with a number, from one state to the next. -/
structure Keeps (tree : Tree) (number : Nat) (step : IndexStep φ) (answer : Except Failure Answer)
    (before after : Context MatchSession) : Prop where
  /-- The counters stay in bounds. -/
  bounded : Bounded tree after
  /-- A step that decides the root is about the evaluation and answers the verdict. -/
  answered : before.isDecided = false → ∀ value, after.verdict = some value →
    step.attempt? = some number ∧ answer = .ok (.verdict (some value))
  /-- The counters of a decided evaluation stay as they are until it is reset. -/
  final : before.isDecided = true → step ≠ .basic (.reset number) → after.counters = before.counters

/-- As long as the counters stay as they are, everything is kept. -/
theorem keeps_of_counters {before after : Context MatchSession} (h : Bounded tree before)
    (hcounters : after.counters = before.counters) (answer : Except Failure Answer) :
    Keeps tree number step answer before after := by
  refine ⟨h.of_counters hcounters, fun hopen value hvalue => ?_, fun _ _ => hcounters⟩
  have hstill : after.isDecided = false := (Context.isDecided_congr hcounters).trans hopen
  rw [Context.verdict_eq_none_iff.mpr hstill] at hvalue
  simp at hvalue

/-- Recording a report that is candid about an undecided evaluation, and leaves a decided one alone,
changes the state of the evaluation only and keeps everything. -/
theorem keeps_of_candid {reported : Reported MatchSession} (hstep : step.attempt? = some number)
    (hbounded : Bounded tree reported.1)
    (hopen : attempt.context.isDecided = false → Candid reported)
    (hdecided : attempt.context.isDecided = true → reported.1 = attempt.context) :
    ∃ context, (w.record number attempt reported).1 = w.setContext number attempt context ∧
      Keeps tree number step (w.record number attempt reported).2 attempt.context context := by
  refine ⟨reported.1, rfl, hbounded, fun hbefore value hvalue => ⟨hstep, ?_⟩, fun hbefore _ => ?_⟩
  · have hcandid := (hopen hbefore).symm.trans hvalue
    rw [record]
    cases hanswer : reported.2 with
    | error fault =>
      rw [hanswer] at hcandid
      simp [Except.toOption] at hcandid
    | ok verdict =>
      rw [hanswer] at hcandid
      obtain rfl : verdict = some value := hcandid
      rfl
  · rw [hdecided hbefore]

variable [BEq φ]

/-- What a step may do to the evaluation that it is about, and what it answers. -/
inductive Turn (w : Workspace (PredicateIndex φ) MatchSession) (number : Nat)
    (attempt : Attempt MatchSession) (tree : Tree) :
    IndexStep φ → Outcome (PredicateIndex φ) MatchSession → Prop
  | refused {step : IndexStep φ} (failure : Failure) :
      Turn w number attempt tree step (w, .error failure)
  | report {step : IndexStep φ} (leaf : Nat) (result : Bool) :
      Turn w number attempt tree step (w.record number attempt
        (tree.report (w.suspend attempt.tree) leaf result attempt.context))
  | dispatch {step : IndexStep φ} (index : PredicateIndex φ) (filter : φ) (path : Path)
      (value : Option Value) :
      Turn w number attempt tree step (w.record number attempt (index.dispatch attempt.tree tree
        (w.suspend attempt.tree) filter path value attempt.context))
  | session {step : IndexStep φ} (session : MatchSession) :
      Turn w number attempt tree step
        (w.setContext number attempt { attempt.context with session }, .ok .nothing)
  | reset : Turn w number attempt tree (.basic (.reset number))
      (w.setContext number attempt (attempt.context.reset tree), .ok .nothing)

section Turns

variable (hattempt : w.attempt? number = some attempt) (htree : w.tree? attempt.tree = some tree)

include hattempt htree

/-- Dispatching a value through an index that may not be there is a turn. -/
theorem turn_dispatch (filter : φ) (path : Path) (value : Option Value) (dispatcher : Nat) :
    Turn w number attempt tree step (w.dispatch number filter path value dispatcher) := by
  cases hindex : w.dispatcher? dispatcher with
  | none =>
    obtain ⟨planted, hplanted, rfl⟩ := Option.map_eq_some_iff.mp htree
    rw [dispatch, withAttempt, hattempt]
    dsimp only
    rw [withTree, hplanted]
    dsimp only
    rw [withDispatcher, hindex]
    exact .refused _
  | some index =>
    rw [dispatch_eq hattempt htree hindex]
    exact .dispatch index filter path value

/-- Reporting a leaf that may not be there is a turn. -/
theorem turn_reportLeaf (other leaf : Nat) (result : Bool) :
    Turn w number attempt tree step (w.reportLeaf number other leaf result) := by
  rw [reportLeaf, withAttempt, hattempt]
  unfold withLeaf withTree
  dsimp only
  split
  · exact .refused _
  · split
    · exact .refused _
    · split
      · rw [report_eq hattempt htree]
        exact .report leaf result
      · exact .refused _

/-- A step does one of these things to the evaluation that it is about. -/
theorem turn_indexStep (hstep : step.attempt? = some number) :
    Turn w number attempt tree step (w.indexStep resolve step) := by
  have hsession : ∀ change, Turn w number attempt tree step (w.changeSession number change) := by
    intro change
    rw [changeSession, withAttempt, hattempt]
    exact .session _
  cases step with
  | purge => simp [IndexStep.attempt?] at hstep
  | dispatch given filter path value dispatcher =>
    obtain rfl := Option.some.inj hstep
    cases path with
    | inl name =>
      rw [indexStep]
      split
      · exact .refused _
      · exact turn_dispatch hattempt htree filter _ value dispatcher
    | inr path => exact turn_dispatch hattempt htree filter path value dispatcher
  | suspendKey given key =>
    obtain rfl := Option.some.inj hstep
    exact hsession (·.suspend key)
  | basic step =>
    cases step with
    | report given leaf result =>
      obtain rfl := Option.some.inj hstep
      rw [indexStep, Workspace.step, report_eq hattempt htree]
      exact .report leaf result
    | reportLeaf given other leaf result =>
      obtain rfl := Option.some.inj hstep
      exact turn_reportLeaf hattempt htree other leaf result
    | suspendLeaf given other leaf =>
      obtain rfl := Option.some.inj hstep
      rw [indexStep, Workspace.step]
      unfold withLeaf withTree
      split
      · exact .refused _
      · dsimp only
        split
        · exact .refused _
        · exact hsession (w.suspend other leaf)
    | reset given =>
      obtain rfl := Option.some.inj hstep
      obtain ⟨planted, hplanted, rfl⟩ := Option.map_eq_some_iff.mp htree
      rw [indexStep, Workspace.step, withAttempt, hattempt]
      dsimp only
      rw [withTree, hplanted]
      exact .reset
    | clearSession given =>
      obtain rfl := Option.some.inj hstep
      exact hsession MatchSession.clear
    | _ => simp [IndexStep.attempt?] at hstep

end Turns

/-- A turn of an evaluation of a compiled tree changes its state only, and keeps what is to be kept. -/
theorem Turn.keeps {outcome : Outcome (PredicateIndex φ) MatchSession}
    (h : Turn w number attempt tree step outcome) (hstep : step.attempt? = some number)
    (hattempt : w.attempt? number = some attempt) (hnumbered : tree.Numbered)
    (hconnected : tree.Connected) (hbounded : Bounded tree attempt.context) :
    ∃ context, outcome.1 = w.setContext number attempt context ∧
      Keeps tree number step outcome.2 attempt.context context := by
  cases h with
  | refused failure =>
    exact ⟨attempt.context, (setAttempt_self hattempt).symm, keeps_of_counters hbounded rfl _⟩
  | report leaf result =>
    refine keeps_of_candid hstep (hbounded.report _ leaf result) (fun hopen => ?_)
      fun hdecided => ?_
    · exact Tree.candid_report hnumbered hconnected (hbounded.size_eq hopen) hopen leaf result
    · obtain ⟨fault, hreport⟩ := Tree.report_of_decided hdecided tree (w.suspend attempt.tree) leaf
        result
      rw [hreport]
  | dispatch index filter path value =>
    refine keeps_of_candid hstep (index.bounded_dispatchTo hbounded _ _ filter value _)
      (fun hopen => ?_) fun hdecided => ?_
    · exact index.candid_dispatchTo hnumbered hconnected hbounded hopen _ filter value _
    · rw [PredicateIndex.dispatch, PredicateIndex.dispatchTo_of_decided hdecided]
  | session session =>
    refine ⟨{ attempt.context with session }, rfl, keeps_of_counters hbounded ?_ _⟩
    rfl
  | reset =>
    refine ⟨_, rfl, (Bounded.new tree attempt.context.session).of_counters rfl,
      fun hopen value hvalue => ?_, fun _ hne => absurd rfl hne⟩
    rw [Context.verdict_eq_none_iff.mpr (hbounded.initial_undecided hopen)] at hvalue
    simp at hvalue

/-- The evaluation with a number has been started, and unless it was dropped since, it is one of a tree
that is there, with bounded counters. -/
structure Evaluates (w : Workspace (PredicateIndex φ) MatchSession) (number treeId : Nat)
    (tree : Tree) : Prop where
  started : number < w.attempts.size
  state : ∀ attempt, w.attempt? number = some attempt →
    attempt.tree = treeId ∧ w.tree? treeId = some tree ∧ Bounded tree attempt.context

namespace Evaluates

variable (h : Evaluates w number treeId tree) (hroomy : w.Roomy) (hnumbered : tree.Numbered)
  (hconnected : tree.Connected)

include h hroomy hnumbered hconnected

/-- An evaluation that is there after a step was there before, and the step keeps what is to be
kept. -/
theorem keeps (resolve : String → Option Path) {step : IndexStep φ} {found : Attempt MatchSession}
    (hfound : (w.indexStep resolve step).1.attempt? number = some found) :
    ∃ attempt, w.attempt? number = some attempt ∧ found.tree = attempt.tree ∧
      Keeps tree number step (w.indexStep resolve step).2 attempt.context found.context := by
  obtain ⟨attempt, hattempt, htree, hother⟩ :=
    attempt?_before_move hroomy (move_indexStep resolve w step) h.started hfound
  obtain ⟨rfl, hplanted, hbounded⟩ := h.state attempt hattempt
  refine ⟨attempt, hattempt, htree, ?_⟩
  by_cases hstep : step.attempt? = some number
  · obtain ⟨context, hnext, hkeeps⟩ := (turn_indexStep hattempt hplanted hstep).keeps hstep hattempt
      hnumbered hconnected hbounded
    rw [hnext] at hfound
    obtain rfl := Option.some.inj ((attempt?_setAttempt hattempt _).symm.trans hfound)
    exact hkeeps
  · rw [hother hstep]
    exact keeps_of_counters hbounded rfl _

/-- A step leads from evaluating a tree to evaluating it. -/
theorem indexStep (resolve : String → Option Path) (step : IndexStep φ) :
    Evaluates (w.indexStep resolve step).1 number treeId tree := by
  have hmove := move_indexStep resolve w step
  refine ⟨Nat.lt_of_lt_of_le h.started (size_attempts_le_of_move hroomy hmove),
    fun found hfound => ?_⟩
  obtain ⟨attempt, hattempt, htree, hkeeps⟩ := h.keeps hroomy hnumbered hconnected resolve hfound
  obtain ⟨hsame, hplanted, _⟩ := h.state attempt hattempt
  refine ⟨htree.trans hsame, ?_, hkeeps.bounded⟩
  rcases tree?_of_move hroomy hmove treeId with hkept | ⟨_, hdropped⟩ | ⟨_, _, _, _, hnone⟩
  · exact hkept.trans hplanted
  · exact absurd (htree.trans hsame) (hdropped number found hfound)
  · simp [hplanted] at hnone

end Evaluates

/-- Steps lead from evaluating a tree to evaluating it. An evaluation that is there after them was there
before, and kept its counters if it was decided and not reset. -/
theorem Evaluates.run (h : Evaluates w number treeId tree) (hsound : Sound w earlier)
    (hnumbered : tree.Numbered) (hconnected : tree.Connected) (resolve : String → Option Path)
    (steps : List (IndexStep φ)) :
    Evaluates (run resolve steps w) number treeId tree ∧
      ∀ found, (Workspace.run resolve steps w).attempt? number = some found →
        ∃ attempt, w.attempt? number = some attempt ∧
          (attempt.context.isDecided = true → (∀ step ∈ steps, step ≠ .basic (.reset number)) →
            found.context.counters = attempt.context.counters) := by
  induction steps generalizing w earlier with
  | nil => exact ⟨h, fun found hfound => ⟨found, hfound, fun _ _ => rfl⟩⟩
  | cons step steps ih =>
    obtain ⟨hlast, hlater⟩ := ih (h.indexStep hsound.roomy hnumbered hconnected resolve step)
      (hsound.indexStep resolve step)
    refine ⟨hlast, fun found hfound => ?_⟩
    obtain ⟨next, hnext, hsame⟩ := hlater found hfound
    obtain ⟨attempt, hattempt, _, hkeeps⟩ := h.keeps hsound.roomy hnumbered hconnected resolve hnext
    refine ⟨attempt, hattempt, fun hdecided hsteps => ?_⟩
    have hcounters := hkeeps.final hdecided (hsteps step List.mem_cons_self)
    have hstill : next.context.isDecided = true :=
      (Context.isDecided_congr hcounters).trans hdecided
    exact (hsame hstill fun other hother => hsteps other (List.mem_cons_of_mem _ hother)).trans
      hcounters

/-- Reports for the evaluation with a number fault, values dispatched for it answer nothing, and neither
changes anything. -/
structure Settled (resolve : String → Option Path) (w : Workspace (PredicateIndex φ) MatchSession)
    (number : Nat) : Prop where
  report : ∀ leaf result, ∃ fault, w.indexStep resolve (.basic (.report number leaf result))
    = (w, .error (.fault fault))
  /-- The leaf may be one of any tree. -/
  reportLeaf : ∀ other found leaf result, w.tree? other = some found →
    (found.leaf? leaf).isSome = true → ∃ fault,
      w.indexStep resolve (.basic (.reportLeaf number other leaf result))
        = (w, .error (.fault fault))
  /-- The index may be any that is there. -/
  dispatch : ∀ filter path value dispatcher index, w.dispatcher? dispatcher = some index →
    w.indexStep resolve (.dispatch number filter (.inr path) value dispatcher)
      = (w, .ok (.verdict none))

section Calls

variable (hattempt : w.attempt? number = some attempt) (htree : w.tree? attempt.tree = some tree)
  (hdecided : attempt.context.isDecided = true)

include hattempt htree hdecided

/-- Reports and dispatched values find a decided evaluation settled. -/
theorem settled_of_decided (resolve : String → Option Path) : Settled resolve w number := by
  constructor
  · exact fun leaf result => report_of_decided hattempt htree hdecided leaf result
  · intro other found leaf result hfound hleaf
    obtain ⟨planted, hplanted, rfl⟩ := Option.map_eq_some_iff.mp hfound
    obtain ⟨⟨_, held⟩, hnode⟩ := findLeaf_of_leaf? hleaf
    by_cases hown : attempt.tree = other
    · obtain ⟨fault, hreport⟩ := report_of_decided hattempt htree hdecided leaf result
      refine ⟨fault, Eq.trans ?_ hreport⟩
      rw [indexStep, step, reportLeaf, withAttempt, hattempt]
      dsimp only
      rw [withLeaf, withTree, hplanted]
      dsimp only
      rw [hnode]
      exact if_pos hown
    · refine ⟨.foreignReport held.id, ?_⟩
      rw [indexStep, step, reportLeaf, withAttempt, hattempt]
      dsimp only
      rw [withLeaf, withTree, hplanted]
      dsimp only
      rw [hnode]
      exact if_neg hown
  · intro filter path value dispatcher index hindex
    have hdispatch := dispatch_eq hattempt htree hindex filter path value
    rw [PredicateIndex.dispatch, PredicateIndex.dispatchTo_of_decided hdecided, record] at hdispatch
    exact hdispatch.trans (congrArg (·, _) (setAttempt_self hattempt))

end Calls

/-- All trees of a workspace were compiled. -/
def Compiled (resolve : String → Option Path) (w : Workspace (PredicateIndex φ) MatchSession) :
    Prop :=
  ∀ treeId tree, w.tree? treeId = some tree → ∃ e : Expr, e.compile resolve = .ok tree

/-- Steps lead from compiled trees to compiled trees. -/
theorem Compiled.run (h : Compiled resolve w) (hsound : Sound w earlier)
    (steps : List (IndexStep φ)) : Compiled resolve (run resolve steps w) := by
  induction steps generalizing w earlier with
  | nil => exact h
  | cons step steps ih =>
    have hnext : Compiled resolve (w.indexStep resolve step).1 := by
      intro treeId tree htree
      rcases tree?_of_move hsound.roomy (move_indexStep resolve w step) treeId with
        hkept | ⟨hdropped, _⟩ | ⟨e, compiled, hcompiled, hplanted, _⟩
      · exact h treeId tree (hkept.symm.trans htree)
      · simp [hdropped] at htree
      · obtain rfl := Option.some.inj (hplanted.symm.trans htree)
        exact ⟨e, hcompiled⟩
    exact ih hnext (hsound.indexStep resolve step)

/-- Whatever is done to the evaluation with a number, its counters stay in bounds, and its verdict is
answered when it is found and stays as it is. -/
structure Final (resolve : String → Option Path) (w : Workspace (PredicateIndex φ) MatchSession)
    (number : Nat) (tree : Tree) (attempt : Attempt MatchSession) : Prop where
  /-- Every counter lies between minus one and its initial value. -/
  bounded : Bounded tree attempt.context
  /-- The root becomes decided by a call that answers its value, and by nothing else. -/
  answered : attempt.context.isDecided = false → ∀ step found value,
    (w.indexStep resolve step).1.attempt? number = some found →
    found.context.verdict = some value →
    step.attempt? = some number ∧ (w.indexStep resolve step).2 = .ok (.verdict (some value))
  /-- Once the root is decided, no counter changes until the evaluation is reset, and no report or
  dispatched value changes anything. -/
  final : attempt.context.isDecided = true → ∀ steps : List (IndexStep φ),
    (∀ step ∈ steps, step ≠ .basic (.reset number)) →
    ∀ found, (run resolve steps w).attempt? number = some found →
    found.context.counters = attempt.context.counters ∧
      Settled resolve (run resolve steps w) number

/-- An evaluation of a compiled tree is final. -/
theorem Evaluates.final (h : Evaluates w number treeId tree) (hsound : Sound w earlier)
    (hnumbered : tree.Numbered) (hconnected : tree.Connected) (resolve : String → Option Path)
    (hattempt : w.attempt? number = some attempt) : Final resolve w number tree attempt := by
  refine ⟨(h.state attempt hattempt).2.2, fun hopen step found value hfound hvalue => ?_,
    fun hdecided steps hsteps found hfound => ?_⟩
  · obtain ⟨before, hbefore, _, hkeeps⟩ := h.keeps hsound.roomy hnumbered hconnected resolve hfound
    obtain rfl := Option.some.inj (hattempt.symm.trans hbefore)
    exact hkeeps.answered hopen value hvalue
  · obtain ⟨hlast, hlater⟩ := h.run hsound hnumbered hconnected resolve steps
    obtain ⟨before, hbefore, hsame⟩ := hlater found hfound
    obtain rfl := Option.some.inj (hattempt.symm.trans hbefore)
    have hcounters := hsame hdecided hsteps
    obtain ⟨htree, hplanted, _⟩ := hlast.state found hfound
    have hstill : found.context.isDecided = true :=
      (Context.isDecided_congr hcounters).trans hdecided
    exact ⟨hcounters, settled_of_decided hfound (htree ▸ hplanted) hstill resolve⟩

/-- Verdicts are final: whatever the steps before and after an evaluation was started, with any
session, it is final as long as its tree is there. -/
theorem verdict_final (resolve : String → Option Path) (before after : List (IndexStep φ))
    (htree : (run resolve before (.new .empty)).tree? treeId = some tree) (session : MatchSession)
    (hbegin : (run resolve before (.new .empty)).begin treeId tree session = (w, number))
    (hattempt : (run resolve after w).attempt? number = some attempt) :
    Final resolve (run resolve after w) number tree attempt := by
  have hsound := sound_new.run resolve before
  have hnone : Compiled resolve (.new (.empty : PredicateIndex φ)) := by
    intro treeId tree hfound
    simp [tree?, planted?, new] at hfound
  obtain ⟨e, hcompiled⟩ := hnone.run sound_new before treeId tree htree
  have hnumbered := Expr.numbered_of_compile hcompiled
  have hconnected := Expr.connected_of_compile hcompiled
  obtain ⟨rfl, rfl⟩ := Prod.mk.inj hbegin
  have hstart : Evaluates ((run resolve before (.new .empty)).begin treeId tree session).1
      (run resolve before (.new .empty)).attempts.size treeId tree := by
    refine ⟨?_, fun attempt hattempt => ?_⟩
    · rw [begin, Array.size_push]
      exact Nat.lt_succ_self _
    · rw [attempt?, begin, Array.getElem?_push, if_pos rfl] at hattempt
      rw [← Option.some.inj hattempt]
      exact ⟨rfl, htree, .new tree session⟩
  have hbegun := hsound.of_attempts
    ((run resolve before (.new .empty)).attempts.push (some ⟨treeId, .new tree session⟩))
  exact (hstart.run hbegun hnumbered hconnected resolve after).1.final (hbegun.run resolve after)
    hnumbered hconnected resolve hattempt

/-- A conjunction of a disjunction and a condition. -/
def guardedFilter : Expr :=
  .join .and [.join .or [.test "a" .isNull, .test "b" .isNull], .test "c" .isNull]

/-- The tree of `guardedFilter` when all attributes are the same one. -/
def guardedTree : Tree :=
  let leaf (id : Nat) : Leaf := ⟨id, .isNull, false, ⟨[0], false⟩⟩
  .arena #[⟨[], 0, 5, .join .and 2⟩, ⟨[0], 1, 4, .join .or 2⟩, ⟨[1, 0], 2, 3, .leaf (leaf 2)⟩,
    ⟨[1, 0], 3, 4, .leaf (leaf 3)⟩, ⟨[0], 4, 5, .leaf (leaf 4)⟩]

/-- The first leaf of the disjunction is reported twice, as if both of its leaves had failed. -/
def reportTwice : List (IndexStep Nat) :=
  [.basic (.subscribe 0 none 7 0), .basic (.report 0 2 false), .basic (.report 0 2 false)]

/-- A leaf that is reported twice settles a verdict too early, but that is final as well. -/
theorem verdict_final_twice :
    let resolve : String → Option Path := fun _ => some ⟨[0], false⟩
    let w := ((run resolve ([.basic (.compile guardedFilter)] : List (IndexStep Nat))
      (.new .empty)).begin 0 guardedTree .empty).1
    ∃ attempt, (run resolve reportTwice w).attempt? 0 = some attempt ∧
      attempt.context.counters = #[-1, -1, -1, -1, -1] ∧
      Final resolve (run resolve reportTwice w) 0 guardedTree attempt := by
  intro resolve w
  have hcounters : ((run resolve reportTwice w).attempt? 0).map (·.context.counters)
      = some #[-1, -1, -1, -1, -1] := by decide +kernel
  obtain ⟨attempt, hattempt, hlast⟩ := Option.map_eq_some_iff.mp hcounters
  exact ⟨attempt, hattempt, hlast,
    verdict_final resolve [.basic (.compile guardedFilter)] reportTwice rfl .empty rfl hattempt⟩

end Workspace

end Percolator
