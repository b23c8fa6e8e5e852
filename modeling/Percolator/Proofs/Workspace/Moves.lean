import Percolator.Proofs.Workspace.Views

/-!
# The moves of a workspace with indexes

A step looks up what it is about and is refused if that is not there. Main statement: whatever a step
does to a workspace is one of a few moves, which do not look anything up. What every move preserves,
every step preserves.
-/

namespace Percolator

/-- The leaves of a tree that a step is about: one leaf, or all of them. -/
def Planted.leavesOf (planted : Planted) (leaf : Option Nat) : List Nat :=
  leaf.elim planted.tree.leafIds ([·])

/-- The evaluation that a step changes, if it is about one. -/
def IndexStep.attempt? {φ : Type} : IndexStep φ → Option Nat
  | .basic (.report number _ _) => some number
  | .basic (.reportLeaf number _ _ _) => some number
  | .basic (.suspendLeaf number _ _) => some number
  | .basic (.reset number) => some number
  | .basic (.clearSession number) => some number
  | .dispatch number _ _ _ _ => some number
  | .suspendKey number _ => some number
  | _ => none

namespace Workspace

variable {φ : Type}

section Guards

variable {δ σ : Type} {P : Workspace δ σ → Prop} {w : Workspace δ σ}

/-- A step with a tree does what it does with the tree, or nothing. -/
theorem withTree_induct {tree : Nat} {f : Planted → Outcome δ σ} (h : P w)
    (hf : ∀ planted, w.planted? tree = some planted → P (f planted).1) :
    P (w.withTree tree f).1 := by
  unfold withTree
  split
  · exact h
  · exact hf _ ‹_›

/-- A step with a leaf does what it does with the leaf, or nothing. -/
theorem withLeaf_induct {tree leaf : Nat} {f : Node → Leaf → Outcome δ σ} (h : P w)
    (hf : ∀ planted node found, w.planted? tree = some planted → P (f node found).1) :
    P (w.withLeaf tree leaf f).1 := by
  refine withTree_induct h fun planted hplanted => ?_
  split
  · exact h
  · exact hf planted _ _ hplanted

/-- A step with an evaluation does what it does with the evaluation, or nothing. -/
theorem withAttempt_induct {number : Nat} {f : Attempt σ → Outcome δ σ} (h : P w)
    (hf : ∀ attempt, w.attempt? number = some attempt → P (f attempt).1) :
    P (w.withAttempt number f).1 := by
  unfold withAttempt
  split
  · exact h
  · exact hf _ ‹_›

/-- A step with a dispatcher does what it does with the dispatcher, or nothing. -/
theorem withDispatcher_induct {number : Nat} {f : δ → Outcome δ σ} (h : P w)
    (hf : ∀ dispatcher, w.dispatcher? number = some dispatcher → P (f dispatcher).1) :
    P (w.withDispatcher number f).1 := by
  unfold withDispatcher
  split
  · exact h
  · exact hf _ ‹_›

end Guards

/-- A leaf of a tree is found there. -/
theorem findLeaf_of_leaf? {planted : Planted} {id : Nat}
    (h : (planted.tree.leaf? id).isSome = true) : ∃ found, findLeaf planted id = .ok found := by
  obtain ⟨leaf, hleaf⟩ := Option.isSome_iff_exists.mp h
  obtain ⟨node, hnode, hkind⟩ := Option.bind_eq_some_iff.mp hleaf
  refine ⟨(node, leaf), ?_⟩
  rw [findLeaf, hnode]
  dsimp only
  rw [hkind]

/-- Reporting a leaf is reporting it in the tree that is evaluated. -/
theorem report_eq {w : Workspace (PredicateIndex φ) MatchSession} {number : Nat}
    {attempt : Attempt MatchSession} {tree : Tree} (hattempt : w.attempt? number = some attempt)
    (htree : w.tree? attempt.tree = some tree) (leaf : Nat) (result : Bool) :
    w.report number leaf result = w.record number attempt
      (tree.report (w.suspend attempt.tree) leaf result attempt.context) := by
  obtain ⟨planted, hplanted, rfl⟩ := Option.map_eq_some_iff.mp htree
  rw [report, withAttempt, hattempt]
  dsimp only
  rw [withTree, hplanted]

/-- Dispatching a value is dispatching it for the tree that is evaluated. -/
theorem dispatch_eq [BEq φ] {w : Workspace (PredicateIndex φ) MatchSession}
    {number dispatcher : Nat} {attempt : Attempt MatchSession} {tree : Tree}
    {index : PredicateIndex φ} (hattempt : w.attempt? number = some attempt)
    (htree : w.tree? attempt.tree = some tree) (hindex : w.dispatcher? dispatcher = some index)
    (filter : φ) (path : Path) (value : Option Value) :
    w.dispatch number filter path value dispatcher = w.record number attempt (index.dispatch
      attempt.tree tree (w.suspend attempt.tree) filter path value attempt.context) := by
  obtain ⟨planted, hplanted, rfl⟩ := Option.map_eq_some_iff.mp htree
  rw [dispatch, withAttempt, hattempt]
  dsimp only
  rw [withTree, hplanted]
  dsimp only
  rw [withDispatcher, hindex]

/-- Change the state of an evaluation. -/
def setContext (w : Workspace (PredicateIndex φ) MatchSession) (number : Nat)
    (attempt : Attempt MatchSession) (context : Context MatchSession) :
    Workspace (PredicateIndex φ) MatchSession :=
  w.setAttempt number { attempt with context }

/-- What a step may do to a workspace. -/
inductive Move [BEq φ] (resolve : String → Option Path)
    (w : Workspace (PredicateIndex φ) MatchSession) :
    IndexStep φ → Workspace (PredicateIndex φ) MatchSession → Prop
  /-- A step that is refused, or that only looks, changes nothing. -/
  | stay (step : IndexStep φ) : Move resolve w step w
  | plant {e : Expr} {tree : Tree} (htree : e.compile resolve = .ok tree) :
      Move resolve w (.basic (.compile e)) (w.plant tree).1
  | drop {tree : Nat} {planted : Planted} (hplanted : w.planted? tree = some planted) :
      Move resolve w (.basic (.drop tree)) (w.drop tree planted.tree.leafIds)
  | addIndex : Move resolve w (.basic .newDispatcher) (w.addDispatcher .empty).1
  | dropIndex (number : Nat) :
      Move resolve w (.basic (.dropDispatcher number)) (w.dropDispatcher number)
  | purge {number : Nat} {index : PredicateIndex φ} (hindex : w.dispatcher? number = some index) :
      Move resolve w (.purge number) (w.setDispatcher number index.purge)
  | subscribe {tree number : Nat} {filter : φ} {index : PredicateIndex φ} {planted : Planted}
      (leaf : Option Nat) (hindex : w.dispatcher? number = some index)
      (hplanted : w.planted? tree = some planted) :
      Move resolve w (.basic (.subscribe tree leaf filter number))
        (w.subscribeAll number filter tree (planted.leavesOf leaf)).1
  | unsubscribe {tree : Nat} {planted : Planted} (leaf : Option Nat)
      (hplanted : w.planted? tree = some planted) :
      Move resolve w (.basic (.unsubscribe tree leaf))
        (w.unsubscribeAll tree (planted.leavesOf leaf))
  | begin {tree : Nat} {number : Option Nat} {planted : Planted} {session : MatchSession}
      (hplanted : w.planted? tree = some planted)
      (hsession : ∀ key, session.isSuspended key = false) :
      Move resolve w (.basic (.begin tree number)) (w.begin tree planted.tree session).1
  | report (step : IndexStep φ) {number : Nat} {attempt : Attempt MatchSession} {planted : Planted}
      (leaf : Nat) (result : Bool) (hattempt : w.attempt? number = some attempt)
      (hplanted : w.planted? attempt.tree = some planted) (hstep : step.attempt? = some number) :
      Move resolve w step (w.setContext number attempt
        (planted.tree.report (w.suspend attempt.tree) leaf result attempt.context).1)
  | dispatch (step : IndexStep φ) {number dispatcher : Nat} {attempt : Attempt MatchSession}
      {planted : Planted} {index : PredicateIndex φ} (filter : φ) (path : Path)
      (value : Option Value) (hattempt : w.attempt? number = some attempt)
      (hplanted : w.planted? attempt.tree = some planted)
      (hindex : w.dispatcher? dispatcher = some index) (hstep : step.attempt? = some number) :
      Move resolve w step (w.setContext number attempt (index.dispatch attempt.tree planted.tree
        (w.suspend attempt.tree) filter path value attempt.context).1)
  | reset {number : Nat} {attempt : Attempt MatchSession} {planted : Planted}
      (hattempt : w.attempt? number = some attempt)
      (hplanted : w.planted? attempt.tree = some planted) :
      Move resolve w (.basic (.reset number))
        (w.setContext number attempt (attempt.context.reset planted.tree))
  | clearSession {number : Nat} {attempt : Attempt MatchSession}
      (hattempt : w.attempt? number = some attempt) :
      Move resolve w (.basic (.clearSession number)) (w.setContext number attempt
        { attempt.context with session := attempt.context.session.clear })
  | suspendLeaf {number : Nat} {attempt : Attempt MatchSession} (tree leaf : Nat)
      (hattempt : w.attempt? number = some attempt) :
      Move resolve w (.basic (.suspendLeaf number tree leaf)) (w.setContext number attempt
        { attempt.context with session := w.suspend tree leaf attempt.context.session })
  | suspendKey {number : Nat} {attempt : Attempt MatchSession} (key : Nat)
      (hattempt : w.attempt? number = some attempt) :
      Move resolve w (.suspendKey number key) (w.setContext number attempt
        { attempt.context with session := attempt.context.session.suspend key })

variable [BEq φ] (resolve : String → Option Path)
  (w : Workspace (PredicateIndex φ) MatchSession)

/-- A step that reports is a move. -/
theorem move_report {step : IndexStep φ} {number : Nat} (hstep : step.attempt? = some number)
    (leaf : Nat) (result : Bool) : Move resolve w step (w.report number leaf result).1 := by
  refine withAttempt_induct (P := Move resolve w step) (.stay _) fun attempt hattempt => ?_
  refine withTree_induct (P := Move resolve w step) (.stay _) fun planted hplanted => ?_
  exact .report _ leaf result hattempt hplanted hstep

/-- A step that dispatches a value is a move. -/
theorem move_dispatch {step : IndexStep φ} {number : Nat} (hstep : step.attempt? = some number)
    (filter : φ) (path : Path) (value : Option Value) (dispatcher : Nat) :
    Move resolve w step (w.dispatch number filter path value dispatcher).1 := by
  refine withAttempt_induct (P := Move resolve w step) (.stay _) fun attempt hattempt => ?_
  refine withTree_induct (P := Move resolve w step) (.stay _) fun planted hplanted => ?_
  refine withDispatcher_induct (P := Move resolve w step) (.stay _) fun index hindex => ?_
  exact .dispatch _ filter path value hattempt hplanted hindex hstep

/-- Every step is a move. -/
theorem move_indexStep (step : IndexStep φ) :
    Move resolve w step (w.indexStep resolve step).1 := by
  cases step with
  | purge number =>
    exact withDispatcher_induct (P := Move resolve w _) (.stay _) fun index hindex => .purge hindex
  | dispatch number filter path value dispatcher =>
    cases path with
    | inl name =>
      rw [indexStep]
      split
      · exact .stay _
      · exact move_dispatch resolve w rfl filter _ value dispatcher
    | inr path => exact move_dispatch resolve w rfl filter path value dispatcher
  | suspendKey number key =>
    exact withAttempt_induct (P := Move resolve w _) (.stay _) fun attempt hattempt =>
      .suspendKey key hattempt
  | basic step =>
    cases step with
    | compile e =>
      rw [indexStep, step]
      split
      · exact .stay _
      · exact .plant ‹_›
    | drop tree =>
      exact withTree_induct (P := Move resolve w _) (.stay _) fun planted hplanted =>
        .drop hplanted
    | newDispatcher => exact .addIndex
    | dropDispatcher number =>
      exact withDispatcher_induct (P := Move resolve w _) (.stay _) fun _ _ => .dropIndex number
    | subscribe tree leaf filter number =>
      refine withDispatcher_induct (P := Move resolve w _) (.stay _) fun index hindex => ?_
      refine withTree_induct (P := Move resolve w _) (.stay _) fun planted hplanted => ?_
      cases leaf with
      | none => exact .subscribe none hindex hplanted
      | some leaf =>
        have hone : Move resolve w (.basic (.subscribe tree (some leaf) filter number)) _ :=
          .subscribe (some leaf) hindex hplanted
        rw [Planted.leavesOf, Option.elim_some, subscribeAll_singleton] at hone
        dsimp only
        split
        · exact .stay _
        · exact hone
    | unsubscribe tree leaf =>
      cases leaf with
      | none =>
        exact withTree_induct (P := Move resolve w _) (.stay _) fun planted hplanted =>
          .unsubscribe none hplanted
      | some leaf =>
        exact withLeaf_induct (P := Move resolve w _) (.stay _) fun planted _ _ hplanted =>
          .unsubscribe (some leaf) hplanted
    | begin tree number =>
      cases number with
      | none =>
        exact withTree_induct (P := Move resolve w _) (.stay _) fun planted hplanted =>
          .begin hplanted MatchSession.isSuspended_empty
      | some number =>
        refine withTree_induct (P := Move resolve w _) (.stay _) fun planted hplanted => ?_
        exact withDispatcher_induct (P := Move resolve w _) (.stay _) fun index _ =>
          .begin hplanted (MatchSession.isSuspended_withCapacity _)
    | report number leaf result => exact move_report resolve w rfl leaf result
    | reportLeaf number tree leaf result =>
      refine withAttempt_induct (P := Move resolve w _) (.stay _) fun attempt _ => ?_
      refine withLeaf_induct (P := Move resolve w _) (.stay _) fun _ _ _ _ => ?_
      split
      · exact move_report resolve w rfl leaf result
      · exact .stay _
    | isDecided number tree leaf =>
      refine withAttempt_induct (P := Move resolve w _) (.stay _) fun attempt _ => ?_
      refine withLeaf_induct (P := Move resolve w _) (.stay _) fun _ _ _ _ => ?_
      dsimp only
      split <;> exact .stay _
    | suspendLeaf number tree leaf =>
      refine withLeaf_induct (P := Move resolve w _) (.stay _) fun _ _ _ _ => ?_
      exact withAttempt_induct (P := Move resolve w _) (.stay _) fun attempt hattempt =>
        .suspendLeaf tree leaf hattempt
    | reset number =>
      refine withAttempt_induct (P := Move resolve w _) (.stay _) fun attempt hattempt => ?_
      exact withTree_induct (P := Move resolve w _) (.stay _) fun planted hplanted =>
        .reset hattempt hplanted
    | clearSession number =>
      exact withAttempt_induct (P := Move resolve w _) (.stay _) fun attempt hattempt =>
        .clearSession hattempt

variable {resolve w} {step : IndexStep φ} {next : Workspace (PredicateIndex φ) MatchSession}

/-- A move leaves an evaluation alone that the step is not about, unless it drops the tree. -/
theorem attempt?_of_move (hroomy : w.Roomy) (hmove : Move resolve w step next) {number : Nat}
    {found : Attempt MatchSession} (h : w.attempt? number = some found)
    (hstep : step.attempt? ≠ some number) (htree : next.tree? found.tree ≠ none) :
    next.attempt? number = some found := by
  have hother : ∀ {given : Nat}, step.attempt? = some given → ∀ attempt context,
      (w.setContext given attempt context).attempt? number = some found := by
    intro given hgiven attempt context
    refine (attempt?_setAttempt_of_ne w (fun heq => ?_) _).trans h
    exact hstep (heq ▸ hgiven)
  cases hmove with
  | stay => exact h
  | plant => exact h
  | @drop tree planted _ =>
    refine attempt?_drop h (fun heq => htree ?_) _
    rw [heq, tree?, Workspace.drop, planted?_remove, if_pos rfl, Option.map_none]
  | addIndex => exact h
  | dropIndex => exact h
  | purge => exact h
  | subscribe => rw [attempt?, attempts_subscribeAll hroomy, ← attempt?, h]
  | unsubscribe => rw [attempt?, attempts_unsubscribeAll, ← attempt?, h]
  | begin => exact attempt?_begin h _ _ _
  | report _ _ _ _ _ hgiven => exact hother hgiven _ _
  | dispatch _ _ _ _ _ _ _ hgiven => exact hother hgiven _ _
  | reset => exact hother rfl _ _
  | clearSession => exact hother rfl _ _
  | suspendLeaf => exact hother rfl _ _
  | suspendKey => exact hother rfl _ _

/-- A move adds evaluations at the end of their row only. -/
theorem size_attempts_le_of_move (hroomy : w.Roomy) (hmove : Move resolve w step next) :
    w.attempts.size ≤ next.attempts.size := by
  cases hmove with
  | drop => simp [Workspace.drop]
  | subscribe => exact Nat.le_of_eq (congrArg Array.size (attempts_subscribeAll hroomy _ _ _ _)).symm
  | unsubscribe => exact Nat.le_of_eq (congrArg Array.size (attempts_unsubscribeAll w _ _)).symm
  | begin => simp [begin]
  | report | dispatch | reset | clearSession | suspendLeaf | suspendKey =>
    exact Nat.le_of_eq Array.size_setIfInBounds.symm
  | _ => exact Nat.le_refl _

/-- An evaluation that is there after a move, and was not started by it, was there before, of the same
tree and in the same state unless the step is about it. -/
theorem attempt?_before_move (hroomy : w.Roomy) (hmove : Move resolve w step next) {number : Nat}
    (hnumber : number < w.attempts.size) {found : Attempt MatchSession}
    (h : next.attempt? number = some found) :
    ∃ attempt, w.attempt? number = some attempt ∧ found.tree = attempt.tree ∧
      (step.attempt? ≠ some number → found = attempt) := by
  have hgiven : ∀ {given : Nat} {attempt : Attempt MatchSession},
      w.attempt? given = some attempt → step.attempt? = some given → ∀ context,
      (w.setContext given attempt context).attempt? number = some found →
      ∃ attempt, w.attempt? number = some attempt ∧ found.tree = attempt.tree ∧
        (step.attempt? ≠ some number → found = attempt) := by
    intro given attempt hattempt hstep context hfound
    by_cases heq : number = given
    · subst heq
      obtain rfl := Option.some.inj ((attempt?_setAttempt hattempt _).symm.trans hfound)
      exact ⟨attempt, hattempt, rfl, fun hne => absurd hstep hne⟩
    · exact ⟨found, (attempt?_setAttempt_of_ne w heq _).symm.trans hfound, rfl, fun _ => rfl⟩
  cases hmove with
  | drop => exact ⟨found, (attempt?_of_drop h).1, rfl, fun _ => rfl⟩
  | subscribe =>
    rw [attempt?, attempts_subscribeAll hroomy] at h
    exact ⟨found, h, rfl, fun _ => rfl⟩
  | unsubscribe =>
    rw [attempt?, attempts_unsubscribeAll] at h
    exact ⟨found, h, rfl, fun _ => rfl⟩
  | begin =>
    rw [attempt?, begin, Array.getElem?_push, if_neg (Nat.ne_of_lt hnumber)] at h
    exact ⟨found, h, rfl, fun _ => rfl⟩
  | report _ _ _ hattempt _ hstep => exact hgiven hattempt hstep _ h
  | dispatch _ _ _ _ hattempt _ _ hstep => exact hgiven hattempt hstep _ h
  | reset hattempt => exact hgiven hattempt rfl _ h
  | clearSession hattempt => exact hgiven hattempt rfl _ h
  | suspendLeaf _ _ hattempt => exact hgiven hattempt rfl _ h
  | suspendKey _ hattempt => exact hgiven hattempt rfl _ h
  | _ => exact ⟨found, h, rfl, fun _ => rfl⟩

/-- A move keeps a tree, or drops it with its evaluations, or adds one that was compiled. -/
theorem tree?_of_move (hroomy : w.Roomy) (hmove : Move resolve w step next) (tree : Nat) :
    next.tree? tree = w.tree? tree ∨
      (next.tree? tree = none ∧
        ∀ number found, next.attempt? number = some found → found.tree ≠ tree) ∨
      ∃ (e : Expr) (compiled : Tree), e.compile resolve = .ok compiled ∧
        next.tree? tree = some compiled ∧ w.tree? tree = none := by
  cases hmove with
  | @plant e compiled hcompiled =>
    rw [tree?, planted?_plant]
    split
    · rename_i heq
      refine .inr (.inr ⟨e, compiled, hcompiled, rfl, ?_⟩)
      rw [heq, tree?, planted?, Array.getElem?_eq_none (Nat.le_refl _)]
      rfl
    · exact .inl rfl
  | @drop dropped planted =>
    rw [tree?_drop]
    split
    · rename_i heq
      exact .inr (.inl ⟨rfl, fun number found hfound => heq ▸ (attempt?_of_drop hfound).2⟩)
    · exact .inl rfl
  | subscribe => exact .inl (tree?_subscribeAll hroomy _ _ _ _ tree)
  | unsubscribe => exact .inl (tree?_unsubscribeAll w _ _ tree)
  | _ => exact .inl rfl

/-- A leaf with a subscription after a move had the same before or none. -/
theorem handle?_of_move (hroomy : w.Roomy) (hmove : Move resolve w step next) {tree leaf : Nat}
    {handle : Handle} (h : next.handle? tree leaf = some handle) :
    w.handle? tree leaf = some handle ∨ w.handle? tree leaf = none := by
  cases hmove with
  | plant => exact .inl (handle?_plant w _ tree leaf ▸ h)
  | drop => exact .inl (handle?_of_drop h)
  | subscribe => exact (handle?_of_subscribeAll hroomy _ _ _ _ h).imp id And.left
  | unsubscribe =>
    rw [handle?_unsubscribeAll] at h
    split at h
    · simp at h
    · exact .inl h
  | _ => exact .inl h

end Workspace

end Percolator
