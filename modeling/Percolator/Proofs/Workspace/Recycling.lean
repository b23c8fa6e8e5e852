import Percolator.Proofs.Evaluation.Alike
import Percolator.Proofs.Workspace.Interference

/-!
# Recycled evaluations

An evaluation is recycled by resetting it and clearing its session, which keeps the buckets of the
session. A new evaluation starts with other buckets: none, or as many as suit an index. Main
statement: a recycled evaluation cannot be told from a new one. Whatever values are dispatched,
through any index, and whatever is reported, the answers and the failures, the counters and the keys
suspended are at every moment the same.
-/

namespace Percolator

open PredicateIndex

variable {φ : Type}

namespace MatchSession

/-- Two sessions suspend the same keys, whatever their buckets. -/
def Same (session other : MatchSession) : Prop :=
  ∀ key, session.isSuspended key = other.isSuspended key

/-- A key that is suspended in both sessions leaves them the same. -/
theorem Same.suspend {session other : MatchSession} (h : Same session other) (key : Nat) :
    Same (session.suspend key) (other.suspend key) := by
  intro found
  rw [isSuspended_suspend, isSuspended_suspend, h]

end MatchSession

/-- A value is dispatched with one answer into evaluations that are alike, and keeps them so. -/
theorem Alike.dispatchTo [BEq φ] {context other : Context MatchSession}
    (h : Alike MatchSession.Same context other) {tree : Tree}
    {suspend suspend' : Nat → MatchSession → MatchSession}
    (hs : tree.SuspendsAlike MatchSession.Same suspend suspend') (index : PredicateIndex φ)
    (treeId : Nat) (filter : φ) (value : Option Value) (keys : List Nat) :
    AlikeReports MatchSession.Same
      (index.dispatchTo treeId tree suspend filter value keys context)
      (index.dispatchTo treeId tree suspend' filter value keys other) := by
  induction keys generalizing context other with
  | nil => exact ⟨rfl, h⟩
  | cons key keys ih =>
    rw [PredicateIndex.dispatchTo, PredicateIndex.dispatchTo, h.isDecided]
    split
    · exact ⟨rfl, h⟩
    · split
      · exact ⟨rfl, h⟩
      · rename_i entry _
        rw [h.session key]
        split
        · exact ih h
        · split
          · exact ⟨rfl, h⟩
          · split
            · exact ⟨rfl, h⟩
            · rename_i leaf _
              dsimp only
              rw [h.isDecidedAt]
              split
              · exact ih h
              · obtain ⟨hanswer, hcontext⟩ :=
                  h.report hs entry.leaf (leaf.predicate.accepts value)
                generalize tree.report suspend _ _ context = reported at hanswer hcontext ⊢
                generalize tree.report suspend' _ _ other = reported' at hanswer hcontext ⊢
                obtain ⟨next, answer⟩ := reported
                obtain ⟨next', answer'⟩ := reported'
                obtain rfl : answer = answer' := hanswer
                rcases answer with fault | _ | verdict
                · exact ⟨rfl, hcontext⟩
                · exact ih hcontext
                · exact ⟨rfl, hcontext⟩

/-- What an evaluation is used for. -/
inductive Use (φ : Type) where
  /-- A value is dispatched into it, on a path or on a name for one. -/
  | dispatch (filter : φ) (path : String ⊕ Path) (value : Option Value) (dispatcher : Nat)
  /-- A leaf is reported by its number. -/
  | report (leaf : Nat) (result : Bool)
  /-- A leaf of a given tree is reported, which may be another than the one evaluated. -/
  | reportLeaf (tree leaf : Nat) (result : Bool)

/-- The step that uses the evaluation with a number. -/
def Use.step (number : Nat) : Use φ → IndexStep φ
  | dispatch filter path value dispatcher => .dispatch number filter path value dispatcher
  | report leaf result => .basic (.report number leaf result)
  | reportLeaf tree leaf result => .basic (.reportLeaf number tree leaf result)

/-- What can be seen of an evaluation: its counters, and which keys are suspended. -/
structure Sight where
  counters : Array Int
  suspended : Nat → Bool

namespace Workspace

/-- What can be seen of the evaluation with a number. -/
def sight (w : Workspace (PredicateIndex φ) MatchSession) (number : Nat) : Option Sight :=
  (w.attempt? number).map fun attempt =>
    ⟨attempt.context.counters, attempt.context.session.isSuspended⟩

/-- The steps that recycle an evaluation. -/
def recycle (number : Nat) : List (IndexStep φ) :=
  [.basic (.reset number), .basic (.clearSession number)]

/-- What each use of an evaluation answers, and what can be seen of the evaluation after it. -/
def observed [BEq φ] (resolve : String → Option Path) (number : Nat) :
    List (Use φ) → Workspace (PredicateIndex φ) MatchSession →
      List (Except Failure Answer × Option Sight)
  | [], _ => []
  | use :: uses, w =>
    let (next, answer) := w.indexStep resolve (use.step number)
    (answer, next.sight number) :: observed resolve number uses next

/-- A value is refused if the index that should dispatch it is not there. -/
theorem dispatch_of_missing [BEq φ] {w : Workspace (PredicateIndex φ) MatchSession}
    {number dispatcher : Nat} {attempt : Attempt MatchSession} {tree : Tree}
    (hattempt : w.attempt? number = some attempt) (htree : w.tree? attempt.tree = some tree)
    (hindex : w.dispatcher? dispatcher = none) (filter : φ) (path : Path) (value : Option Value) :
    w.dispatch number filter path value dispatcher = (w, .error .missing) := by
  obtain ⟨planted, hplanted, _⟩ := Option.map_eq_some_iff.mp htree
  rw [Workspace.dispatch, withAttempt, hattempt]
  dsimp only
  rw [withTree, hplanted]
  dsimp only
  rw [withDispatcher, hindex]

/-- Two workspaces differ in their evaluations only. One of each evaluates the same tree, and these
are alike. -/
structure Twins (w w' : Workspace (PredicateIndex φ) MatchSession) (number number' treeId : Nat)
    (tree : Tree) (context context' : Context MatchSession) : Prop where
  trees : w.trees = w'.trees
  dispatchers : w.dispatchers = w'.dispatchers
  planted : w.tree? treeId = some tree
  attempt : w.attempt? number = some ⟨treeId, context⟩
  attempt' : w'.attempt? number' = some ⟨treeId, context'⟩
  alike : Alike MatchSession.Same context context'

namespace Twins

variable {w w' : Workspace (PredicateIndex φ) MatchSession} {number number' treeId : Nat}
  {tree : Tree} {context context' : Context MatchSession}

/-- Both workspaces have planted the same trees. -/
theorem planted? (h : Twins w w' number number' treeId tree context context') (other : Nat) :
    w.planted? other = w'.planted? other := by
  rw [Workspace.planted?, h.trees, Workspace.planted?]

/-- The second one has the tree of the attempt too. -/
theorem planted' (h : Twins w w' number number' treeId tree context context') :
    w'.tree? treeId = some tree := by
  rw [tree?, ← h.planted?]
  exact h.planted

/-- Both workspaces have the same dispatchers. -/
theorem dispatcher? (h : Twins w w' number number' treeId tree context context') (other : Nat) :
    w.dispatcher? other = w'.dispatcher? other := by
  rw [Workspace.dispatcher?, h.dispatchers, Workspace.dispatcher?]

/-- The same can be seen of both evaluations. -/
theorem sight_eq (h : Twins w w' number number' treeId tree context context') :
    w.sight number = w'.sight number' := by
  rw [sight, sight, h.attempt, h.attempt', Option.map_some, Option.map_some, h.alike.counters,
    funext h.alike.session]

/-- Suspending a leaf suspends the same key in both sessions, if any. -/
theorem suspendsAlike (h : Twins w w' number number' treeId tree context context') :
    tree.SuspendsAlike MatchSession.Same (w.suspend treeId) (w'.suspend treeId) := by
  intro id _ session other hsame
  rw [suspend, suspend, handle?, handle?, h.planted?]
  split
  · exact hsame
  · rw [h.dispatcher?]
    split
    · exact hsame
    · exact hsame.suspend _

/-- Reports that are alike are recorded with the same answer, and leave twins. -/
theorem record (h : Twins w w' number number' treeId tree context context')
    {reported reported' : Reported MatchSession}
    (hreported : AlikeReports MatchSession.Same reported reported') :
    let outcome := w.record number ⟨treeId, context⟩ reported
    let outcome' := w'.record number' ⟨treeId, context'⟩ reported'
    outcome.2 = outcome'.2 ∧
      Twins outcome.1 outcome'.1 number number' treeId tree reported.1 reported'.1 := by
  refine ⟨?_, h.trees, h.dispatchers, h.planted, attempt?_setAttempt h.attempt _,
    attempt?_setAttempt h.attempt' _, hreported.context⟩
  rw [Workspace.record, Workspace.record]
  dsimp only
  rw [hreported.answer]

/-- A leaf that is reported by its number is answered the same in both. -/
theorem report (h : Twins w w' number number' treeId tree context context') (leaf : Nat)
    (result : Bool) :
    let outcome := w.report number leaf result
    let outcome' := w'.report number' leaf result
    outcome.2 = outcome'.2 ∧
      ∃ next next', Twins outcome.1 outcome'.1 number number' treeId tree next next' := by
  dsimp only
  rw [report_eq h.attempt h.planted, report_eq h.attempt' h.planted']
  have hrecord := h.record (h.alike.report h.suspendsAlike leaf result)
  exact ⟨hrecord.1, _, _, hrecord.2⟩

/-- So is a leaf of a given tree, whether it is there and whether the tree is the one evaluated. -/
theorem reportLeaf (h : Twins w w' number number' treeId tree context context')
    (reportedTree leaf : Nat) (result : Bool) :
    let outcome := w.reportLeaf number reportedTree leaf result
    let outcome' := w'.reportLeaf number' reportedTree leaf result
    outcome.2 = outcome'.2 ∧
      ∃ next next', Twins outcome.1 outcome'.1 number number' treeId tree next next' := by
  dsimp only [Workspace.reportLeaf]
  rw [withAttempt, withAttempt, h.attempt, h.attempt']
  dsimp only
  rw [withLeaf, withLeaf, withTree, withTree, h.planted?]
  split
  · exact ⟨rfl, _, _, h⟩
  · split
    · exact ⟨rfl, _, _, h⟩
    · split
      · exact h.report leaf result
      · exact ⟨rfl, _, _, h⟩

variable [BEq φ]

/-- So is a value on a path, whether the index is there or not. -/
theorem dispatch (h : Twins w w' number number' treeId tree context context') (filter : φ)
    (path : Path) (value : Option Value) (dispatcher : Nat) :
    let outcome := w.dispatch number filter path value dispatcher
    let outcome' := w'.dispatch number' filter path value dispatcher
    outcome.2 = outcome'.2 ∧
      ∃ next next', Twins outcome.1 outcome'.1 number number' treeId tree next next' := by
  dsimp only
  cases hindex : w.dispatcher? dispatcher with
  | none =>
    have hindex' := (h.dispatcher? dispatcher).symm.trans hindex
    rw [dispatch_of_missing h.attempt h.planted hindex,
      dispatch_of_missing h.attempt' h.planted' hindex']
    exact ⟨rfl, _, _, h⟩
  | some index =>
    have hindex' := (h.dispatcher? dispatcher).symm.trans hindex
    rw [dispatch_eq h.attempt h.planted hindex, dispatch_eq h.attempt' h.planted' hindex']
    have hrecord := h.record
      (h.alike.dispatchTo h.suspendsAlike index treeId filter value (index.keysAt path))
    exact ⟨hrecord.1, _, _, hrecord.2⟩

/-- Every use is answered the same in both, and leaves twins. -/
theorem step (h : Twins w w' number number' treeId tree context context')
    (resolve : String → Option Path) (use : Use φ) :
    let outcome := w.indexStep resolve (use.step number)
    let outcome' := w'.indexStep resolve (use.step number')
    outcome.2 = outcome'.2 ∧
      ∃ next next', Twins outcome.1 outcome'.1 number number' treeId tree next next' := by
  cases use with
  | report leaf result => exact h.report leaf result
  | reportLeaf reportedTree leaf result => exact h.reportLeaf reportedTree leaf result
  | dispatch filter path value dispatcher =>
    cases path with
    | inr path => exact h.dispatch filter path value dispatcher
    | inl name =>
      dsimp only [Use.step, indexStep]
      cases resolve name with
      | none => exact ⟨rfl, _, _, h⟩
      | some path => exact h.dispatch filter path value dispatcher

/-- Twins show the same in every sequence of uses. -/
theorem observed_eq (h : Twins w w' number number' treeId tree context context')
    (resolve : String → Option Path) (uses : List (Use φ)) :
    observed resolve number uses w = observed resolve number' uses w' := by
  induction uses generalizing w w' context context' with
  | nil => rfl
  | cons use uses ih =>
    obtain ⟨hanswer, next, next', hnext⟩ := h.step resolve use
    rw [observed, observed]
    dsimp only
    rw [hanswer, hnext.sight_eq, ih hnext]

end Twins

variable [BEq φ] {w : Workspace (PredicateIndex φ) MatchSession} {number : Nat}
  {attempt : Attempt MatchSession} {tree : Tree} {session : MatchSession}

/-- A recycled evaluation is a new one with the old session, cleared. -/
theorem run_recycle (hattempt : w.attempt? number = some attempt)
    (htree : w.tree? attempt.tree = some tree) (resolve : String → Option Path) :
    run resolve (recycle number) w
      = w.setAttempt number ⟨attempt.tree, .new tree attempt.context.session.clear⟩ := by
  obtain ⟨planted, hplanted, rfl⟩ := Option.map_eq_some_iff.mp htree
  have hreset : (w.indexStep resolve (.basic (.reset number))).1
      = w.setAttempt number ⟨attempt.tree, attempt.context.reset planted.tree⟩ := by
    simp only [indexStep, Workspace.step, withAttempt, hattempt, withTree, hplanted]
  have hfound := attempt?_setAttempt hattempt ⟨attempt.tree, attempt.context.reset planted.tree⟩
  rw [recycle, run, List.foldl_cons, List.foldl_cons, List.foldl_nil, hreset]
  simp only [indexStep, Workspace.step, changeSession, withAttempt, hfound]
  rw [setAttempt, setAttempt, setAttempt, Array.setIfInBounds_setIfInBounds]
  rfl

/-- A recycled evaluation is a twin of a new one. -/
theorem twins_recycle (hattempt : w.attempt? number = some attempt)
    (htree : w.tree? attempt.tree = some tree) (hsession : ∀ key, session.isSuspended key = false)
    (resolve : String → Option Path) :
    Twins (run resolve (recycle number) w) (w.begin attempt.tree tree session).1 number
      (w.begin attempt.tree tree session).2 attempt.tree tree
      (.new tree attempt.context.session.clear) (.new tree session) := by
  have hstarted : (w.begin attempt.tree tree session).1.attempt?
      (w.begin attempt.tree tree session).2 = some ⟨attempt.tree, .new tree session⟩ := by
    rw [Workspace.attempt?, Workspace.begin, Array.getElem?_push_size]
    rfl
  rw [run_recycle hattempt htree]
  refine ⟨rfl, rfl, htree, attempt?_setAttempt hattempt _, hstarted, rfl, fun key => ?_⟩
  exact (MatchSession.isSuspended_clear _ key).trans (hsession key).symm

/-- An evaluation in any state is reset and its session is cleared. Then it shows what a new one of the
tree shows, whose session may have any number of buckets as long as nothing is suspended there, and
every sequence of uses shows the same of both. -/
theorem recycled_as_new (hattempt : w.attempt? number = some attempt)
    (htree : w.tree? attempt.tree = some tree) (hsession : ∀ key, session.isSuspended key = false)
    (resolve : String → Option Path) (uses : List (Use φ)) :
    let recycled := run resolve (recycle number) w
    let started := w.begin attempt.tree tree session
    recycled.sight number = some ⟨tree.initialCounters, fun _ => false⟩ ∧
      started.1.sight started.2 = some ⟨tree.initialCounters, fun _ => false⟩ ∧
      observed resolve number uses recycled = observed resolve started.2 uses started.1 := by
  have htwins := twins_recycle hattempt htree hsession resolve
  have hnew : (w.begin attempt.tree tree session).1.sight (w.begin attempt.tree tree session).2
      = some ⟨tree.initialCounters, fun _ => false⟩ := by
    rw [sight, htwins.attempt', Option.map_some, Context.new, funext hsession]
  exact ⟨htwins.sight_eq.trans hnew, hnew, htwins.observed_eq resolve uses⟩

/-- That `a` is absent and `b` is not decides the filter; the tags are reported too late. -/
def overdue : Workspace (PredicateIndex Nat) MatchSession :=
  run taggedPath [.dispatch 0 7 (.inl "a") none 0, .dispatch 0 7 (.inl "b") (some (.integer 2)) 0,
    .basic (.report 0 1 true)] (run taggedPath crowdedSetup (.new .empty))

/-- The leaf for the tags is suspended, and after recycling nobody can tell, whatever the capacity of
the new session. -/
theorem recycled_as_new_overdue :
    (overdue.attempt? 0).map (fun attempt =>
        (attempt.context.verdict, attempt.context.session.isSuspended 3)) = some (some true, true) ∧
      ∀ (capacity : Nat) (uses : List (Use Nat)),
        observed taggedPath 0 uses (run taggedPath (recycle 0) overdue)
          = observed taggedPath 1 uses (overdue.begin 1 taggedTree (.withCapacity capacity)).1 := by
  obtain ⟨attempt, hattempt, htree⟩ : ∃ attempt, overdue.attempt? 0 = some attempt ∧
      attempt.tree = 1 := Option.map_eq_some_iff.mp (by decide +kernel)
  have hplanted : overdue.tree? attempt.tree = some taggedTree := by
    rw [htree]
    rfl
  refine ⟨by decide +kernel, fun capacity uses => ?_⟩
  have hobserved := (recycled_as_new hattempt hplanted
    (MatchSession.isSuspended_withCapacity capacity) taggedPath uses).2.2
  rw [htree] at hobserved
  exact hobserved

end Workspace

end Percolator
