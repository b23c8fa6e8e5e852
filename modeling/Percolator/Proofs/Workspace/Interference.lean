import Percolator.Proofs.Workspace.Alone

/-!
# Evaluations among others

A new evaluation is watched while values are dispatched into it for a filter and other steps are
taken: other trees are subscribed, unsubscribed and dropped, the index is purged, and other
evaluations get values and reports. Main statement: as long as its tree stays wholly subscribed for
the filter, and no leaf of another tree is, the answers to the dispatches, the counters and the
leaves suspended are at every moment those of the same dispatches in a workspace where the tree alone
is subscribed, in the same order, and nothing else is done. The keys of the subscriptions differ, and
so do the places of the leaves among those that wait for the same values.
-/

namespace Percolator

open PredicateIndex

variable {φ : Type}

/-- What shows of an evaluation: its counters, and which leaves of its tree are suspended. -/
structure View where
  counters : Array Int
  suspended : List Nat

/-- An evaluation into which values are dispatched for a filter, and the index that dispatches
them. -/
structure Watch (φ : Type) where
  attempt : Nat
  dispatcher : Nat
  filter : φ

/-- What may happen while an evaluation is watched. -/
inductive Event (φ : Type) where
  /-- A value is dispatched into the evaluation, on a path or on a name for one. -/
  | dispatch (path : String ⊕ Path) (value : Option Value)
  /-- Some other step is taken. -/
  | aside (step : IndexStep φ)

namespace Event

/-- The step that an event is. -/
def step (watch : Watch φ) : Event φ → IndexStep φ
  | dispatch path value => .dispatch watch.attempt watch.filter path value watch.dispatcher
  | aside step => step

/-- Whether a value is dispatched into the evaluation that is watched. -/
def isDispatch : Event φ → Bool
  | dispatch _ _ => true
  | aside _ => false

end Event

/-- A step is not about the evaluation that is watched, or it dispatches a value there for another
filter or through another index. -/
def Watch.Aside [BEq φ] (watch : Watch φ) (step : IndexStep φ) : Prop :=
  step.attempt? = some watch.attempt → ∃ filter path value dispatcher,
    step = .dispatch watch.attempt filter path value dispatcher ∧
      (dispatcher = watch.dispatcher →
        ∀ key, (key == watch.filter) = true → (key == filter) = false)

namespace Workspace

/-- What shows of the evaluation with a number. -/
def view (w : Workspace (PredicateIndex φ) MatchSession) (number : Nat) : Option View :=
  (w.attempt? number).map fun attempt =>
    ⟨attempt.context.counters, ((w.tree? attempt.tree).elim [] Tree.leafIds).filter
      (w.suspendedAt attempt.tree attempt.context.session)⟩

variable [BEq φ]

/-- What the dispatches into the evaluation that is watched answer, and what shows of it after
each. -/
def shown (resolve : String → Option Path) (watch : Watch φ) :
    List (Event φ) → Workspace (PredicateIndex φ) MatchSession →
      List (Except Failure Answer × Option View)
  | [], _ => []
  | .dispatch path value :: events, w =>
    let (next, answer) := w.indexStep resolve ((Event.dispatch path value).step watch)
    (answer, next.view watch.attempt) :: shown resolve watch events next
  | .aside step :: events, w => shown resolve watch events (w.indexStep resolve step).1

/-- Two sessions suspend the same leaves of a tree, each in view of the subscriptions in a
workspace. -/
def SuspendSame (w w' : Workspace (PredicateIndex φ) MatchSession) (treeId treeId' : Nat)
    (tree : Tree) (session session' : MatchSession) : Prop :=
  ∀ leaf, (tree.leaf? leaf).isSome = true →
    w.suspendedAt treeId session leaf = w'.suspendedAt treeId' session' leaf

/-- The tree of the evaluation that is watched is wholly subscribed. -/
structure Watched (w : Workspace (PredicateIndex φ) MatchSession) (log : List (Handle × φ))
    (watch : Watch φ) (index : PredicateIndex φ) (treeId : Nat) (tree : Tree)
    (context : Context MatchSession) : Prop where
  sound : Sound w log
  wholly : WhollySubscribed w watch.dispatcher index treeId tree watch.filter
  attempt : w.attempt? watch.attempt = some ⟨treeId, context⟩

namespace Watched

variable {w w' : Workspace (PredicateIndex φ) MatchSession} {log log' : List (Handle × φ)}
  {watch watch' : Watch φ} {index index' : PredicateIndex φ} {treeId treeId' : Nat} {tree : Tree}
  {context context' : Context MatchSession} {resolve : String → Option Path}

/-- A report into the evaluation leaves the rest of the workspace alone. -/
theorem record (hw : Watched w log watch index treeId tree context)
    (reported : Reported MatchSession) :
    Watched (w.record watch.attempt ⟨treeId, context⟩ reported).1 log watch index treeId tree
      reported.1 where
  sound := hw.sound.of_attempts _
  wholly := ⟨hw.wholly.planted, hw.wholly.present, hw.wholly.leaves, hw.wholly.own⟩
  attempt := attempt?_setAttempt hw.attempt _

/-- Dispatching a value for the filter is handing it to the leaves of the tree on the path. -/
theorem dispatch_eq (hw : Watched w log watch index treeId tree context) (path : Path)
    (value : Option Value) :
    w.dispatch watch.attempt watch.filter path value watch.dispatcher
      = w.record watch.attempt ⟨treeId, context⟩ (tree.serve (w.suspend treeId)
          (w.suspendedAt treeId) value (index.leavesAt watch.filter path) context) := by
  rw [Workspace.dispatch_eq hw.attempt hw.wholly.planted hw.wholly.present,
    hw.wholly.dispatch_eq_serve hw.sound]

/-- Suspending a leaf suspends the same leaf in both workspaces. -/
theorem suspendsAlike (hw : Watched w log watch index treeId tree context)
    (hw' : Watched w' log' watch' index' treeId' tree context') :
    tree.SuspendsAlike (SuspendSame w w' treeId treeId' tree) (w.suspend treeId)
      (w'.suspend treeId') := by
  intro id hid session other hsame leaf hleaf
  rw [hw.wholly.suspendedAt_suspend hw.sound hid hleaf,
    hw'.wholly.suspendedAt_suspend hw'.sound hid hleaf, hsame leaf hleaf]

/-- A step aside leaves the evaluation that is watched alone. -/
theorem attempt_aside (hw : Watched w log watch index treeId tree context) {step : IndexStep φ}
    (haside : watch.Aside step)
    (htree : (w.indexStep resolve step).1.tree? treeId = some tree) :
    (w.indexStep resolve step).1.attempt? watch.attempt = some ⟨treeId, context⟩ := by
  by_cases hstep : step.attempt? = some watch.attempt
  · obtain ⟨filter, path, value, dispatcher, rfl, hother⟩ := haside hstep
    have hpath : ∀ path, (w.dispatch watch.attempt filter path value dispatcher).1.attempt?
        watch.attempt = some ⟨treeId, context⟩ := by
      intro path
      refine withAttempt_induct (P := fun next => next.attempt? watch.attempt = some _) hw.attempt
        fun attempt hattempt => ?_
      refine withTree_induct (P := fun next => next.attempt? watch.attempt = some _) hw.attempt
        fun planted _ => ?_
      refine withDispatcher_induct (P := fun next => next.attempt? watch.attempt = some _)
        hw.attempt fun given hgiven => ?_
      rw [hw.attempt] at hattempt
      obtain rfl := Option.some.inj hattempt
      refine (attempt?_setAttempt hw.attempt _).trans ?_
      rw [PredicateIndex.dispatch, dispatchTo_of_foreign (hw.wholly.foreign hw.sound hgiven hother)]
    cases path with
    | inr path => exact hpath path
    | inl name =>
      rw [indexStep]
      cases resolve name with
      | none => exact hw.attempt
      | some path => exact hpath path
  · refine attempt?_of_move hw.sound.roomy (move_indexStep resolve w step) hw.attempt hstep ?_
    rw [htree]
    simp

/-- A step aside leaves the tree served as before, as long as it stays wholly subscribed. -/
theorem step_aside (hw : Watched w log watch index treeId tree context) {step : IndexStep φ}
    (haside : watch.Aside step)
    (hstays : WhollySubscribed (w.indexStep resolve step).1 watch.dispatcher index' treeId tree
      watch.filter) :
    Watched (w.indexStep resolve step).1 (made w (w.indexStep resolve step).1 step ++ log) watch
        index' treeId tree context ∧
      (∀ path, index'.leavesAt watch.filter path = index.leavesAt watch.filter path) ∧
      ∀ leaf, (tree.leaf? leaf).isSome = true → ∀ session,
        (w.indexStep resolve step).1.suspendedAt treeId session leaf
          = w.suspendedAt treeId session leaf := by
  have hmove := move_indexStep resolve w step
  have hsound := hw.sound.indexStep resolve step
  refine ⟨⟨hsound, hstays, hw.attempt_aside haside hstays.planted⟩, fun path => ?_,
    fun leaf hleaf session => ?_⟩
  · exact hw.wholly.leavesAt_steady hw.sound hstays hsound hmove path
  · rw [suspendedAt, hw.wholly.handle?_steady hw.sound hstays hmove hleaf, suspendedAt]

end Watched

/-- In two workspaces the tree of the evaluation that is watched is wholly subscribed, its leaves
are served in the same order, and the evaluations have the same counters and suspend the same
leaves. -/
def Abreast (w w' : Workspace (PredicateIndex φ) MatchSession) (watch watch' : Watch φ)
    (treeId treeId' : Nat) (tree : Tree) : Prop :=
  ∃ log log' index index' context context', Watched w log watch index treeId tree context ∧
    Watched w' log' watch' index' treeId' tree context' ∧
    (∀ path, index.leavesAt watch.filter path = index'.leavesAt watch'.filter path) ∧
    Alike (SuspendSame w w' treeId treeId' tree) context context'

namespace Abreast

variable {w w' : Workspace (PredicateIndex φ) MatchSession} {watch watch' : Watch φ}
  {treeId treeId' : Nat} {tree : Tree} {resolve : String → Option Path}

/-- Evaluations that are abreast show the same. -/
theorem view_eq (h : Abreast w w' watch watch' treeId treeId' tree) :
    w.view watch.attempt = w'.view watch'.attempt := by
  obtain ⟨_, _, _, _, context, context', hw, hw', _, halike⟩ := h
  have hnumbered := hw.sound.numbered treeId tree hw.wholly.planted
  have hsame : tree.leafIds.filter (w.suspendedAt treeId context.session)
      = tree.leafIds.filter (w'.suspendedAt treeId' context'.session) :=
    List.filter_congr fun leaf hleaf => halike.session leaf (hnumbered.mem_leafIds.mp hleaf)
  rw [view, hw.attempt, view, hw'.attempt, Option.map_some, Option.map_some, hw.wholly.planted,
    hw'.wholly.planted, Option.elim_some, hsame, halike.counters]

/-- A value on a path is answered the same in both workspaces, and keeps the evaluations abreast. -/
theorem dispatch (h : Abreast w w' watch watch' treeId treeId' tree) (path : Path)
    (value : Option Value) :
    let outcome := w.dispatch watch.attempt watch.filter path value watch.dispatcher
    let outcome' := w'.dispatch watch'.attempt watch'.filter path value watch'.dispatcher
    outcome.2 = outcome'.2 ∧ Abreast outcome.1 outcome'.1 watch watch' treeId treeId' tree := by
  obtain ⟨log, log', index, index', context, context', hw, hw', hleaves, halike⟩ := h
  dsimp only
  rw [hw.dispatch_eq, hw'.dispatch_eq, hleaves]
  have hserved : ∀ leaf ∈ index'.leavesAt watch'.filter path, ∀ session other,
      SuspendSame w w' treeId treeId' tree session other →
        w.suspendedAt treeId session leaf = w'.suspendedAt treeId' other leaf := by
    intro leaf hleaf session other hsame
    exact hsame leaf (Tree.isSome_of_waitsAt ((hw'.wholly.mem_leavesAt hw'.sound).mp hleaf))
  obtain ⟨hanswer, hnext⟩ := halike.serve (hw.suspendsAlike hw') hserved value
  refine ⟨?_, log, log', index, index', _, _, hw.record _, hw'.record _, hleaves, hnext⟩
  rw [Workspace.record, Workspace.record]
  dsimp only
  rw [hanswer]

/-- So is a value on a name for a path, whether there is such a path or not. -/
theorem step_dispatch (h : Abreast w w' watch watch' treeId treeId' tree) (path : String ⊕ Path)
    (value : Option Value) :
    let outcome := w.indexStep resolve ((Event.dispatch path value).step watch)
    let outcome' := w'.indexStep resolve ((Event.dispatch path value).step watch')
    outcome.2 = outcome'.2 ∧ Abreast outcome.1 outcome'.1 watch watch' treeId treeId' tree := by
  cases path with
  | inr path => exact h.dispatch path value
  | inl name =>
    dsimp only [Event.step, indexStep]
    cases resolve name with
    | none => exact ⟨rfl, h⟩
    | some path => exact h.dispatch path value

/-- A step aside in one of the workspaces keeps the evaluations abreast, as long as the tree stays
wholly subscribed there. -/
theorem step_aside (h : Abreast w w' watch watch' treeId treeId' tree) {step : IndexStep φ}
    (haside : watch.Aside step)
    (hstays : ∃ index, WhollySubscribed (w.indexStep resolve step).1 watch.dispatcher index treeId
      tree watch.filter) :
    Abreast (w.indexStep resolve step).1 w' watch watch' treeId treeId' tree := by
  obtain ⟨log, log', index, index', context, context', hw, hw', hleaves, halike⟩ := h
  obtain ⟨later, hstays⟩ := hstays
  obtain ⟨hnext, hserved, hsuspended⟩ := hw.step_aside haside hstays
  refine ⟨_, log', later, index', context, context', hnext, hw', fun path => ?_,
    halike.counters, fun leaf hleaf => ?_⟩
  · exact (hserved path).trans (hleaves path)
  · exact (hsuspended leaf hleaf _).trans (halike.session leaf hleaf)

/-- Whatever steps are taken aside in one of the workspaces, the evaluations show the same. -/
theorem shown_eq {events : List (Event φ)} (h : Abreast w w' watch watch' treeId treeId' tree)
    (hstays : ∀ earlier, earlier <+: events → ∃ index,
      WhollySubscribed (run resolve (earlier.map (Event.step watch)) w) watch.dispatcher index
        treeId tree watch.filter)
    (haside : ∀ step, .aside step ∈ events → watch.Aside step) :
    shown resolve watch events w
        = shown resolve watch' (events.filter Event.isDispatch) w' ∧
      (run resolve (events.map (Event.step watch)) w).view watch.attempt
        = (run resolve ((events.filter Event.isDispatch).map (Event.step watch')) w').view
            watch'.attempt := by
  induction events generalizing w w' with
  | nil => exact ⟨rfl, h.view_eq⟩
  | cons event events ih =>
    have hlater : ∀ earlier, earlier <+: events → ∃ index,
        WhollySubscribed (run resolve (earlier.map (Event.step watch))
          (w.indexStep resolve (event.step watch)).1) watch.dispatcher index treeId tree
          watch.filter :=
      fun earlier hearlier => hstays (event :: earlier) (List.cons_prefix_cons.mpr ⟨rfl, hearlier⟩)
    have haside' := fun step hstep => haside step (List.mem_cons_of_mem _ hstep)
    cases event with
    | dispatch path value =>
      obtain ⟨hanswer, hnext⟩ := h.step_dispatch path value
      obtain ⟨hshown, hview⟩ := ih hnext hlater haside'
      rw [List.filter_cons_of_pos rfl]
      refine ⟨?_, hview⟩
      rw [shown, shown]
      dsimp only
      rw [hanswer, hnext.view_eq, hshown]
    | aside step =>
      have hnext := h.step_aside (haside step List.mem_cons_self) (hlater [] List.nil_prefix)
      exact ih hnext hlater haside'

end Abreast

variable {resolve : String → Option Path} {e : Expr} {tree : Tree} {treeId : Nat}

/-- What shows of a new evaluation, whose tree is and stays wholly subscribed for a filter, does not
depend on the steps aside, nor on what was done before: the same dispatches show the same where the
tree alone is subscribed, its leaves in the same order, and nothing else is done. -/
theorem shown_as_alone (hcompile : e.compile resolve = .ok tree) {setup : List (IndexStep φ)}
    {watch : Watch φ} (hself : (watch.filter == watch.filter) = true) {session : MatchSession}
    (hattempt : (run resolve setup (.new .empty)).attempt? watch.attempt
      = some ⟨treeId, .new tree session⟩)
    (hsession : ∀ key, session.isSuspended key = false) {events : List (Event φ)}
    (hstays : ∀ earlier, earlier <+: events → ∃ index, WhollySubscribed
      (run resolve (earlier.map (Event.step watch)) (run resolve setup (.new .empty)))
      watch.dispatcher index treeId tree watch.filter)
    (haside : ∀ step, .aside step ∈ events → watch.Aside step) :
    let w := run resolve setup (.new .empty)
    let leaves := w.bySubscription (log resolve setup (.new .empty)) watch.dispatcher treeId
      tree.leafIds
    let lone := run resolve (alone e watch.filter leaves) (.new .empty)
    let dispatches := events.filter Event.isDispatch
    shown resolve watch events w = shown resolve ⟨0, 0, watch.filter⟩ dispatches lone ∧
      (run resolve (events.map (Event.step watch)) w).view watch.attempt
        = (run resolve (dispatches.map (Event.step ⟨0, 0, watch.filter⟩)) lone).view 0 := by
  obtain ⟨index, hwholly⟩ := hstays [] List.nil_prefix
  have hsound := sound_new.run resolve setup
  rw [List.append_nil] at hsound
  obtain ⟨_, index', session', hsound', hwholly', hattempt', hsession', hserved⟩ :=
    alone_served hcompile hself (bySubscription_perm (run resolve setup (.new .empty))
      (log resolve setup (.new .empty)) watch.dispatcher treeId tree.leafIds)
  refine Abreast.shown_eq ⟨_, _, index, index', _, _, ⟨hsound, hwholly, hattempt⟩,
    ⟨hsound', hwholly', hattempt'⟩, fun path => ?_, rfl, fun leaf _ => ?_⟩ hstays haside
  · exact (hwholly.leavesAt_eq hsound path).trans (hserved path).symm
  · exact (suspendedAt_eq_false hsession _ _ leaf).trans
      (suspendedAt_eq_false hsession' _ _ leaf).symm

/-- A filter for `a`, and the leaves of `taggedFilter` behind it in the index, the last one first. -/
def crowdedSetup : List (IndexStep Nat) :=
  [.basic (.compile (.test "a" .isNull)), .basic (.subscribe 0 none 8 0),
    .basic (.compile taggedFilter), .basic (.subscribe 1 (some 4) 7 0),
    .basic (.subscribe 1 (some 3) 7 0), .basic (.subscribe 1 (some 1) 7 0),
    .basic (.begin 1 (some 0))]

/-- The filter for `a` is given up and purged, and takes its key again, around two dispatches. -/
def crowdedEvents : List (Event Nat) :=
  [.aside (.basic (.unsubscribe 0 none)), .dispatch (.inr ⟨[1], false⟩) none, .aside (.purge 0),
    .aside (.basic (.subscribe 0 none 8 0)), .dispatch (.inl "b") (some (.integer 2))]

/-- Nobody sees the filter for `a` come and go. -/
theorem shown_as_alone_crowded :
    shown taggedPath ⟨0, 0, 7⟩ crowdedEvents (run taggedPath crowdedSetup (.new .empty))
      = shown taggedPath ⟨0, 0, 7⟩
          [.dispatch (.inr ⟨[1], false⟩) none, .dispatch (.inl "b") (some (.integer 2))]
          (run taggedPath (alone taggedFilter 7 [4, 3, 1]) (.new .empty)) := by
  have hcompile : taggedFilter.compile taggedPath = .ok taggedTree := rfl
  have hsession : ∀ key, (MatchSession.withCapacity 4).isSuspended key = false :=
    MatchSession.isSuspended_withCapacity 4
  have hstays : ∀ earlier, earlier <+: crowdedEvents → ∃ index, WhollySubscribed
      (run taggedPath (earlier.map (Event.step ⟨0, 0, 7⟩))
        (run taggedPath crowdedSetup (.new .empty))) 0 index 1 taggedTree 7 := by
    intro earlier hearlier
    have hsound := (sound_new.run taggedPath crowdedSetup).run taggedPath
      (earlier.map (Event.step ⟨0, 0, 7⟩))
    simp only [crowdedEvents, List.prefix_cons_iff, List.prefix_nil] at hearlier
    rcases hearlier with rfl | ⟨_, rfl, rfl | ⟨_, rfl, rfl | ⟨_, rfl, rfl | ⟨_, rfl,
      rfl | ⟨_, rfl, rfl⟩⟩⟩⟩⟩ <;>
      exact whollySubscribed_of_slots hsound rfl (by decide +kernel)
  have haside : ∀ step, Event.aside step ∈ crowdedEvents → Watch.Aside ⟨0, 0, 7⟩ step := by
    intro step hstep habout
    simp only [crowdedEvents, List.mem_cons, List.not_mem_nil, or_false] at hstep
    rcases hstep with h | h | h | h | h <;> cases h <;> cases habout
  have horder : (run taggedPath crowdedSetup (.new .empty)).bySubscription
      (log taggedPath crowdedSetup (.new .empty)) 0 1 taggedTree.leafIds = [4, 3, 1] := by
    decide +kernel
  have hshown := (shown_as_alone hcompile rfl rfl hsession hstays haside).1
  rw [horder] at hshown
  exact hshown

end Workspace

end Percolator
