import Percolator.Proofs.Workspace.Suspension

/-!
# Suspended keys that are given again

A session remembers suspended subscriptions by their keys, and an index gives the keys of purged
subscriptions again. A leaf that is subscribed during an evaluation of its tree may thus inherit a
key that is suspended there, and is passed over from then on although it is undecided. Main
statement: as long as evaluations are not reset and sessions are not changed by hand, an undecided
leaf of the only index is suspended at some point of a run exactly if a leaf inherits a suspended
key at some point of it.
-/

namespace Percolator.Workspace

open PredicateIndex

variable {φ : Type} {w next : Workspace (PredicateIndex φ) MatchSession}
  {log : List (Handle × φ)}

/-- A step that subscribes to the first index, if it subscribes, and neither resets an evaluation nor
suspends anything by hand. -/
def Ordinary : IndexStep φ → Prop
  | .basic (.subscribe _ _ _ number) => number = 0
  | .basic (.reset _) => False
  | .basic (.suspendLeaf _ _ _) => False
  | .suspendKey _ _ => False
  | _ => True

/-- In some evaluation the key of an active subscription of its tree is suspended, but the leaf of the
subscription is undecided. -/
def Premature (w : Workspace (PredicateIndex φ) MatchSession) : Prop :=
  ∃ number attempt index key entry, w.attempt? number = some attempt ∧
    w.dispatcher? 0 = some index ∧ index.active? key = some entry ∧ entry.tree = attempt.tree ∧
    attempt.context.session.isSuspended key = true ∧
    attempt.context.isDecidedAt entry.leaf = false

/-- On the way from one workspace to another a leaf gets a subscription whose key is suspended in an
evaluation of its tree in which the leaf is undecided. -/
def Inherits (w next : Workspace (PredicateIndex φ) MatchSession) : Prop :=
  ∃ number attempt leaf handle, w.attempt? number = some attempt ∧
    w.handle? attempt.tree leaf = none ∧ next.handle? attempt.tree leaf = some handle ∧
    attempt.context.session.isSuspended handle.key = true ∧
    attempt.context.isDecidedAt leaf = false

/-- All leaves that are subscribed at all are subscribed to the first index. -/
def SingleIndex (w : Workspace (PredicateIndex φ) MatchSession) : Prop :=
  ∀ tree, w.SubscribedTo tree 0

/-- All evaluations are timely in view of the subscriptions in a workspace. -/
def TimelyIn (w next : Workspace (PredicateIndex φ) MatchSession) : Prop :=
  ∀ number attempt, next.attempt? number = some attempt → Timely w attempt.tree attempt.context

/-- An evaluation that is replaced by a timely one leaves all evaluations timely. -/
theorem TimelyIn.setAttempt (h : TimelyIn w w) (number : Nat) {attempt : Attempt MatchSession}
    (hattempt : Timely w attempt.tree attempt.context) :
    TimelyIn w (w.setAttempt number attempt) := by
  intro other found hfound
  rcases attempt?_of_setAttempt hfound with rfl | hold
  · exact hattempt
  · exact h other found hold

/-- An evaluation that starts is timely if nothing is suspended in its session. -/
theorem TimelyIn.begin (h : TimelyIn w w) (number : Nat) (tree : Tree) {session : MatchSession}
    (hsession : ∀ key, session.isSuspended key = false) :
    TimelyIn w (w.begin number tree session).1 := by
  intro other found hfound
  rcases attempt?_of_begin hfound with rfl | hold
  · exact timely_new w number tree hsession
  · exact h other found hold

/-- If the evaluations stay as they are, they stay timely. -/
theorem TimelyIn.of_attempts (h : TimelyIn w w) (hattempts : next.attempts = w.attempts) :
    TimelyIn w next := by
  intro number attempt hattempt
  rw [attempt?, hattempts] at hattempt
  exact h number attempt hattempt

/-- Dropping a tree only ends evaluations. -/
theorem TimelyIn.drop (h : TimelyIn w w) (tree : Nat) (leaves : List Nat) :
    TimelyIn w (w.drop tree leaves) := by
  intro number attempt hattempt
  exact h number attempt (attempt?_of_drop hattempt).1

/-- An evaluation is timely in which nothing is suspended any more. -/
theorem timely_clear (tree : Nat) (context : Context MatchSession) :
    Timely w tree { context with session := context.session.clear } := by
  intro leaf handle _ hsuspended
  have hresumed : context.session.clear.isSuspended handle.key = true := hsuspended
  rw [MatchSession.isSuspended_clear] at hresumed
  simp at hresumed

/-- An ordinary move leaves all evaluations timely in view of the subscriptions before it. -/
theorem timelyIn_move [BEq φ] (h : TimelyIn w w) (hsound : Sound w log) (hsingle : SingleIndex w)
    {resolve : String → Option Path} {step : IndexStep φ} (hmove : Move resolve w step next)
    (hordinary : Ordinary step) : TimelyIn w next := by
  have hreported : ∀ tree found, Tree.Invariant found (w.suspend tree) (Timely w tree) :=
    fun tree => timely_invariant hsound (hsingle tree)
  cases hmove with
  | stay => exact h
  | plant => exact h.of_attempts rfl
  | drop => exact h.drop _ _
  | addIndex => exact h.of_attempts rfl
  | dropIndex => exact h.of_attempts rfl
  | purge => exact h.of_attempts rfl
  | subscribe => exact h.of_attempts (attempts_subscribeAll hsound.roomy _ _ _ _)
  | unsubscribe => exact h.of_attempts (attempts_unsubscribeAll w _ _)
  | begin _ hsession => exact h.begin _ _ hsession
  | report _ leaf result hattempt =>
    refine h.setAttempt _ ?_
    exact (hreported _ _).report leaf result _ (h _ _ hattempt)
  | dispatch _ filter _ value hattempt =>
    refine h.setAttempt _ ?_
    exact (hreported _ _).dispatchTo _ _ filter value _ (h _ _ hattempt)
  | reset => exact hordinary.elim
  | clearSession => exact h.setAttempt _ (timely_clear _ _)
  | suspendLeaf => exact hordinary.elim
  | suspendKey => exact hordinary.elim

/-- On the way from one workspace to another leaves give up subscriptions or get some of the first
index, which is there, and then the evaluations stay as they are. -/
def GainsFromFirst (w next : Workspace (PredicateIndex φ) MatchSession) : Prop :=
  ∀ tree leaf handle, next.handle? tree leaf = some handle →
    w.handle? tree leaf = some handle ∨
      w.handle? tree leaf = none ∧ handle.dispatcher = 0 ∧ next.attempts = w.attempts ∧
        ∃ index, next.dispatcher? 0 = some index

/-- In an ordinary move leaves only get subscriptions of the first index. -/
theorem gainsFromFirst_move [BEq φ] (hsound : Sound w log) {resolve : String → Option Path}
    {step : IndexStep φ} (hmove : Move resolve w step next) (hordinary : Ordinary step) :
    GainsFromFirst w next := by
  have hkept : ∀ attempts, GainsFromFirst w { w with attempts } := fun _ _ _ _ => .inl
  cases hmove with
  | stay => exact hkept _
  | plant => exact fun tree leaf _ hslot => .inl (handle?_plant w _ tree leaf ▸ hslot)
  | drop => exact fun _ _ _ hslot => .inl (handle?_of_drop hslot)
  | addIndex => exact fun _ _ _ => .inl
  | dropIndex => exact fun _ _ _ => .inl
  | purge => exact fun _ _ _ => .inl
  | @subscribe given number filter index planted leaf hindex _ =>
    have hfirst : number = 0 := hordinary
    intro tree' leaf' handle hslot
    refine (handle?_of_subscribeAll hsound.roomy number filter given _ hslot).imp id ?_
    intro hparts
    rcases hparts with ⟨hnone, hnumber⟩
    exact ⟨hnone, hnumber.trans hfirst, attempts_subscribeAll hsound.roomy number filter given _,
      dispatcher?_subscribeAll hsound.roomy number filter given _ (hfirst ▸ hindex)⟩
  | unsubscribe =>
    intro tree' leaf' handle hslot
    rw [handle?_unsubscribeAll] at hslot
    split at hslot
    · simp at hslot
    · exact .inl hslot
  | begin => exact hkept _
  | report => exact hkept _
  | dispatch => exact hkept _
  | reset => exact hkept _
  | clearSession => exact hkept _
  | suspendLeaf => exact hkept _
  | suspendKey => exact hkept _

/-- Subscriptions that come from the first index only keep all leaves subscribed to it. -/
theorem SingleIndex.of_gains (h : SingleIndex w) (hgains : GainsFromFirst w next) :
    SingleIndex next := by
  intro tree leaf handle hslot
  rcases hgains tree leaf handle hslot with hold | ⟨_, hfirst, _⟩
  · exact h tree leaf handle hold
  · exact hfirst

/-- Evaluations stay timely in a step in which no leaf inherits a suspended key. -/
theorem TimelyIn.of_gains (h : TimelyIn w next) (hgains : GainsFromFirst w next)
    (hinherits : ¬ Inherits w next) : TimelyIn next next := by
  intro number attempt hattempt leaf handle hslot hsuspended
  rcases hgains attempt.tree leaf handle hslot with hold | ⟨hnone, _, hattempts, _⟩
  · exact h number attempt hattempt leaf handle hold hsuspended
  · rw [attempt?, hattempts] at hattempt
    refine (Bool.not_eq_false _).mp fun hopen => hinherits ?_
    exact ⟨number, attempt, leaf, handle, hattempt, hnone, hslot, hsuspended, hopen⟩

/-- No leaf of a timely evaluation is suspended too early. -/
theorem TimelyIn.not_premature (h : TimelyIn w w) (hsound : Sound w log) : ¬ Premature w := by
  intro hparts
  rcases hparts with ⟨number, attempt, index, key, entry, hattempt, hindex, hentry, htree, hsuspended, hopen⟩
  have hslot := (hsound.active 0 index hindex _ _ key).mpr ⟨entry, hentry, rfl, rfl⟩
  rw [htree] at hslot
  have hdecided := h number attempt hattempt entry.leaf _ hslot hsuspended
  rw [hopen] at hdecided
  simp at hdecided

/-- An undecided leaf that inherits a suspended key is suspended too early. -/
theorem Inherits.premature (h : Inherits w next) (hgains : GainsFromFirst w next)
    (hsound : Sound next log) : Premature next := by
  obtain ⟨number, attempt, leaf, handle, hattempt, hnone, hslot, hsuspended, hopen⟩ := h
  rcases hgains attempt.tree leaf handle hslot with hold | ⟨_, hfirst, hattempts, index, hindex⟩
  · rw [hnone] at hold
    simp at hold
  · have hslot' : next.handle? attempt.tree leaf = some ⟨0, handle.key⟩ := by
      rw [hslot, ← hfirst]
    obtain ⟨entry, hentry, htree, hleaf⟩ := (hsound.active 0 index hindex _ _ _).mp hslot'
    have hattempt' : next.attempt? number = some attempt := by
      rw [attempt?, hattempts]
      exact hattempt
    exact ⟨number, attempt, index, handle.key, entry, hattempt', hindex, hentry, htree, hsuspended,
      hleaf ▸ hopen⟩

variable [BEq φ] (resolve : String → Option Path) {steps : List (IndexStep φ)}

/-- As long as no leaf inherits a suspended key all evaluations stay timely. -/
theorem timelyIn_run (hsound : Sound w log) (hsingle : SingleIndex w) (htimely : TimelyIn w w)
    (hordinary : ∀ step ∈ steps, Ordinary step)
    (hinherits : ∀ earlier step later, steps = earlier ++ step :: later →
      ¬ Inherits (run resolve earlier w) (run resolve (earlier ++ [step]) w)) :
    TimelyIn (run resolve steps w) (run resolve steps w) := by
  induction steps generalizing w log with
  | nil => exact htimely
  | cons step steps ih =>
    have hstep := hordinary step List.mem_cons_self
    have hmove := move_indexStep resolve w step
    have hgains := gainsFromFirst_move hsound hmove hstep
    have hfirst := timelyIn_move htimely hsound hsingle hmove hstep
    refine ih (hsound.indexStep resolve step) (hsingle.of_gains hgains)
      (hfirst.of_gains hgains (hinherits [] step steps rfl))
      (fun other hother => hordinary other (List.mem_cons_of_mem _ hother)) ?_
    intro earlier other later hsplit
    exact hinherits (step :: earlier) other later (congrArg (step :: ·) hsplit)

/-- In a run of ordinary steps an undecided leaf is suspended at some point exactly if at some point
a leaf inherits a key that is suspended in an evaluation in which the leaf is undecided. -/
theorem premature_iff_inherits (hordinary : ∀ step ∈ steps, Ordinary step) :
    (∃ earlier later, steps = earlier ++ later ∧ Premature (run resolve earlier (.new .empty))) ↔
      ∃ earlier step later, steps = earlier ++ step :: later ∧
        Inherits (run resolve earlier (.new .empty))
          (run resolve (earlier ++ [step]) (.new .empty)) := by
  have hsound := fun steps =>
    (sound_new : Sound (.new (.empty : PredicateIndex φ)) []).run resolve steps
  constructor
  · intro hparts
    rcases hparts with ⟨earlier, later, rfl, hpremature⟩
    refine Classical.byContradiction fun hnever => ?_
    have hsingle : SingleIndex (.new (.empty : PredicateIndex φ)) := by
      intro tree leaf handle hslot
      simp [handle?, planted?, new] at hslot
    have htimely : TimelyIn (.new (.empty : PredicateIndex φ)) (.new .empty) := by
      intro number attempt hattempt
      simp [attempt?, new] at hattempt
    have hrun := timelyIn_run resolve sound_new hsingle htimely
      (fun step hstep => hordinary step (List.mem_append_left later hstep)) ?_
    · exact hrun.not_premature (hsound earlier) hpremature
    · intro before step after heq hinherits
      subst heq
      exact hnever ⟨before, step, after ++ later, by simp, hinherits⟩
  · intro hparts
    rcases hparts with ⟨earlier, step, later, rfl, hinherits⟩
    refine ⟨earlier ++ [step], later, by simp, ?_⟩
    have hlast : run resolve (earlier ++ [step]) (.new (.empty : PredicateIndex φ))
        = ((run resolve earlier (.new .empty)).indexStep resolve step).1 := List.foldl_append
    have hgains := gainsFromFirst_move (hsound earlier) (move_indexStep resolve _ step)
      (hordinary step (List.mem_append_right earlier List.mem_cons_self))
    rw [← hlast] at hgains
    exact hinherits.premature hgains (hsound (earlier ++ [step]))

/-- The attributes of the filter in `keysGivenAgain`. -/
def threePaths (name : String) : Option Path :=
  some (if name = "a" then ⟨[0], false⟩ else if name = "b" then ⟨[1], false⟩ else ⟨[2], false⟩)

/-- The tree of a filter is subscribed anew, after a purge, in the middle of an evaluation in which
the last leaf is suspended. The first leaf gets the key of the last one. -/
def keysGivenAgain : List (IndexStep Nat) :=
  [.basic (.compile (.join .and [.test "c" .isNull,
      .join .or [.test "b" .isNull, .test "a" .isNull]])),
    .basic (.subscribe 0 none 7 0), .basic (.begin 0 (some 0)),
    .dispatch 0 7 (.inl "b") none 0, .basic (.unsubscribe 0 none), .purge 0,
    .basic (.subscribe 0 none 7 0)]

/-- All steps of `keysGivenAgain` are ordinary. -/
theorem ordinary_keysGivenAgain : ∀ step ∈ keysGivenAgain, Ordinary step := by
  simp [keysGivenAgain, Ordinary]

/-- After `keysGivenAgain` the first leaf is suspended although it is undecided. -/
theorem premature_keysGivenAgain : Premature (run threePaths keysGivenAgain (.new .empty)) :=
  ⟨0, _, _, 2, _, rfl, rfl, rfl, rfl, by decide +kernel, by decide +kernel⟩

/-- The value that would decide the filter is not looked at. -/
theorem undecided_leaf_passed_over :
    (∀ step ∈ keysGivenAgain, Ordinary step) ∧
    Premature (run threePaths keysGivenAgain (.new .empty)) ∧
    ((run threePaths (keysGivenAgain ++ [.dispatch 0 7 (.inl "c") none 0]) (.new .empty)).attempt?
      0).map (·.context.verdict) = some none :=
  ⟨ordinary_keysGivenAgain, premature_keysGivenAgain, by decide +kernel⟩

/-- In `keysGivenAgain` a leaf inherits a suspended key. -/
theorem premature_iff_inherits_keysGivenAgain :
    ∃ earlier step later, keysGivenAgain = earlier ++ step :: later ∧
      Inherits (run threePaths earlier (.new .empty))
        (run threePaths (earlier ++ [step]) (.new .empty)) :=
  (premature_iff_inherits threePaths ordinary_keysGivenAgain).mp
    ⟨keysGivenAgain, [], (List.append_nil _).symm, premature_keysGivenAgain⟩

end Percolator.Workspace
