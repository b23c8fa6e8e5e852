import Percolator.Proofs.Evaluation.ShortCircuit
import Percolator.Proofs.Workspace.Moves
import Percolator.Recorder

/-!
# Evaluations that are recorded

In a workspace of recorders a leaf that is subscribed, and whose recorder is still there, is recorded
under its own number. So as long as all leaves of a tree are, an evaluation of the tree goes on as if
suspending a leaf were writing its number down, whatever else is done in the workspace. Main statement:
after any steps of such a workspace that make orderly reports into a new evaluation, its session holds
exactly the leaves that were decided without being reported, once each.
-/

namespace Percolator

/-- The evaluation that a step changes, if it is about one. -/
def Step.attempt? {φ : Type} : Step φ → Option Nat
  | .report number _ _ => some number
  | .reportLeaf number _ _ _ => some number
  | .suspendLeaf number _ _ => some number
  | .reset number => some number
  | .clearSession number => some number
  | _ => none

/-- The report that a step makes into an evaluation, if it makes one. -/
def Step.reportTo? {φ : Type} (number : Nat) : Step φ → Option (Nat × Bool)
  | .report given leaf result => if given = number then some (leaf, result) else none
  | _ => none

namespace Workspace

section Steps

variable {δ φ σ : Type} [Dispatcher δ φ σ]

/-- What a step may do to a workspace. -/
inductive Effect (resolve : String → Option Path) (dispatcher : δ) (w : Workspace δ σ) :
    Step φ → Workspace δ σ → Prop
  /-- A step that is refused, or that only looks, changes nothing. -/
  | stay (step : Step φ) : Effect resolve dispatcher w step w
  | plant {e : Expr} {tree : Tree} (htree : e.compile resolve = .ok tree) :
      Effect resolve dispatcher w (.compile e) (w.plant tree).1
  | drop {tree : Nat} (leaves : List Nat) :
      Effect resolve dispatcher w (.drop tree) (w.drop tree leaves)
  | addDispatcher : Effect resolve dispatcher w .newDispatcher (w.addDispatcher dispatcher).1
  | dropDispatcher (number : Nat) :
      Effect resolve dispatcher w (.dropDispatcher number) (w.dropDispatcher number)
  | subscribe (tree number : Nat) (filter : φ) (leaf : Option Nat) (leaves : List Nat) :
      Effect resolve dispatcher w (.subscribe tree leaf filter number)
        (w.subscribeAll number filter tree leaves).1
  | unsubscribe (tree : Nat) (leaf : Option Nat) (leaves : List Nat) :
      Effect resolve dispatcher w (.unsubscribe tree leaf) (w.unsubscribeAll tree leaves)
  /-- A step may start or change an evaluation. -/
  | attempts (step : Step φ) {attempts : Array (Option (Attempt σ))}
      (hothers : ∀ number found, step.attempt? ≠ some number → w.attempt? number = some found →
        ({ w with attempts } : Workspace δ σ).attempt? number = some found) :
      Effect resolve dispatcher w step { w with attempts }

variable {resolve : String → Option Path} {dispatcher : δ} {w next : Workspace δ σ} {number : Nat}
  {step : Step φ} {found : Attempt σ}

/-- Changing an evaluation is what a step about it may do. -/
theorem effect_setAttempt (hstep : step.attempt? = some number) (attempt : Attempt σ) :
    Effect resolve dispatcher w step (w.setAttempt number attempt) := by
  refine .attempts step fun other found hother hfound => ?_
  refine (attempt?_setAttempt_of_ne w (fun heq => hother ?_) attempt).trans hfound
  rw [heq, hstep]

/-- A step leaves an evaluation alone that it is not about, unless it drops the tree. -/
theorem attempt?_of_effect (hroomy : w.Roomy) (heffect : Effect resolve dispatcher w step next)
    (h : w.attempt? number = some found) (hstep : step.attempt? ≠ some number)
    (htree : next.tree? found.tree ≠ none) : next.attempt? number = some found := by
  cases heffect with
  | stay => exact h
  | plant => exact h
  | drop leaves =>
    refine attempt?_drop h (fun heq => htree ?_) _
    rw [tree?_drop, if_pos heq]
  | addDispatcher => exact h
  | dropDispatcher => exact h
  | subscribe => rw [attempt?, attempts_subscribeAll hroomy, ← attempt?, h]
  | unsubscribe => rw [attempt?, attempts_unsubscribeAll, ← attempt?, h]
  | attempts _ hothers => exact hothers number found hstep h

/-- Reporting is. -/
theorem effect_report (hstep : step.attempt? = some number) (leaf : Nat) (result : Bool) :
    Effect resolve dispatcher w step (w.report number leaf result).1 := by
  refine withAttempt_induct (P := Effect resolve dispatcher w step) (.stay _) fun attempt _ => ?_
  refine withTree_induct (P := Effect resolve dispatcher w step) (.stay _) fun planted _ => ?_
  exact effect_setAttempt hstep _

/-- Changing the session is. -/
theorem effect_changeSession (hstep : step.attempt? = some number) (change : σ → σ) :
    Effect resolve dispatcher w step (w.changeSession number change).1 :=
  withAttempt_induct (P := Effect resolve dispatcher w step) (.stay _) fun _ _ =>
    effect_setAttempt hstep _

variable [Session σ]

/-- Every step has one of these effects. -/
theorem effect_step (resolve : String → Option Path) (dispatcher : δ) (w : Workspace δ σ)
    (step : Step φ) : Effect resolve dispatcher w step (w.step resolve dispatcher step).1 := by
  cases step with
  | compile e =>
    rw [Workspace.step]
    split
    · exact .stay _
    · exact .plant ‹_›
  | drop tree =>
    exact withTree_induct (P := Effect resolve dispatcher w _) (.stay _) fun _ _ => .drop _
  | newDispatcher => exact .addDispatcher
  | dropDispatcher number =>
    exact withDispatcher_induct (P := Effect resolve dispatcher w _) (.stay _) fun _ _ =>
      .dropDispatcher number
  | subscribe tree leaf filter number =>
    refine withDispatcher_induct (P := Effect resolve dispatcher w _) (.stay _) fun _ _ => ?_
    refine withTree_induct (P := Effect resolve dispatcher w _) (.stay _) fun planted _ => ?_
    cases leaf with
    | none => exact .subscribe tree number filter none planted.tree.leafIds
    | some leaf =>
      have hone : Effect resolve dispatcher w (.subscribe tree (some leaf) filter number) _ :=
        .subscribe tree number filter (some leaf) [leaf]
      rw [subscribeAll_singleton] at hone
      dsimp only
      split
      · exact .stay _
      · exact hone
  | unsubscribe tree leaf =>
    cases leaf with
    | none =>
      exact withTree_induct (P := Effect resolve dispatcher w _) (.stay _) fun planted _ =>
        .unsubscribe tree none planted.tree.leafIds
    | some leaf =>
      exact withLeaf_induct (P := Effect resolve dispatcher w _) (.stay _) fun _ _ _ _ =>
        .unsubscribe tree (some leaf) [leaf]
  | begin tree number =>
    have hbegin : ∀ planted session, Effect resolve dispatcher w (.begin tree number)
        (w.begin tree planted session).1 := fun planted session =>
      .attempts _ fun _ _ _ hfound => attempt?_begin hfound tree planted session
    cases number with
    | none =>
      exact withTree_induct (P := Effect resolve dispatcher w _) (.stay _) fun _ _ => hbegin _ _
    | some number =>
      refine withTree_induct (P := Effect resolve dispatcher w _) (.stay _) fun _ _ => ?_
      exact withDispatcher_induct (P := Effect resolve dispatcher w _) (.stay _) fun _ _ =>
        hbegin _ _
  | report number leaf result => exact effect_report rfl leaf result
  | reportLeaf number tree leaf result =>
    refine withAttempt_induct (P := Effect resolve dispatcher w _) (.stay _) fun _ _ => ?_
    refine withLeaf_induct (P := Effect resolve dispatcher w _) (.stay _) fun _ _ _ _ => ?_
    split
    · exact effect_report rfl leaf result
    · exact .stay _
  | isDecided number tree leaf =>
    refine withAttempt_induct (P := Effect resolve dispatcher w _) (.stay _) fun _ _ => ?_
    refine withLeaf_induct (P := Effect resolve dispatcher w _) (.stay _) fun _ _ _ _ => ?_
    dsimp only
    split <;> exact .stay _
  | suspendLeaf number tree leaf =>
    exact withLeaf_induct (P := Effect resolve dispatcher w _) (.stay _) fun _ _ _ _ =>
      effect_changeSession rfl _
  | reset number =>
    refine withAttempt_induct (P := Effect resolve dispatcher w _) (.stay _) fun _ _ => ?_
    exact withTree_induct (P := Effect resolve dispatcher w _) (.stay _) fun _ _ =>
      effect_setAttempt rfl _
  | clearSession number => exact effect_changeSession rfl _

/-- A workspace after steps, whatever they answered. -/
def runSteps (resolve : String → Option Path) (dispatcher : δ) (steps : List (Step φ))
    (w : Workspace δ σ) : Workspace δ σ :=
  steps.foldl (fun w step => (w.step resolve dispatcher step).1) w

end Steps

variable {φ : Type} {w next : Workspace (Recorder φ) (List Nat)}

/-- A leaf that is subscribed to a recorder still there is recorded under its own number. -/
structure Recorded (w : Workspace (Recorder φ) (List Nat)) : Prop where
  roomy : w.Roomy
  numbered : ∀ tree found, w.tree? tree = some found → found.Numbered
  known : ∀ tree leaf handle, w.handle? tree leaf = some handle →
    handle.dispatcher < w.dispatchers.size
  own : ∀ tree leaf handle recorder, w.handle? tree leaf = some handle →
    w.dispatcher? handle.dispatcher = some recorder →
    recorder.recordings[handle.key]?.map Recording.leaf = some leaf

/-- No leaf gets a subscription, and what was recorded stays so. -/
structure Dwindles (w next : Workspace (Recorder φ) (List Nat)) : Prop where
  roomy : w.Roomy → next.Roomy
  trees : ∀ tree found, next.tree? tree = some found → w.tree? tree = some found ∨ found.Numbered
  size : w.dispatchers.size ≤ next.dispatchers.size
  handles : ∀ tree leaf handle, next.handle? tree leaf = some handle →
    w.handle? tree leaf = some handle
  recorders : ∀ number < w.dispatchers.size, ∀ recorder, next.dispatcher? number = some recorder →
    ∃ before, w.dispatcher? number = some before ∧ ∀ key : Nat,
      recorder.recordings[key]?.map Recording.leaf = before.recordings[key]?.map Recording.leaf

namespace Dwindles

/-- Nothing is lost where nothing changes. -/
theorem refl (w : Workspace (Recorder φ) (List Nat)) : Dwindles w w :=
  ⟨id, fun _ _ => .inl, Nat.le_refl _, fun _ _ _ => id,
    fun _ _ recorder h => ⟨recorder, h, fun _ => rfl⟩⟩

/-- What both parts of a run keep is kept by the whole. -/
theorem trans {last : Workspace (Recorder φ) (List Nat)} (h : Dwindles w next)
    (h' : Dwindles next last) : Dwindles w last := by
  refine ⟨h'.roomy ∘ h.roomy,
    fun tree found hfound => (h'.trees tree found hfound).elim (h.trees tree found) .inr,
    Nat.le_trans h.size h'.size,
    fun tree leaf handle hslot => h.handles _ _ _ (h'.handles _ _ _ hslot),
    fun number hnumber recorder hlast => ?_⟩
  obtain ⟨between, hbetween, hsame'⟩ :=
    h'.recorders number (Nat.lt_of_lt_of_le hnumber h.size) recorder hlast
  obtain ⟨before, hbefore, hsame⟩ := h.recorders number hnumber between hbetween
  exact ⟨before, hbefore, fun key => (hsame' key).trans (hsame key)⟩

/-- Giving up a subscription marks its recording as cancelled. -/
theorem unsubscribe (w : Workspace (Recorder φ) (List Nat)) (tree leaf : Nat) :
    Dwindles w (w.unsubscribe tree leaf) := by
  cases hslot : w.handle? tree leaf with
  | none =>
    rw [unsubscribe_of_handle?_eq_none hslot]
    exact .refl w
  | some handle =>
    refine ⟨fun hroomy => hroomy.unsubscribe tree leaf,
      fun other found hfound => .inl ((tree?_unsubscribe w tree leaf other).symm.trans hfound),
      Nat.le_of_eq (size_dispatchers_unsubscribe w tree leaf).symm,
      fun tree' leaf' handle' hhandle' => ?_, fun number _ recorder hrecorder => ?_⟩
    · rw [handle?_unsubscribe] at hhandle'
      split at hhandle'
      · simp at hhandle'
      · exact hhandle'
    · rw [dispatcher?_unsubscribe hslot] at hrecorder
      split at hrecorder
      · obtain ⟨before, hbefore, rfl⟩ := Option.map_eq_some_iff.mp hrecorder
        refine ⟨before, hbefore, fun key => ?_⟩
        dsimp only [Dispatcher.cancel]
        rw [Array.getElem?_modify]
        split
        · rw [Option.map_map]
          rfl
        · rfl
      · exact ⟨recorder, hrecorder, fun _ => rfl⟩

/-- Giving up subscriptions marks their recordings as cancelled. -/
theorem unsubscribeAll (w : Workspace (Recorder φ) (List Nat)) (tree : Nat) (leaves : List Nat) :
    Dwindles w (w.unsubscribeAll tree leaves) := by
  unfold Workspace.unsubscribeAll
  induction leaves generalizing w with
  | nil => exact .refl w
  | cons leaf leaves ih => exact (unsubscribe w tree leaf).trans (ih _)

/-- A tree that is dropped takes its subscriptions along. -/
theorem drop (w : Workspace (Recorder φ) (List Nat)) (tree : Nat) (leaves : List Nat) :
    Dwindles w (w.drop tree leaves) := by
  have hgiven := unsubscribeAll w tree leaves
  refine ⟨fun hroomy other planted hplanted => ?_, fun other found hfound => ?_, hgiven.size,
    fun tree' leaf handle => handle?_of_drop, hgiven.recorders⟩
  · rw [Workspace.drop, planted?_remove] at hplanted
    split at hplanted
    · simp at hplanted
    · exact hgiven.roomy hroomy other planted hplanted
  · rw [Workspace.drop, tree?, planted?_remove] at hfound
    split at hfound
    · simp at hfound
    · exact hgiven.trees other found hfound

/-- What becomes of the evaluations does not matter. -/
theorem attempts (w : Workspace (Recorder φ) (List Nat))
    (attempts : Array (Option (Attempt (List Nat)))) : Dwindles w { w with attempts } := by
  have h := refl w
  exact ⟨h.roomy, h.trees, h.size, h.handles, h.recorders⟩

/-- A new tree has no subscriptions. -/
theorem plant (w : Workspace (Recorder φ) (List Nat)) {tree : Tree} (htree : tree.Numbered) :
    Dwindles w (w.plant tree).1 := by
  refine ⟨fun hroomy => hroomy.plant tree, fun other found hfound => ?_, Nat.le_refl _,
    fun other leaf handle hslot => ?_, (refl w).recorders⟩
  · rw [tree?, planted?_plant] at hfound
    split at hfound
    · exact .inr (Option.some.inj hfound ▸ htree)
    · exact .inl hfound
  · rwa [handle?_plant] at hslot

/-- A new recorder is none of those before. -/
theorem addDispatcher (w : Workspace (Recorder φ) (List Nat)) (recorder : Recorder φ) :
    Dwindles w (w.addDispatcher recorder).1 := by
  refine ⟨id, (refl w).trees, ?_, (refl w).handles, fun number hnumber found hfound => ?_⟩
  · rw [Workspace.addDispatcher, Array.size_push]
    exact Nat.le_succ _
  · rw [dispatcher?_addDispatcher, if_neg (Nat.ne_of_lt hnumber)] at hfound
    exact ⟨found, hfound, fun _ => rfl⟩

/-- A recorder that is dropped records nothing any more. -/
theorem dropDispatcher (w : Workspace (Recorder φ) (List Nat)) (number : Nat) :
    Dwindles w (w.dropDispatcher number) := by
  refine ⟨id, (refl w).trees, Nat.le_of_eq Array.size_setIfInBounds.symm, (refl w).handles,
    fun other _ found hfound => ?_⟩
  rw [dispatcher?_dropDispatcher] at hfound
  split at hfound
  · simp at hfound
  · exact ⟨found, hfound, fun _ => rfl⟩

end Dwindles

namespace Recorded

/-- In a new workspace no leaf is subscribed. -/
theorem new (recorder : Recorder φ) : Recorded (.new recorder) := by
  have hnone : ∀ tree leaf handle, (Workspace.new recorder : Workspace (Recorder φ)
      (List Nat)).handle? tree leaf ≠ some handle := by
    simp [handle?, planted?, Workspace.new]
  refine ⟨fun tree planted hplanted => ?_, fun tree found hfound => ?_,
    fun tree leaf handle h => absurd h (hnone _ _ _),
    fun tree leaf handle _ h => absurd h (hnone _ _ _)⟩
  · simp [planted?, Workspace.new] at hplanted
  · simp [tree?, planted?, Workspace.new] at hfound

/-- Subscriptions that are left are recorded as before. -/
theorem of_dwindles (h : Recorded w) (hdwindles : Dwindles w next) : Recorded next := by
  refine ⟨hdwindles.roomy h.roomy,
    fun tree found hfound => (hdwindles.trees tree found hfound).elim (h.numbered tree found) id,
    fun tree leaf handle hslot => ?_, fun tree leaf handle recorder hslot hrecorder => ?_⟩
  · exact Nat.lt_of_lt_of_le (h.known tree leaf handle (hdwindles.handles _ _ _ hslot))
      hdwindles.size
  · have hbefore := hdwindles.handles _ _ _ hslot
    obtain ⟨before, hfound, hsame⟩ :=
      hdwindles.recorders _ (h.known tree leaf handle hbefore) recorder hrecorder
    rw [hsame]
    exact h.own tree leaf handle before hbefore hfound

/-- A leaf that is subscribed is recorded last. -/
theorem subscribe (h : Recorded w) {number tree id : Nat} {filter : φ}
    (hnext : w.subscribe number filter tree id = (next, .ok ())) : Recorded next := by
  obtain ⟨recorder, found, leaf, hrecorder, htree, hleaf, hentered⟩ :=
    entered_of_subscribe h.roomy hnext
  rw [(h.numbered tree found htree).leaves id leaf hleaf] at hentered
  refine ⟨hentered.roomy,
    fun other found hfound => h.numbered other found ((hentered.trees other).symm.trans hfound),
    fun tree' leaf' handle hslot => ?_, fun tree' leaf' handle recorder' hslot hfound => ?_⟩
  · rw [hentered.size]
    rw [hentered.handles] at hslot
    split at hslot
    · rw [← Option.some.inj hslot]
      exact lt_size_of_dispatcher? hrecorder
    · exact h.known tree' leaf' handle hslot
  · rw [hentered.dispatchers] at hfound
    rw [hentered.handles] at hslot
    split at hslot
    · rename_i hnew
      rw [← Option.some.inj hslot, if_pos rfl] at hfound
      rw [← Option.some.inj hslot, ← Option.some.inj hfound, hnew.2]
      dsimp only [Dispatcher.subscribe]
      rw [Array.getElem?_push_size]
      rfl
    · split at hfound
      · rename_i hsame
        have hown := h.own tree' leaf' handle recorder hslot (hsame ▸ hrecorder)
        have hkey : handle.key < recorder.recordings.size := by
          refine Nat.lt_of_not_le fun hle => ?_
          simp [Array.getElem?_eq_none hle] at hown
        rw [← Option.some.inj hfound]
        dsimp only [Dispatcher.subscribe]
        rw [Array.getElem?_push, if_neg (Nat.ne_of_lt hkey)]
        exact hown
      · exact h.own tree' leaf' handle recorder' hslot hfound

/-- Leaves that are subscribed are recorded. -/
theorem subscribeAll (h : Recorded w) (number : Nat) (filter : φ) (tree : Nat)
    (leaves : List Nat) : Recorded (w.subscribeAll number filter tree leaves).1 := by
  induction leaves generalizing w with
  | nil => exact h
  | cons leaf leaves ih =>
    rw [Workspace.subscribeAll]
    rcases hs : w.subscribe number filter tree leaf with ⟨next, failure | _⟩
    · rw [subscribe_eq_error hs]
      exact h
    · exact ih (h.subscribe hs)

variable {resolve : String → Option Path}

/-- Steps keep leaves recorded. -/
theorem step (h : Recorded w) (step : Step φ) : Recorded (w.step resolve .empty step).1 := by
  have heffect := effect_step resolve .empty w step
  generalize (w.step resolve .empty step).1 = next at heffect ⊢
  cases heffect with
  | stay => exact h
  | plant hcompile => exact h.of_dwindles (.plant w (Expr.numbered_of_compile hcompile))
  | drop leaves => exact h.of_dwindles (.drop w _ leaves)
  | addDispatcher => exact h.of_dwindles (.addDispatcher w _)
  | dropDispatcher number => exact h.of_dwindles (.dropDispatcher w number)
  | subscribe tree number filter _ leaves => exact h.subscribeAll number filter tree leaves
  | unsubscribe tree _ leaves => exact h.of_dwindles (.unsubscribeAll w tree leaves)
  | attempts => exact h.of_dwindles (.attempts w _)

/-- In a workspace of recorders leaves are recorded. -/
theorem runSteps (h : Recorded w) (steps : List (Step φ)) :
    Recorded (runSteps resolve .empty steps w) := by
  induction steps generalizing w with
  | nil => exact h
  | cons step steps ih => exact ih (h.step step)

end Recorded

/-- All leaves of a tree are subscribed to recorders that are there. -/
structure WhollyRecorded (w : Workspace (Recorder φ) (List Nat)) (treeId : Nat) (tree : Tree) :
    Prop where
  planted : w.tree? treeId = some tree
  leaves : ∀ leaf, (tree.leaf? leaf).isSome = true →
    ((w.handle? treeId leaf).bind fun handle => w.dispatcher? handle.dispatcher).isSome = true

variable {resolve : String → Option Path} {treeId number : Nat} {tree : Tree}

/-- Only the numbers of nodes have to be looked at. -/
theorem whollyRecorded_of_lt (hplanted : w.tree? treeId = some tree)
    (hleaves : ∀ leaf < tree.size, (tree.leaf? leaf).isSome = true →
      ((w.handle? treeId leaf).bind fun handle => w.dispatcher? handle.dispatcher).isSome = true) :
    WhollyRecorded w treeId tree := by
  exact ⟨hplanted, fun leaf hleaf => hleaves leaf (Tree.lt_size_of_isLeaf hleaf) hleaf⟩

/-- Suspending a leaf of such a tree writes its number down. -/
theorem WhollyRecorded.records (hwholly : WhollyRecorded w treeId tree) (h : Recorded w) :
    tree.Records (w.suspend treeId) := by
  intro leaf hleaf session
  obtain ⟨recorder, hbind⟩ := Option.isSome_iff_exists.mp (hwholly.leaves leaf hleaf)
  obtain ⟨handle, hslot, hrecorder⟩ := Option.bind_eq_some_iff.mp hbind
  obtain ⟨recording, hrecording, hown⟩ :=
    Option.map_eq_some_iff.mp (h.own treeId leaf handle recorder hslot hrecorder)
  rw [Workspace.suspend, hslot]
  dsimp only
  rw [hrecorder]
  dsimp only [Dispatcher.suspend]
  rw [hrecording, ← hown]

/-- While all leaves of a tree stay subscribed to recorders, steps make orderly reports into an
evaluation of the tree, and leave it alone otherwise. -/
def OrderlySteps (resolve : String → Option Path) (number treeId : Nat) (tree : Tree) :
    List (Step φ) → Workspace (Recorder φ) (List Nat) → Prop
  | [], w => WhollyRecorded w treeId tree
  | step :: steps, w =>
    WhollyRecorded w treeId tree ∧
      (step.attempt? = some number → ∃ leaf result attempt, step = .report number leaf result ∧
        w.attempt? number = some attempt ∧ attempt.context.isDecided = false ∧
        (tree.leaf? leaf).isSome = true ∧ attempt.context.isDecidedAt leaf = false) ∧
      OrderlySteps resolve number treeId tree steps (w.step resolve .empty step).1

/-- Orderly steps find the tree wholly recorded. -/
theorem OrderlySteps.wholly {steps : List (Step φ)}
    (h : OrderlySteps resolve number treeId tree steps w) : WhollyRecorded w treeId tree := by
  cases steps with
  | nil => exact h
  | cons step steps => exact h.1

/-- A step that reports a leaf of the tree that is evaluated does so with the subscriptions of that
tree. -/
theorem attempt?_report {context : Context (List Nat)} (htree : w.tree? treeId = some tree)
    (hattempt : w.attempt? number = some ⟨treeId, context⟩) (leaf : Nat) (result : Bool) :
    (w.step resolve .empty (.report number leaf result)).1.attempt? number
      = some ⟨treeId, (tree.report (w.suspend treeId) leaf result context).1⟩ := by
  obtain ⟨planted, hplanted, rfl⟩ := Option.map_eq_some_iff.mp htree
  rw [step, report, withAttempt, hattempt]
  dsimp only
  rw [withTree, hplanted]
  exact attempt?_setAttempt hattempt _

/-- Orderly steps keep note of what is suspended. -/
theorem noted_runSteps (hrooted : tree.Rooted) {steps : List (Step φ)} {reported : List Nat}
    {context : Context (List Nat)} (h : Recorded w)
    (horderly : OrderlySteps resolve number treeId tree steps w)
    (hattempt : w.attempt? number = some ⟨treeId, context⟩) (hnoted : Noted tree reported context) :
    ∃ last, (runSteps resolve .empty steps w).attempt? number = some ⟨treeId, last⟩ ∧
      WhollyRecorded (runSteps resolve .empty steps w) treeId tree ∧
      Noted tree (reported ++ (steps.filterMap (Step.reportTo? number)).map Prod.fst) last := by
  induction steps generalizing w reported context with
  | nil =>
    refine ⟨context, hattempt, horderly, ?_⟩
    rw [List.filterMap_nil, List.map_nil, List.append_nil]
    exact hnoted
  | cons step steps ih =>
    obtain ⟨hwholly, hreport, hrest⟩ := horderly
    by_cases habout : step.attempt? = some number
    · obtain ⟨leaf, result, attempt, rfl, hfound, _, hleaf, hopen⟩ := hreport habout
      obtain rfl := Option.some.inj (hattempt.symm.trans hfound)
      have hnext := hnoted.report hrooted (hwholly.records h) hleaf hopen result
      have hlast := ih (h.step _) hrest (attempt?_report hwholly.planted hattempt leaf result) hnext
      rw [List.filterMap_cons, Step.reportTo?, if_pos rfl, List.map_cons, List.append_cons]
      exact hlast
    · have hnone : step.reportTo? number = none := by
        cases step with
        | report given leaf result =>
          rw [Step.reportTo?, if_neg fun heq => habout (congrArg some heq)]
        | _ => rfl
      have hkept := attempt?_of_effect h.roomy (effect_step resolve .empty w step) hattempt habout
        (by rw [hrest.wholly.planted]; simp)
      rw [List.filterMap_cons, hnone]
      exact ih (h.step _) hrest hkept hnoted

/-- An evaluation that is started is new. -/
theorem attempt?_begun {first : Workspace (Recorder φ) (List Nat)} {session : List Nat}
    (hbegin : first.begin treeId tree session = (w, number)) :
    w.attempt? number = some ⟨treeId, .new tree session⟩ := by
  obtain ⟨rfl, rfl⟩ := Prod.mk.inj hbegin
  rw [attempt?, Array.getElem?_push_size]
  rfl

/-- In a workspace of recorders an evaluation is started, and steps make orderly reports into it. Then
its session holds the leaves that were decided without being reported, each of them once. The next
report decides a topmost node, and adds leaves below it. -/
theorem suspended_exactly {e : Expr} (hcompile : e.compile resolve = .ok tree)
    {before after : List (Step φ)}
    (hbegin : (runSteps resolve .empty before (.new .empty)).begin treeId tree [] = (w, number))
    (horderly : OrderlySteps resolve number treeId tree after w) :
    ∃ context, (runSteps resolve .empty after w).attempt? number = some ⟨treeId, context⟩ ∧
      Suspends tree ((after.filterMap (Step.reportTo? number)).map Prod.fst) context ∧
      ∀ leaf result, (tree.leaf? leaf).isSome = true → context.isDecidedAt leaf = false →
        ∃ top next, ((runSteps resolve .empty after w).step resolve .empty
            (.report number leaf result)).1.attempt? number = some ⟨treeId, next⟩ ∧
          Decides tree leaf top context next := by
  have hrooted := Expr.rooted_of_compile hcompile
  have hrecorded : Recorded w := by
    have hbefore : Recorded (runSteps resolve .empty before (.new .empty)) :=
      (Recorded.new .empty).runSteps before
    rw [← (Prod.mk.inj hbegin).1]
    exact hbefore.of_dwindles (.attempts _ _)
  obtain ⟨context, hlast, hwholly, hnoted⟩ :=
    noted_runSteps hrooted hrecorded horderly (attempt?_begun hbegin) (Noted.new hcompile)
  rw [List.nil_append] at hnoted
  refine ⟨context, hlast, hnoted.suspends, fun leaf result hleaf hopen => ?_⟩
  have hrecords := hwholly.records (hrecorded.runSteps after)
  obtain ⟨top, hdecides⟩ := hrecords.decides_report hrooted hnoted.shadowed hleaf hopen result
  exact ⟨top, _, attempt?_report hwholly.planted hlast leaf result, hdecides⟩

/-- All attributes are the same one. -/
def onePath : String → Option Path := fun _ => some ⟨[0], false⟩

/-- Two trees of `nestedFilter`, of which the first is subscribed. -/
def recordedSetup : List (Step Nat) :=
  [.compile nestedFilter, .compile nestedFilter, .subscribe 0 none 7 0]

/-- An evaluation of the tree that is subscribed. -/
def recordedStart : Workspace (Recorder Nat) (List Nat) :=
  ((runSteps onePath .empty recordedSetup (.new .empty)).begin 0 nestedTree []).1

/-- The conjunction fails, and the other tree is subscribed as well. -/
def recordedSteps : List (Step Nat) := [.report 0 2 false, .subscribe 1 none 8 0]

/-- When the conjunction has failed, its other leaf is suspended; the last leaf can be reported, which
decides the root. -/
theorem suspended_exactly_nested :
    let last := runSteps onePath .empty recordedSteps recordedStart
    nestedFilter.compile onePath = .ok nestedTree ∧
      OrderlySteps onePath 0 0 nestedTree recordedSteps recordedStart ∧
      (last.attempt? 0).map (·.context.session) = some [3] ∧
      ∃ context, last.attempt? 0 = some ⟨0, context⟩ ∧ Suspends nestedTree [2] context ∧
        ∃ top next, (last.step onePath .empty (.report 0 4 true)).1.attempt? 0 = some ⟨0, next⟩ ∧
          Decides nestedTree 4 top context next := by
  intro last
  have hcompile : nestedFilter.compile onePath = .ok nestedTree := rfl
  have hbegin : (runSteps onePath .empty recordedSetup (.new .empty)).begin 0 nestedTree []
      = (recordedStart, 0) := rfl
  have hwholly : WhollyRecorded recordedStart 0 nestedTree :=
    whollyRecorded_of_lt rfl (by decide +kernel)
  have hreported : WhollyRecorded (recordedStart.step onePath .empty (.report 0 2 false)).1 0
      nestedTree := whollyRecorded_of_lt rfl (by decide +kernel)
  have hlast : WhollyRecorded (runSteps onePath .empty recordedSteps recordedStart) 0 nestedTree :=
    whollyRecorded_of_lt rfl (by decide +kernel)
  have horderly : OrderlySteps onePath 0 0 nestedTree recordedSteps recordedStart := by
    have hopen : (Context.new nestedTree ([] : List Nat)).isDecided = false := by decide +kernel
    refine ⟨hwholly, fun _ => ⟨2, false, _, rfl, attempt?_begun hbegin, hopen, rfl, ?_⟩, hreported,
      fun habout => ?_, hlast⟩
    · exact Context.isDecidedAt_new rfl []
    · cases habout
  obtain ⟨context, hcontext, hsuspends, hnext⟩ := suspended_exactly hcompile hbegin horderly
  have hopen : (last.attempt? 0).map (·.context.isDecidedAt 4) = some false := by decide +kernel
  rw [hcontext] at hopen
  exact ⟨hcompile, horderly, by decide +kernel, context, hcontext, hsuspends,
    hnext 4 true rfl (Option.some.inj hopen)⟩

end Workspace

end Percolator
