import Percolator.Proofs.Evaluation.Shadow
import Percolator.Proofs.Workspace.Finality
import Percolator.Proofs.Workspace.Interference

/-!
# Values that are dispatched again

A leaf takes no notice of having been reported before, so it depends on the dispatcher that a value
which comes twice does not count twice. Main statement: while an evaluation is watched whose tree stays
wholly subscribed, every value that was dispatched into it on some path is passed over by all leaves
there from then on, since each of them is suspended or decided, or its predicate fails on a repeated
path. So dispatching the value again changes nothing, and on a path that is not repeated no other value
does.
-/

namespace Percolator

open PredicateIndex

namespace Tree

variable {σ : Type} {tree : Tree} {suspend : Nat → σ → σ} {suspended : σ → Nat → Bool}
  {value : Option Value} {context : Context σ} {leaf : Nat} {ids : List Nat}

/-- A leaf that is suspended or decided takes no value, nor does one on a repeated path whose predicate
fails. -/
def PassesOver (tree : Tree) (suspended : σ → Nat → Bool) (value : Option Value)
    (context : Context σ) (leaf : Nat) : Prop :=
  suspended context.session leaf = true ∨ context.isDecidedAt leaf = true ∨
    ∃ found, tree.leaf? leaf = some found ∧ found.path.repeated = true ∧
      found.predicate.accepts value = false

/-- The evaluation is decided, or leaves take no value. -/
def Sated (tree : Tree) (suspended : σ → Nat → Bool) (value : Option Value) (context : Context σ)
    (ids : List Nat) : Prop :=
  context.isDecided = true ∨ ∀ leaf ∈ ids, tree.PassesOver suspended value context leaf

/-- What every report preserves, handing a value to leaves preserves, since it only reports. -/
theorem Invariant.serve {P : Context σ → Prop} (h : Invariant tree suspend P)
    (suspended : σ → Nat → Bool) (value : Option Value) (ids : List Nat) (hp : P context) :
    P (tree.serve suspend suspended value ids context).1 := by
  induction ids generalizing context with
  | nil => exact hp
  | cons id ids ih =>
    rw [Tree.serve]
    split
    · exact hp
    · split
      · exact ih hp
      · split
        · exact ih hp
        · dsimp only
          split
          · exact ih hp
          · split
            · rename_i next hresult
              have hnext : _ = next := congrArg Prod.fst hresult
              exact ih (hnext ▸ h.report _ _ context hp)
            · exact h.report _ _ context hp

/-- A leaf that takes no value never takes one again, if suspending a leaf resumes no other. -/
theorem invariant_passesOver (hkept : ∀ id, (tree.leaf? id).isSome = true → ∀ session,
      suspended session leaf = true → suspended (suspend id session) leaf = true)
    (value : Option Value) :
    Invariant tree suspend fun context => tree.PassesOver suspended value context leaf := by
  have hdecided := invariant_isDecidedAt tree suspend leaf
  refine ⟨fun context id value' h => ?_, fun context id hid hself h => ?_,
    fun context id hopen h => ?_⟩
  · exact h.imp_right fun hrest => hrest.imp_left (hdecided.mark context id value')
  · exact h.imp_left (hkept id hid context.session)
  · exact h.imp_right fun hrest => hrest.imp_left (hdecided.countDown context id hopen)

/-- Leaves that take no value are handed it in vain. -/
theorem serve_of_sated (h : tree.Sated suspended value context ids) (suspend : Nat → σ → σ) :
    tree.serve suspend suspended value ids context = (context, .ok none) := by
  induction ids with
  | nil => rfl
  | cons id ids ih =>
    have hrest := ih (h.imp_right fun hall leaf hmem => hall leaf (List.mem_cons_of_mem _ hmem))
    rw [serve]
    split
    · rfl
    · rename_i hopen
      split
      · exact hrest
      · rename_i hresumed
        split
        · exact hrest
        · rename_i leaf hleaf
          dsimp only
          rw [if_pos]
          · exact hrest
          · rcases (h.resolve_left hopen) id List.mem_cons_self with
              hsuspended | hdecided | ⟨found, hfound, hrepeated, hfails⟩
            · exact absurd hsuspended hresumed
            · rw [hdecided, Bool.true_or]
            · obtain rfl := Option.some.inj (hleaf.symm.trans hfound)
              rw [hrepeated, hfails, Bool.not_false, Bool.and_self, Bool.or_true]

end Tree

/-- Handing a value to leaves sates them. -/
theorem Shadowed.serve {σ : Type} {tree : Tree} {suspend : Nat → σ → σ}
    {suspended : σ → Nat → Bool} {context : Context σ} {ids : List Nat}
    (h : Shadowed tree context) (hrooted : tree.Rooted)
    (hids : ∀ leaf ∈ ids, (tree.leaf? leaf).isSome = true)
    (hkept : ∀ leaf, (tree.leaf? leaf).isSome = true → ∀ id, (tree.leaf? id).isSome = true →
      ∀ session, suspended session leaf = true → suspended (suspend id session) leaf = true)
    (value : Option Value) :
    Shadowed tree (tree.serve suspend suspended value ids context).1 ∧
      tree.Sated suspended value (tree.serve suspend suspended value ids context).1 ids := by
  induction ids generalizing context with
  | nil => exact ⟨h, .inr fun _ hmem => absurd hmem List.not_mem_nil⟩
  | cons id ids ih =>
    have hid := hids id List.mem_cons_self
    have hpassed := Tree.invariant_passesOver (hkept id hid) value
    -- A leaf that takes no value is as good as served.
    have hskip : ∀ {next : Context σ}, Shadowed tree next →
        tree.PassesOver suspended value next id →
        Shadowed tree (tree.serve suspend suspended value ids next).1 ∧
          tree.Sated suspended value (tree.serve suspend suspended value ids next).1 (id :: ids) := by
      intro next hnext hpasses
      obtain ⟨hlast, hsated⟩ := ih hnext fun leaf hmem => hids leaf (List.mem_cons_of_mem _ hmem)
      refine ⟨hlast, hsated.imp_right fun hall leaf hmem => ?_⟩
      rcases List.mem_cons.mp hmem with rfl | hmem
      · exact hpassed.serve suspended value ids hpasses
      · exact hall leaf hmem
    rw [Tree.serve]
    split
    · exact ⟨h, .inl ‹_›⟩
    · split
      · exact hskip h (.inl ‹_›)
      · split
        · rename_i hnone
          simp [hnone] at hid
        · rename_i leaf hleaf
          dsimp only
          split
          · rename_i hcases
            refine hskip h (.inr ?_)
            rcases Bool.or_eq_true_iff.mp hcases with hdecided | hfails
            · exact .inl hdecided
            · obtain ⟨hrepeated, hfails⟩ := Bool.and_eq_true_iff.mp hfails
              rw [Bool.not_eq_true'] at hfails
              exact .inr ⟨leaf, hleaf, hrepeated, hfails⟩
          · rename_i hcases
            have hopen : context.isDecidedAt id = false :=
              (Bool.or_eq_false_iff.mp (Bool.not_eq_true _ ▸ hcases)).1
            have hshadowed := h.report hrooted suspend id (leaf.predicate.accepts value)
            obtain ⟨next, answer, hreport, hdecided, hverdict⟩ :=
              h.report_of_open hrooted hid hopen suspend (leaf.predicate.accepts value)
            rw [hreport] at hshadowed ⊢
            cases answer with
            | none => exact hskip hshadowed (.inr (.inl hdecided))
            | some verdict => exact ⟨hshadowed, .inl (hverdict (by simp))⟩

namespace Workspace

variable {φ : Type} [BEq φ] {w : Workspace (PredicateIndex φ) MatchSession}
  {log : List (Handle × φ)} {watch : Watch φ} {index : PredicateIndex φ} {treeId : Nat}
  {tree : Tree} {context : Context MatchSession} {resolve : String → Option Path}
  {path : String ⊕ Path} {place : Path} {value : Option Value}

/-- A value on a path has nothing to say to an evaluation any more. -/
def Delivered (w : Workspace (PredicateIndex φ) MatchSession) (treeId : Nat) (tree : Tree)
    (context : Context MatchSession) (place : Path) (value : Option Value) : Prop :=
  context.isDecided = true ∨ ∀ leaf, tree.waitsAt place leaf = true →
    tree.PassesOver (w.suspendedAt treeId) value context leaf

omit [BEq φ] in
/-- On a path that is not repeated all values are delivered along with one. -/
theorem Delivered.of_not_repeated (h : Delivered w treeId tree context place value)
    (hplace : place.repeated = false) (other : Option Value) :
    Delivered w treeId tree context place other := by
  refine h.imp_right fun hall leaf hwaits => ?_
  refine (hall leaf hwaits).imp_right fun hrest => hrest.imp_right ?_
  rintro ⟨found, hfound, hrepeated, _⟩
  obtain ⟨found', hfound', rfl⟩ := Tree.waitsAt_iff.mp hwaits
  obtain rfl := Option.some.inj (hfound.symm.trans hfound')
  rw [hplace] at hrepeated
  exact absurd hrepeated Bool.false_ne_true

namespace Watched

/-- Dispatching a value on a name is dispatching it on the path of that name. -/
theorem step_dispatch_eq (hplace : path.elim resolve some = some place) (watch : Watch φ)
    (value : Option Value) : w.indexStep resolve ((Event.dispatch path value).step watch)
      = w.dispatch watch.attempt watch.filter place value watch.dispatcher := by
  cases path with
  | inl name =>
    dsimp only [Event.step, indexStep]
    rw [show resolve name = some place from hplace]
  | inr path =>
    obtain rfl : path = place := Option.some.inj hplace
    rfl

/-- Nothing is dispatched on a name that no path has. -/
theorem step_dispatch_unresolved (hplace : path.elim resolve some = none) (watch : Watch φ)
    (value : Option Value) :
    (w.indexStep resolve ((Event.dispatch path value).step watch)).1 = w := by
  cases path with
  | inl name =>
    dsimp only [Event.step, indexStep]
    rw [show resolve name = none from hplace]
  | inr path => cases hplace

variable (hw : Watched w log watch index treeId tree context)

include hw

/-- Delivered values are those that leaves on the path take no more. -/
theorem delivered_iff : Delivered w treeId tree context place value ↔
    tree.Sated (w.suspendedAt treeId) value context (index.leavesAt watch.filter place) := by
  unfold Delivered Tree.Sated
  simp only [hw.wholly.mem_leavesAt hw.sound]

/-- Suspending a leaf resumes no other. -/
theorem suspendedAt_kept (leaf : Nat) (hleaf : (tree.leaf? leaf).isSome = true) (id : Nat)
    (hid : (tree.leaf? id).isSome = true) (session : MatchSession)
    (h : w.suspendedAt treeId session leaf = true) :
    w.suspendedAt treeId (w.suspend treeId id session) leaf = true := by
  rw [hw.wholly.suspendedAt_suspend hw.sound hid hleaf, h, Bool.true_or]

/-- Dispatching a value that was delivered changes nothing. -/
theorem step_delivered (hplace : path.elim resolve some = some place)
    (h : Delivered w treeId tree context place value) :
    w.indexStep resolve ((Event.dispatch path value).step watch) = (w, .ok (.verdict none)) := by
  rw [step_dispatch_eq hplace, hw.dispatch_eq, Tree.serve_of_sated (hw.delivered_iff.mp h),
    Workspace.record]
  exact congrArg (·, _) (setAttempt_self hw.attempt)

variable (hrooted : tree.Rooted) (hshadowed : Shadowed tree context)

include hrooted hshadowed

/-- A value that is dispatched is delivered, and so stays what was delivered before. -/
theorem step_dispatch (hplace : path.elim resolve some = some place) (value : Option Value) :
    ∃ next, Watched (w.indexStep resolve ((Event.dispatch path value).step watch)).1 log watch index
        treeId tree next ∧
      Shadowed tree next ∧
      (∀ place' value', Delivered w treeId tree context place' value' → Delivered
        (w.indexStep resolve ((Event.dispatch path value).step watch)).1 treeId tree next place'
        value') ∧
      Delivered (w.indexStep resolve ((Event.dispatch path value).step watch)).1 treeId tree next
        place value := by
  rw [step_dispatch_eq hplace, hw.dispatch_eq]
  have hids : ∀ leaf ∈ index.leavesAt watch.filter place, (tree.leaf? leaf).isSome = true :=
    fun leaf hmem => Tree.isSome_of_waitsAt ((hw.wholly.mem_leavesAt hw.sound).mp hmem)
  obtain ⟨hnext, hsated⟩ := hshadowed.serve hrooted hids hw.suspendedAt_kept value
  have hlater := hw.record
    (tree.serve (w.suspend treeId) (w.suspendedAt treeId) value (index.leavesAt watch.filter place)
      context)
  refine ⟨_, hlater, hnext, fun place' value' hdelivered => ?_, hlater.delivered_iff.mpr hsated⟩
  rcases hdelivered with hdecided | hall
  · exact .inl ((Tree.invariant_isDecidedAt tree _ 0).serve _ value _ hdecided)
  · refine .inr fun leaf hwaits => ?_
    have hpassed := Tree.invariant_passesOver
      (hw.suspendedAt_kept leaf (Tree.isSome_of_waitsAt hwaits)) value'
    exact hpassed.serve _ value _ (hall leaf hwaits)

/-- Every event keeps what was delivered, and delivers what it dispatches. -/
theorem step_event {event : Event φ}
    (hstays : ∃ index, WhollySubscribed (w.indexStep resolve (event.step watch)).1 watch.dispatcher
      index treeId tree watch.filter)
    (haside : ∀ step, event = .aside step → watch.Aside step) :
    ∃ log index next, Watched (w.indexStep resolve (event.step watch)).1 log watch index treeId tree
        next ∧
      Shadowed tree next ∧
      (∀ place value, Delivered w treeId tree context place value →
        Delivered (w.indexStep resolve (event.step watch)).1 treeId tree next place value) ∧
      ∀ path place value, event = .dispatch path value → path.elim resolve some = some place →
        Delivered (w.indexStep resolve (event.step watch)).1 treeId tree next place value := by
  cases event with
  | dispatch path value =>
    cases hplace : path.elim resolve some with
    | some place =>
      obtain ⟨next, hnext, hstill, hkept, hnew⟩ := hw.step_dispatch hrooted hshadowed hplace value
      refine ⟨log, index, next, hnext, hstill, hkept, fun path' place' value' heq hplace' => ?_⟩
      obtain ⟨rfl, rfl⟩ := Event.dispatch.inj heq
      obtain rfl := Option.some.inj (hplace.symm.trans hplace')
      exact hnew
    | none =>
      rw [step_dispatch_unresolved hplace]
      refine ⟨log, index, context, hw, hshadowed, fun _ _ => id,
        fun path' place' value' heq hplace' => ?_⟩
      obtain ⟨rfl, rfl⟩ := Event.dispatch.inj heq
      rw [hplace] at hplace'
      cases hplace'
  | aside step =>
    obtain ⟨_, hstays⟩ := hstays
    obtain ⟨hnext, _, hsuspended⟩ := hw.step_aside (haside step rfl) hstays
    refine ⟨_, _, context, hnext, hshadowed, fun place value h => ?_, fun path place value heq => ?_⟩
    · refine h.imp_right fun hall leaf hwaits => (hall leaf hwaits).imp_left fun h => ?_
      exact (hsuspended leaf (Tree.isSome_of_waitsAt hwaits) _).trans h
    · cases heq

/-- Whatever happens while the evaluation is watched, the values that were dispatched are delivered. -/
theorem run_delivered {events : List (Event φ)}
    (hstays : ∀ earlier, earlier <+: events → ∃ index, WhollySubscribed
      (run resolve (earlier.map (Event.step watch)) w) watch.dispatcher index treeId tree
      watch.filter)
    (haside : ∀ step, .aside step ∈ events → watch.Aside step) :
    ∃ log index last, Watched (run resolve (events.map (Event.step watch)) w) log watch index treeId
        tree last ∧
      (∀ place value, Delivered w treeId tree context place value → Delivered
        (run resolve (events.map (Event.step watch)) w) treeId tree last place value) ∧
      ∀ path place value, .dispatch path value ∈ events → path.elim resolve some = some place →
        Delivered (run resolve (events.map (Event.step watch)) w) treeId tree last place value := by
  induction events generalizing w log index context with
  | nil =>
    exact ⟨log, index, context, hw, fun _ _ => id,
      fun _ _ _ hmem => absurd hmem List.not_mem_nil⟩
  | cons event events ih =>
    have hlater : ∀ earlier, earlier <+: events → ∃ index, WhollySubscribed
        (run resolve (earlier.map (Event.step watch)) (w.indexStep resolve (event.step watch)).1)
        watch.dispatcher index treeId tree watch.filter :=
      fun earlier hearlier => hstays (event :: earlier) (List.cons_prefix_cons.mpr ⟨rfl, hearlier⟩)
    obtain ⟨_, _, next, hnext, hshadowed, hkept, hnew⟩ :=
      hw.step_event hrooted hshadowed (hlater [] List.nil_prefix) fun step heq =>
        haside step (heq ▸ List.mem_cons_self)
    obtain ⟨log, index, last, hlast, hold, hall⟩ := ih hnext hshadowed hlater
      fun step hstep => haside step (List.mem_cons_of_mem _ hstep)
    refine ⟨log, index, last, hlast, fun place value h => hold place value (hkept place value h),
      fun path place value hmem hplace => ?_⟩
    rcases List.mem_cons.mp hmem with heq | hmem
    · exact hold place value (hnew path place value heq.symm hplace)
    · exact hall path place value hmem hplace

end Watched

omit [BEq φ] in
/-- A workspace without trees holds compiled trees only. -/
theorem compiled_new : Compiled resolve (.new (.empty : PredicateIndex φ)) := by
  intro treeId tree hfound
  simp [tree?, planted?, new] at hfound

/-- Values are dispatched into a new evaluation, whose tree is and stays wholly subscribed for a filter,
while other things happen. Then each of the values is delivered. If one of them is dispatched once more
on its path, nothing is answered and nothing changes; if the path is not repeated, that is so for all
values on it. -/
theorem redelivery_harmless {setup : List (IndexStep φ)} {session : MatchSession}
    (hattempt : (run resolve setup (.new .empty)).attempt? watch.attempt
      = some ⟨treeId, .new tree session⟩) {events : List (Event φ)}
    (hstays : ∀ earlier, earlier <+: events → ∃ index, WhollySubscribed
      (run resolve (earlier.map (Event.step watch)) (run resolve setup (.new .empty)))
      watch.dispatcher index treeId tree watch.filter)
    (haside : ∀ step, .aside step ∈ events → watch.Aside step)
    (hdispatched : .dispatch path value ∈ events) (hplace : path.elim resolve some = some place) :
    let last := run resolve (events.map (Event.step watch)) (run resolve setup (.new .empty))
    (∃ context, last.attempt? watch.attempt = some ⟨treeId, context⟩ ∧
      Delivered last treeId tree context place value) ∧
    ∀ again : String ⊕ Path, again.elim resolve some = some place →
      last.indexStep resolve ((Event.dispatch again value).step watch) = (last, .ok (.verdict none)) ∧
      (place.repeated = false → ∀ other,
        last.indexStep resolve ((Event.dispatch again other).step watch)
          = (last, .ok (.verdict none))) := by
  intro last
  obtain ⟨index, hwholly⟩ := hstays [] List.nil_prefix
  have hsound := sound_new.run resolve setup
  obtain ⟨e, hcompile⟩ := compiled_new.run sound_new setup treeId tree hwholly.planted
  obtain ⟨_, _, context, hlast, _, hall⟩ := Watched.run_delivered ⟨hsound, hwholly, hattempt⟩
    (Expr.rooted_of_compile hcompile) (Shadowed.new hcompile session) hstays haside
  have hdelivered := hall path place value hdispatched hplace
  refine ⟨⟨context, hlast.attempt, hdelivered⟩, fun again hagain => ?_⟩
  exact ⟨hlast.step_delivered hagain hdelivered, fun hrepeated other =>
    hlast.step_delivered hagain (hdelivered.of_not_repeated hrepeated other)⟩

/-- A tag that decides nothing, and that `a` is absent, while the filter for `a` is given up. -/
def untaggedEvents : List (Event Nat) :=
  [.dispatch (.inl "tags") (some (.integer 1)), .aside (.basic (.unsubscribe 0 none)),
    .dispatch (.inl "a") none]

/-- The workspace after `untaggedEvents`. -/
def untagged : Workspace (PredicateIndex Nat) MatchSession :=
  run taggedPath (untaggedEvents.map (Event.step ⟨0, 0, 7⟩))
    (run taggedPath crowdedSetup (.new .empty))

/-- While `b` is awaited, it makes no difference that `a` is dispatched again, absent or not. -/
theorem redelivery_harmless_untagged :
    (untagged.attempt? 0).map (·.context.verdict) = some none ∧
      ∀ other, untagged.indexStep taggedPath (.dispatch 0 7 (.inr ⟨[1], false⟩) other 0)
        = (untagged, .ok (.verdict none)) := by
  have hattempt : (run taggedPath crowdedSetup (.new .empty)).attempt? 0
      = some ⟨1, .new taggedTree (.withCapacity 4)⟩ := rfl
  have hstays : ∀ earlier, earlier <+: untaggedEvents → ∃ index, WhollySubscribed
      (run taggedPath (earlier.map (Event.step ⟨0, 0, 7⟩))
        (run taggedPath crowdedSetup (.new .empty))) 0 index 1 taggedTree 7 := by
    intro earlier hearlier
    have hsound := (sound_new.run taggedPath crowdedSetup).run taggedPath
      (earlier.map (Event.step ⟨0, 0, 7⟩))
    simp only [untaggedEvents, List.prefix_cons_iff, List.prefix_nil] at hearlier
    rcases hearlier with rfl | ⟨_, rfl, rfl | ⟨_, rfl, rfl | ⟨_, rfl, rfl⟩⟩⟩ <;>
      exact whollySubscribed_of_slots hsound rfl (by decide +kernel)
  have haside : ∀ step, Event.aside step ∈ untaggedEvents → Watch.Aside ⟨0, 0, 7⟩ step := by
    intro step hstep habout
    simp only [untaggedEvents, List.mem_cons, List.not_mem_nil, or_false] at hstep
    rcases hstep with h | h | h <;> cases h
    cases habout
  have hdispatched : .dispatch (.inl "a") none ∈ untaggedEvents := by simp [untaggedEvents]
  obtain ⟨_, hagain⟩ : (∃ context, untagged.attempt? 0 = some ⟨1, context⟩ ∧
      Delivered untagged 1 taggedTree context ⟨[1], false⟩ none) ∧ _ :=
    redelivery_harmless hattempt hstays haside hdispatched rfl
  exact ⟨by decide +kernel, (hagain (.inr ⟨[1], false⟩) rfl).2 rfl⟩

end Workspace

end Percolator
