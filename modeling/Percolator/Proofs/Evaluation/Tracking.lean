import Percolator.Proofs.Evaluation.Sweep
import Percolator.Proofs.Expr.Verdict
import Percolator.Proofs.Tree.Layout

/-!
# Counters track statuses

An evaluation tracks what is known if every node that no decided node is above has the counter that
its status asks for: a settled node is decided and so are all leaves below it, an open leaf waits,
and an open operator counts its open operands. Below a settled node nothing else is asked, since the
counters left behind there are never read again. Main statement: reporting an undecided leaf keeps
an evaluation on track, and the report climbs out of every part that it settles.
-/

namespace Percolator

open Percolator.Expr

/-- The status of a condition is the value known of it, turned round if the leaf is negated. -/
theorem Expr.IsLeaf.status_eq {resolve : String → Option Path} {start : Nat} {e : Expr} {leaf : Leaf}
    (h : IsLeaf resolve start e leaf) (known : Nat → Option Bool) :
    e.status known start = (known start).map (· != leaf.negated) := by
  apply Option.ext
  intro b
  rw [status_eq_some_iff, h.evaluate_eq]
  cases known start with
  | none => simp
  | some value => simp

/-- What is known after the result of a condition became known. -/
def learn (known : Nat → Option Bool) (i : Nat) (result : Bool) : Nat → Option Bool :=
  fun j => if j = i then some result else known j

/-- The counters of the nodes of a filter are those that its statuses ask for. -/
inductive Tracks (tree : Tree) (known : Nat → Option Bool) (counter : Nat → Int) :
    Nat → Expr → Prop
  | settled {start : Nat} {e : Expr} {b : Bool} (hstatus : e.status known start = some b)
      (hcounter : counter start = decidedCounter b)
      (hleaves : ∀ i, Covers start e i → (tree.leaf? i).isSome = true → counter i ≤ 0) :
      Tracks tree known counter start e
  | waiting {start : Nat} {e : Expr} (hstatus : e.status known start = none)
      (hsize : e.size = 1) (hleaf : (tree.leaf? start).isSome = true)
      (hcounter : counter start = 1) :
      Tracks tree known counter start e
  | pending {start : Nat} {c : Connective} {es : List Expr}
      (hstatus : (join c es).status known start = none) (hleaf : tree.leaf? start = none)
      (hcounter : counter start = (statuses known (start + 1) es).countP Option.isNone)
      (hbelow : ∀ p ∈ places (start + 1) es, Tracks tree known counter p.1 p.2) :
      Tracks tree known counter start (join c es)

namespace Tracks

variable {tree : Tree} {known known' : Nat → Option Bool} {counter counter' : Nat → Int}
  {start : Nat} {e : Expr}

/-- The counter of an open node is positive. -/
theorem counter_pos (h : Tracks tree known counter start e) (hs : e.status known start = none) :
    0 < counter start := by
  cases h with
  | settled hstatus _ _ => simp [hs] at hstatus
  | waiting _ _ _ hcounter => omega
  | pending hstatus _ hcounter _ =>
    rw [status_join, Connective.combine_eq_none_iff] at hstatus
    omega

/-- The counter of a settled node is that of its value, and the leaves below it are decided. -/
theorem of_settled (h : Tracks tree known counter start e) {b : Bool}
    (hs : e.status known start = some b) : counter start = decidedCounter b ∧
      ∀ i, Covers start e i → (tree.leaf? i).isSome = true → counter i ≤ 0 := by
  cases h with
  | settled hstatus hcounter hleaves =>
    obtain rfl : b = _ := Option.some.inj (hs.symm.trans hstatus)
    exact ⟨hcounter, hleaves⟩
  | waiting hstatus _ _ _ => simp [hs] at hstatus
  | pending hstatus _ _ _ => simp [hs] at hstatus

/-- A node is open exactly if its counter is positive. -/
theorem status_eq_none_iff (h : Tracks tree known counter start e) :
    e.status known start = none ↔ 0 < counter start := by
  refine ⟨h.counter_pos, fun hpos => ?_⟩
  cases hs : e.status known start with
  | none => rfl
  | some b =>
    have hnonpos := decidedCounter_nonpos b
    rw [← (h.of_settled hs).1] at hnonpos
    omega

/-- A part with an undecided leaf is open. -/
theorem open_of_leaf (h : Tracks tree known counter start e) {i : Nat} (hi : Covers start e i)
    (hleaf : (tree.leaf? i).isSome = true) (hpos : 0 < counter i) :
    e.status known start = none := by
  cases hs : e.status known start with
  | none => rfl
  | some b =>
    have hdecided := (h.of_settled hs).2 i hi hleaf
    omega

/-- Tracking looks at the numbers of the filter only. -/
theorem congr (h : Tracks tree known counter start e)
    (hknown : ∀ i, Covers start e i → known i = known' i)
    (hcounter : ∀ i, Covers start e i → counter i = counter' i) :
    Tracks tree known' counter' start e := by
  induction h with
  | settled hstatus hvalue hleaves =>
    refine .settled ((status_congr hknown).symm.trans hstatus) ?_ fun i hi hleaf => ?_
    · rw [← hcounter _ (covers_self _ _), hvalue]
    · rw [← hcounter i hi]
      exact hleaves i hi hleaf
  | waiting hstatus hsize hleaf hone =>
    refine .waiting ((status_congr hknown).symm.trans hstatus) hsize hleaf ?_
    rw [← hcounter _ (covers_self _ _), hone]
  | pending hstatus hleaf hcount hbelow ih =>
    refine .pending ((status_congr hknown).symm.trans hstatus) hleaf ?_ fun p hp =>
      ih p hp (fun i hi => hknown i (hi.of_place hp).1) fun i hi => hcounter i (hi.of_place hp).1
    rw [← hcounter _ (covers_self _ _), hcount, statuses, statuses]
    congr 2
    exact List.map_congr_left fun p hp => status_congr fun i hi => hknown i (hi.of_place hp).1

/-- A leaf below a tracked node is decided or waits. -/
theorem leaf_le_one (h : Tracks tree known counter start e) {i : Nat} (hi : Covers start e i)
    (hleaf : (tree.leaf? i).isSome = true) : counter i ≤ 1 := by
  induction h with
  | settled _ _ hleaves =>
    have hdecided := hleaves i hi hleaf
    omega
  | waiting _ hsize _ hone =>
    obtain rfl := hi.eq_start hsize
    omega
  | pending _ hjoin _ _ ih =>
    rcases hi.cases_join with rfl | ⟨p, hp, hip⟩
    · simp [hjoin] at hleaf
    · exact ih p hp hip

/-- Of an undecided leaf nothing is known. -/
theorem known_eq_none {resolve : String → Option Path} {above : List Nat}
    (hl : Laid resolve tree above start e) (h : Tracks tree known counter start e) {i : Nat}
    (hi : Covers start e i) (hleaf : (tree.leaf? i).isSome = true) (hpos : 0 < counter i) :
    known i = none := by
  induction hl with
  | leaf hcondition hnode =>
    have hopen := h.open_of_leaf hi hleaf hpos
    obtain rfl := hi.eq_start hcondition.size_eq
    rw [hcondition.status_eq, Option.map_eq_none_iff] at hopen
    exact hopen
  | join _ hnode _ ih =>
    have hopen := h.open_of_leaf hi hleaf hpos
    cases h with
    | settled hstatus _ _ => simp [hstatus] at hopen
    | waiting _ _ hself _ =>
      rw [Tree.leaf?, hnode] at hself
      simp [Node.leaf?] at hself
    | pending _ hjoin _ hbelow =>
      rcases hi.cases_join with rfl | ⟨p, hp, hip⟩
      · simp [hjoin] at hleaf
      · exact ih p hp (hbelow p hp) hip

/-- Knowledge about decided leaves changes nothing. -/
theorem extend (h : Tracks tree known counter start e) (hext : Extends known known' start e)
    (hdecided : ∀ i, Covers start e i → (tree.leaf? i).isSome = true → 0 < counter i →
      known i = known' i) : Tracks tree known' counter start e := by
  induction h with
  | settled hstatus hcounter hleaves =>
    exact .settled (status_extends hext hstatus) hcounter hleaves
  | @waiting start e hstatus hsize hleaf hone =>
    refine .waiting ?_ hsize hleaf hone
    rw [← hstatus]
    refine status_congr fun i hi => ?_
    obtain rfl := hi.eq_start hsize
    exact (hdecided i (covers_self _ _) hleaf (by omega)).symm
  | @pending start c es hstatus hjoin hcount hbelow ih =>
    have hbelow' : ∀ p ∈ places (start + 1) es, Tracks tree known' counter p.1 p.2 :=
      fun p hp => ih p hp (hext.of_place hp) fun i hi hleaf hpos =>
        hdecided i (hi.of_place hp).1 hleaf hpos
    -- The counters tell which operands are open, and they stay.
    have hstatuses : statuses known' (start + 1) es = statuses known (start + 1) es := by
      refine List.map_congr_left fun p hp => ?_
      cases hs : p.2.status known p.1 with
      | none => exact (hbelow' p hp).status_eq_none_iff.mpr ((hbelow p hp).counter_pos hs)
      | some b => exact status_extends (hext.of_place hp) hs
    refine .pending ?_ hjoin ?_ hbelow'
    · rw [status_join, hstatuses, ← status_join, hstatus]
    · rw [hstatuses, hcount]

end Tracks

variable {σ : Type} {resolve : String → Option Path} {tree : Tree} {suspend : Nat → σ → σ}
  {known : Nat → Option Bool} {above : List Nat} {start : Nat} {e : Expr} {context : Context σ}

/-- A sweep of a part that is settled decides its leaves and changes no counter beside it. -/
theorem tracks_sweep (hl : Laid resolve tree above start e) {b : Bool}
    (hs : e.status known start = some b) (hsize : start < context.counters.size)
    (hleaves : ∀ i, Covers start e i → (tree.leaf? i).isSome = true → context.counter i ≤ 1) :
    Tracks tree known (tree.sweep suspend start b context).counter start e ∧
      ∀ i, ¬ Covers start e i →
        (tree.sweep suspend start b context).counter i = context.counter i := by
  obtain ⟨kind, hnode⟩ := hl.first_node
  have hcounter : ∀ i, (tree.sweep suspend start b context).counter i
      = if i = start ∨ (i ∈ Node.span ⟨above, start, start + e.size, kind⟩ ∧
          context.counter i = 1) then decidedCounter b else context.counter i :=
    Tree.counter_sweep hnode b hsize
  have hspan : ∀ i, i ∈ Node.span ⟨above, start, start + e.size, kind⟩ ↔ Covers start e i := by
    intro i
    rw [Tree.mem_span, Nat.add_sub_cancel_left]
    rfl
  refine ⟨.settled hs (by rw [hcounter, if_pos (.inl rfl)]) fun i hi hleaf => ?_, fun i hi => ?_⟩
  · rw [hcounter]
    split
    · exact decidedCounter_nonpos b
    · rename_i hnot
      have hle := hleaves i hi hleaf
      have hne : context.counter i ≠ 1 := fun hone => hnot (.inr ⟨(hspan i).mpr hi, hone⟩)
      omega
  · rw [hcounter, if_neg]
    intro hcases
    rcases hcases with rfl | ⟨hin, _⟩
    · exact hi (covers_self _ _)
    · exact hi ((hspan i).mp hin)

/-- What an undecided operator does with the value of an operand in an undecided evaluation. -/
theorem climb_join {c : Connective} (hc : tree.connective? start = some c)
    (hopen : 0 < context.counter start) (hroot : 0 < context.counter 0) (value : Bool)
    (child : Nat) :
    tree.climb suspend value child (start :: above) context
      = if c.absorbing = value then
          tree.climb suspend value start above (tree.sweep suspend start value context)
        else if context.counter start - 1 = 0 then
          tree.climb suspend value start above
            (tree.sweep suspend start value (context.setCounter start (context.counter start - 1)))
        else
          (tree.sweep suspend child value (context.setCounter start (context.counter start - 1)),
            .ok none) := by
  have hdecided : (context.isDecidedAt start || context.isDecided) = false := by
    rw [Context.isDecided, Bool.or_eq_false_iff]
    exact ⟨Context.isDecidedAt_eq_false_iff.mpr hopen, Context.isDecidedAt_eq_false_iff.mpr hroot⟩
  have hsize := Context.lt_size_of_counter_pos hopen
  rw [Tree.climb, hdecided, if_neg (by decide), hc]
  simp only [Option.any_some, decide_eq_true_eq]
  rw [Context.counter_setCounter context start start _ hsize, if_pos rfl]

/-- The number of an operator is in no operand, and neither is the root's. -/
theorem not_covers_operand {es : List Expr} {p : Nat × Expr} (hp : p ∈ places (start + 1) es) :
    ¬ Covers p.1 p.2 start ∧ ¬ Covers p.1 p.2 0 := by
  have hbounds := place_bounds hp
  constructor
  · intro hparts
    rcases hparts with ⟨hlow, _⟩
    omega
  · intro hparts
    rcases hparts with ⟨hlow, _⟩
    omega

/-- A laid out operator is an operator of the tree, and no leaf. -/
theorem laid_join {c : Connective} {es : List Expr}
    (hl : Laid resolve tree above start (join c es)) :
    tree.connective? start = some c ∧ tree.leaf? start = none := by
  cases hl with
  | leaf hleaf _ => cases hleaf
  | join _ hnode _ =>
    constructor
    · rw [Tree.connective?, hnode]
      rfl
    · rw [Tree.leaf?, hnode]
      rfl

/-- An open operator was on track, and then only the part of one open operand changed, which is on
track with what is known now. -/
structure OperandMoved (tree : Tree) (known known' : Nat → Option Bool) (counter counter' : Nat → Int)
    (start : Nat) (c : Connective) (es : List Expr) (p : Nat × Expr) : Prop where
  status : (join c es).status known start = none
  count : counter start = (statuses known (start + 1) es).countP Option.isNone
  below : ∀ q ∈ places (start + 1) es, Tracks tree known counter q.1 q.2
  place : p ∈ places (start + 1) es
  opened : p.2.status known p.1 = none
  knowledge : ∀ j, ¬ Covers p.1 p.2 j → known j = known' j
  frame : ∀ j, ¬ Covers p.1 p.2 j → counter j = counter' j
  track : Tracks tree known' counter' p.1 p.2

namespace OperandMoved

variable {known' : Nat → Option Bool} {counter counter' : Nat → Int} {c : Connective}
  {es : List Expr} {p : Nat × Expr}
  (h : OperandMoved tree known known' counter counter' start c es p)

include h

/-- Beside the operand the statuses of the operands stay the same. -/
theorem statuses_eq : ∃ before after,
    statuses known (start + 1) es = before ++ none :: after ∧
      statuses known' (start + 1) es = before ++ p.2.status known' p.1 :: after := by
  obtain ⟨before, after, hsplit⟩ := List.append_of_mem h.place
  have hsame : ∀ q ∈ before ++ after, q.2.status known q.1 = q.2.status known' q.1 :=
    fun q hq => status_congr fun j hj =>
      h.knowledge j fun hpj => not_covers_of_places_eq hsplit hq hpj hj
  refine ⟨before.map fun q => q.2.status known q.1, after.map fun q => q.2.status known q.1,
    ?_, ?_⟩
  · rw [statuses, hsplit, List.map_append, List.map_cons, h.opened]
  · rw [statuses, hsplit, List.map_append, List.map_cons,
      List.map_congr_left fun q hq => hsame q (List.mem_append_left _ hq),
      List.map_congr_left fun q hq => hsame q (List.mem_append_right _ hq)]

/-- The other operands are on track with what is known now. -/
theorem others (q : Nat × Expr) (hq : q ∈ places (start + 1) es) : q = p ∨
    ((∀ j, Covers q.1 q.2 j → ¬ Covers p.1 p.2 j) ∧ Tracks tree known' counter' q.1 q.2) := by
  obtain ⟨before, after, hsplit⟩ := List.append_of_mem h.place
  have hcases : q = p ∨ q ∈ before ++ after := by
    have hin := hq
    rw [hsplit] at hin
    simp only [List.mem_append, List.mem_cons] at hin ⊢
    rcases hin with hin | rfl | hin
    · exact .inr (.inl hin)
    · exact .inl rfl
    · exact .inr (.inr hin)
  refine hcases.imp id fun hother => ?_
  have hapart : ∀ j, Covers q.1 q.2 j → ¬ Covers p.1 p.2 j :=
    fun j hj hpj => not_covers_of_places_eq hsplit hother hpj hj
  exact ⟨hapart, (h.below q hq).congr (fun j hj => h.knowledge j (hapart j hj))
    fun j hj => h.frame j (hapart j hj)⟩

/-- What is beside the operator is beside the operand. -/
theorem beside {j : Nat} (hj : ¬ Covers start (join c es) j) : counter j = counter' j :=
  h.frame j fun hjp => hj (hjp.of_place h.place).1

/-- The operator still counts the operands that were open. -/
theorem counter_start : counter' start = (statuses known (start + 1) es).countP Option.isNone := by
  rw [← h.frame start (not_covers_operand h.place).1, h.count]

/-- The operator is undecided. -/
theorem counter_pos : 0 < counter' start := by
  have hstatus := h.status
  rw [status_join, Connective.combine_eq_none_iff] at hstatus
  rw [h.counter_start]
  omega

/-- The leaves below the operator are decided or wait. -/
theorem leaf_le_one (hjoin : tree.leaf? start = none) {j : Nat}
    (hj : Covers start (join c es) j) (hleaf : (tree.leaf? j).isSome = true) :
    j ≠ start ∧ counter' j ≤ 1 := by
  rcases hj.cases_join with rfl | ⟨q, hq, hjq⟩
  · simp [hjoin] at hleaf
  · refine ⟨fun heq => (not_covers_operand hq).1 (heq ▸ hjq), ?_⟩
    rcases h.others q hq with rfl | ⟨_, htracked⟩
    · exact h.track.leaf_le_one hjq hleaf
    · exact htracked.leaf_le_one hjq hleaf

/-- If the operand is still open, then so is the operator, and on track. -/
theorem open_tracks (hjoin : tree.leaf? start = none) (hs : p.2.status known' p.1 = none) :
    (join c es).status known' start = none ∧ Tracks tree known' counter' start (join c es) := by
  obtain ⟨before, after, hstatuses, hstatuses'⟩ := h.statuses_eq
  rw [hs, ← hstatuses] at hstatuses'
  have hstatus' : (join c es).status known' start = none := by
    rw [status_join, hstatuses', ← status_join, h.status]
  refine ⟨hstatus', .pending hstatus' hjoin ?_ fun q hq => ?_⟩
  · rw [hstatuses', h.counter_start]
  · rcases h.others q hq with rfl | ⟨_, htracked⟩
    · exact h.track
    · exact htracked

/-- If the operand is settled, then the operator is settled by an absorbing value and by the last
value. -/
theorem status_settled {b : Bool} (hs : p.2.status known' p.1 = some b) :
    (join c es).status known' start = if c.absorbing = b then some b
      else if counter' start = 1 then some b else none := by
  obtain ⟨before, after, hstatuses, hstatuses'⟩ := h.statuses_eq
  have hstatus := h.status
  rw [status_join, hstatuses] at hstatus
  have hone : counter' start = 1 ↔ (statuses known (start + 1) es).countP Option.isNone = 1 := by
    rw [h.counter_start]
    omega
  rw [status_join, hstatuses', hs, Connective.combine_settle hstatus, ← hstatuses]
  simp only [hone]

/-- If the operand is settled, one open operand less is counted. -/
theorem countP_settled {b : Bool} (hs : p.2.status known' p.1 = some b) :
    counter' start = (statuses known' (start + 1) es).countP Option.isNone + 1 := by
  obtain ⟨before, after, hstatuses, hstatuses'⟩ := h.statuses_eq
  rw [h.counter_start, hstatuses, hstatuses', hs, Connective.countP_settle before after b]
  rfl

omit h in
/-- An operator that is settled is swept, whether its counter was counted down before or not. -/
theorem sweep {context next mid : Context σ} {b : Bool}
    (h : OperandMoved tree known known' context.counter next.counter start c es p)
    (hl : Laid resolve tree above start (join c es)) (hsize : mid.counters.size = next.counters.size)
    (hmid : ∀ j, j ≠ start → mid.counter j = next.counter j)
    (hs : (join c es).status known' start = some b) :
    (∀ j, ¬ Covers start (join c es) j →
      (tree.sweep suspend start b mid).counter j = context.counter j) ∧
    Tracks tree known' (tree.sweep suspend start b mid).counter start (join c es) := by
  have hstart : start < mid.counters.size := by
    rw [hsize]
    exact Context.lt_size_of_counter_pos h.counter_pos
  obtain ⟨hdone, hbeside⟩ := tracks_sweep hl hs hstart fun j hj hleaf => by
    rw [hmid j (h.leaf_le_one (laid_join hl).2 hj hleaf).1]
    exact (h.leaf_le_one (laid_join hl).2 hj hleaf).2
  refine ⟨fun j hj => ?_, hdone⟩
  rw [hbeside j hj, hmid j fun heq => hj (heq ▸ covers_self _ _), h.beside hj]

omit h in
/-- An operator that stays open counts the operand; sweeping the operand again touches nothing beside
it. -/
theorem pending {context next : Context σ} {b : Bool}
    (h : OperandMoved tree known known' context.counter next.counter start c es p)
    (hl : Laid resolve tree above start (join c es)) (hs : p.2.status known' p.1 = some b)
    (hsize : next.counters.size = context.counters.size)
    (hstatus : (join c es).status known' start = none) {mid : Context σ}
    (hmid : mid = next.setCounter start (next.counter start - 1)) :
    (∀ j, ¬ Covers start (join c es) j →
      (tree.sweep suspend p.1 b mid).counter j = context.counter j) ∧
    Tracks tree known' (tree.sweep suspend p.1 b mid).counter start (join c es) := by
  subst hmid
  have hcounted : ∀ j, j ≠ start →
      (next.setCounter start (next.counter start - 1)).counter j = next.counter j :=
    fun j hj => Context.counter_setCounter_of_ne next _ hj
  have hoperand : p.1 < (next.setCounter start (next.counter start - 1)).counters.size := by
    rw [Context.size_setCounter, hsize]
    exact Context.lt_size_of_counter_pos ((h.below p h.place).counter_pos h.opened)
  obtain ⟨hdone, hbeside⟩ := tracks_sweep (hl.operands p h.place) hs hoperand fun j hj hleaf => by
    rw [hcounted j fun heq => (not_covers_operand h.place).1 (heq ▸ hj)]
    exact h.track.leaf_le_one hj hleaf
  refine ⟨fun j hj => ?_, .pending hstatus (laid_join hl).2 ?_ fun q hq => ?_⟩
  · rw [hbeside j fun hjp => hj (hjp.of_place h.place).1,
      hcounted j fun heq => hj (heq ▸ covers_self _ _), h.beside hj]
  · rw [hbeside start (not_covers_operand h.place).1, Context.counter_setCounter _ _ _ _
      (Context.lt_size_of_counter_pos h.counter_pos), if_pos rfl, h.countP_settled hs,
      Int.add_sub_cancel]
  · rcases h.others q hq with rfl | ⟨hapart, htracked⟩
    · exact hdone
    · refine htracked.congr (fun _ _ => rfl) fun j hj => ?_
      rw [hbeside j (hapart j hj), hcounted j fun heq => (not_covers_operand hq).1 (heq ▸ hj)]

end OperandMoved

/-- Once an operand of an open operator is settled, handing its value to the operator keeps the
operator on track. -/
theorem tracks_climb {c : Connective} {es : List Expr} {p : Nat × Expr}
    {known' : Nat → Option Bool} {next : Context σ}
    (h : OperandMoved tree known known' context.counter next.counter start c es p)
    (hl : Laid resolve tree above start (join c es))
    (hsize : next.counters.size = context.counters.size) (hroot : 0 < context.counter 0) {b : Bool}
    (hs : p.2.status known' p.1 = some b) :
    ∃ final : Context σ,
      final.counters.size = context.counters.size ∧
      (∀ j, ¬ Covers start (join c es) j → final.counter j = context.counter j) ∧
      Tracks tree known' final.counter start (join c es) ∧
      tree.climb suspend b p.1 (start :: above) next
        = match (join c es).status known' start with
          | none => (final, .ok none)
          | some b => tree.climb suspend b start above final := by
  have hstatus := h.status_settled hs
  have hcounted : ((next.setCounter start (next.counter start - 1)).counters.size
      = next.counters.size) := Context.size_setCounter _ _ _
  rw [h.frame 0 (not_covers_operand h.place).2] at hroot
  rw [climb_join (laid_join hl).1 h.counter_pos hroot]
  by_cases habsorbing : c.absorbing = b
  · rw [if_pos habsorbing] at hstatus ⊢
    obtain ⟨hbeside, hdone⟩ := h.sweep hl rfl (fun _ _ => rfl) hstatus
    exact ⟨_, (Tree.size_sweep _ _ _).trans hsize, hbeside, hdone, by rw [hstatus]⟩
  · rw [if_neg habsorbing] at hstatus ⊢
    by_cases hlast : next.counter start = 1
    · rw [if_pos hlast] at hstatus
      rw [if_pos (by omega)]
      obtain ⟨hbeside, hdone⟩ := h.sweep hl hcounted
        (fun j hj => Context.counter_setCounter_of_ne next _ hj) hstatus
      exact ⟨_, ((Tree.size_sweep _ _ _).trans hcounted).trans hsize, hbeside, hdone,
        by rw [hstatus]⟩
    · rw [if_neg hlast] at hstatus
      rw [if_neg (by omega)]
      obtain ⟨hbeside, hdone⟩ := h.pending hl hs hsize hstatus rfl
      exact ⟨_, ((Tree.size_sweep _ _ _).trans hcounted).trans hsize, hbeside, hdone,
        by rw [hstatus]⟩

variable (suspend) in
/-- A report of an undecided leaf keeps a part on track and changes no counter beside it. If it
settles the part, it hands the value of the part to the operators above; otherwise it ends there. -/
theorem tracks_report (hl : Laid resolve tree above start e)
    (ht : Tracks tree known context.counter start e) {i : Nat} (hi : Covers start e i) {node : Node}
    (hnode : tree.nodes[i]? = some node) {leaf : Leaf} (hkind : node.kind = .leaf leaf)
    (hopen : 0 < context.counter i) (hroot : 0 < context.counter 0) (result : Bool) :
    ∃ next : Context σ,
      next.counters.size = context.counters.size ∧
      (∀ j, ¬ Covers start e j → next.counter j = context.counter j) ∧
      Tracks tree (learn known i result) next.counter start e ∧
      tree.climb suspend (result != leaf.negated) i node.above
          (context.mark i (result != leaf.negated))
        = match e.status (learn known i result) start with
          | none => (next, .ok none)
          | some b => tree.climb suspend b start above next := by
  have hisLeaf : (tree.leaf? i).isSome = true := by
    rw [Tree.leaf?, hnode, Option.bind_some, Node.leaf?, hkind]
    rfl
  have hsize := Context.lt_size_of_counter_pos hopen
  induction hl with
  | @leaf above start e leaf' hcondition hlaid =>
    obtain rfl := hi.eq_start hcondition.size_eq
    obtain rfl : node = ⟨above, i, i + 1, .leaf leaf'⟩ := Option.some.inj (hnode.symm.trans hlaid)
    obtain rfl : leaf' = leaf := NodeKind.leaf.inj hkind
    have hcounter : ∀ j, (context.mark i (result != leaf'.negated)).counter j
        = if j = i then decidedCounter (result != leaf'.negated) else context.counter j :=
      fun j => Context.counter_mark context i j _ hsize
    have hs : e.status (learn known i result) i = some (result != leaf'.negated) := by
      rw [hcondition.status_eq, learn, if_pos rfl, Option.map_some]
    refine ⟨context.mark i (result != leaf'.negated), Context.size_mark _ _ _, fun j hj => ?_,
      .settled hs ?_ fun j hj _ => ?_, by rw [hs]⟩
    · rw [hcounter, if_neg]
      intro heq
      subst heq
      exact hj hi
    · rw [hcounter, if_pos rfl]
    · obtain rfl := hj.eq_start hcondition.size_eq
      rw [hcounter, if_pos rfl]
      exact decidedCounter_nonpos _
  | @join above start c es hes hlaid hbelow ih =>
    have hjoin := laid_join (.join hes hlaid hbelow)
    rcases hi.cases_join with rfl | ⟨p, hp, hip⟩
    · simp [hjoin.2] at hisLeaf
    · cases ht with
      | settled _ _ hleaves =>
        have hdecided := hleaves i hi hisLeaf
        omega
      | waiting _ _ hleaf _ => simp [hjoin.2] at hleaf
      | pending hstatus hleaf hcount htracks =>
        have hopenPart := (htracks p hp).open_of_leaf hip hisLeaf hopen
        have hknown : ∀ j, ¬ Covers p.1 p.2 j → known j = learn known i result j := by
          intro j hj
          rw [learn, if_neg]
          intro heq
          subst heq
          exact hj hip
        obtain ⟨next, hsame, hframe, htrack, hclimb⟩ := ih p hp (htracks p hp) hip
        have hmoved : OperandMoved tree known (learn known i result) context.counter next.counter
            start c es p :=
          ⟨hstatus, hcount, htracks, hp, hopenPart, hknown, fun j hj => (hframe j hj).symm, htrack⟩
        rw [hclimb]
        cases hs : p.2.status (learn known i result) p.1 with
        | some b => exact tracks_climb hmoved (.join hes hlaid hbelow) hsame hroot hs
        | none =>
          obtain ⟨hstatus', hpending⟩ := hmoved.open_tracks hleaf hs
          exact ⟨next, hsame, fun j hj => (hmoved.beside hj).symm, hpending, by rw [hstatus']⟩

/-- As long as nothing is known, a laid out filter is open. -/
theorem status_nothing (hl : Laid resolve tree above start e) :
    e.status (fun _ => none) start = none := by
  induction hl with
  | leaf hleaf _ => rw [hleaf.status_eq, Option.map_none]
  | @join above start c es hes _ _ ih =>
    have hnone : ∀ s ∈ statuses (fun _ => none) (start + 1) es, s = none := by
      intro s hs
      obtain ⟨p, hp, rfl⟩ := List.mem_map.mp hs
      exact ih p hp
    rw [status_join, Connective.combine_eq_none_iff]
    refine ⟨fun hmem => by simpa using hnone _ hmem, ?_⟩
    have hne : statuses (fun _ => none) (start + 1) es ≠ [] := by
      intro hnil
      have hlength := congrArg List.length hnil
      rw [statuses, List.length_map, length_places, List.length_nil] at hlength
      exact hes (List.eq_nil_of_length_eq_zero hlength)
    obtain ⟨s, hs⟩ := List.exists_mem_of_ne_nil _ hne
    exact List.countP_pos_iff.mpr ⟨s, hs, by rw [hnone s hs]; rfl⟩

/-- The initial counters track that nothing is known. -/
theorem tracks_initial (hl : Laid resolve tree above start e) {counter : Nat → Int}
    (hcounter : ∀ i node, tree.nodes[i]? = some node → counter i = node.initialCounter) :
    Tracks tree (fun _ => none) counter start e := by
  have hopen := status_nothing hl
  induction hl with
  | leaf hleaf hnode =>
    refine .waiting hopen hleaf.size_eq ?_ (hcounter _ _ hnode)
    rw [Tree.leaf?, hnode]
    rfl
  | @join above start c es hes hnode hbelow ih =>
    refine .pending hopen (laid_join (.join hes hnode hbelow)).2 ?_ fun p hp =>
      ih p hp (status_nothing (hbelow p hp))
    have hall : (statuses (fun _ => none) (start + 1) es).countP Option.isNone
        = (statuses (fun _ => none) (start + 1) es).length := by
      rw [List.countP_eq_length]
      intro s hs
      obtain ⟨p, hp, rfl⟩ := List.mem_map.mp hs
      rw [status_nothing (hbelow p hp)]
      rfl
    rw [hcounter _ _ hnode, hall, statuses, List.length_map, length_places]
    rfl

end Percolator
