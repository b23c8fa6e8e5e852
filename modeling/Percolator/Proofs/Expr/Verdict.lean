import Percolator.Proofs.Expr.Places

/-!
# Verdicts from partial knowledge

A filter has a status once its value no longer depends on the conditions that are not known. Main
statements: what is learned later never changes a status, and the status of an operator follows from
those of its operands alone, its absorbing value being found as soon as one operand has it and the
other value once all operands have that.
-/

namespace Percolator

namespace Connective

/-- The status of an operator whose operands have these statuses. -/
def combine (c : Connective) (statuses : List (Option Bool)) : Option Bool :=
  if some c.absorbing ∈ statuses then some c.absorbing
  else if statuses.all (· == some !c.absorbing) then some (!c.absorbing)
  else none

/-- An operator is settled by one absorbing operand or by all operands together. -/
theorem combine_eq_some_iff {c : Connective} {statuses : List (Option Bool)} {b : Bool} :
    c.combine statuses = some b ↔
      (b = c.absorbing ∧ some b ∈ statuses) ∨
        (b = (!c.absorbing) ∧ ∀ s ∈ statuses, s = some b) := by
  unfold combine
  simp only [List.all_eq_true, beq_iff_eq]
  split
  · rename_i hmem
    rw [Option.some.injEq]
    constructor
    · intro heq
      subst heq
      exact .inl ⟨rfl, hmem⟩
    · intro hcases
      rcases hcases with ⟨hb, _⟩ | ⟨hb, hall⟩
      · exact hb.symm
      · exact Option.some.inj (hall _ hmem)
  · rename_i hmem
    split
    · rename_i hall
      rw [Option.some.injEq]
      constructor
      · intro heq
        subst heq
        exact .inr ⟨rfl, hall⟩
      · intro hcases
        rcases hcases with ⟨rfl, hb⟩ | ⟨hb, _⟩
        · exact absurd hb hmem
        · exact hb.symm
    · rename_i hall
      constructor
      · intro h
        simp at h
      · intro hcases
        rcases hcases with ⟨rfl, hb⟩ | ⟨rfl, hb⟩
        · exact absurd hb hmem
        · exact absurd hb hall

/-- An operator is open as long as no operand is absorbing and some operand is open. -/
theorem combine_eq_none_iff {c : Connective} {statuses : List (Option Bool)} :
    c.combine statuses = none ↔
      some c.absorbing ∉ statuses ∧ 0 < statuses.countP Option.isNone := by
  rw [Option.eq_none_iff_forall_ne_some]
  constructor
  · intro h
    have hmem : some c.absorbing ∉ statuses := fun hmem =>
      h _ (combine_eq_some_iff.mpr (.inl ⟨rfl, hmem⟩))
    refine ⟨hmem, Nat.pos_of_ne_zero fun hzero => ?_⟩
    refine h _ (combine_eq_some_iff.mpr (.inr ⟨rfl, fun s hs => ?_⟩))
    have hsome := List.countP_eq_zero.mp hzero s hs
    cases s with
    | none => simp at hsome
    | some b =>
      have hb : b ≠ c.absorbing := fun hb => hmem (hb ▸ hs)
      rw [Bool.eq_not.mpr hb]
  · intro hparts b h
    rcases hparts with ⟨hmem, hpos⟩
    obtain ⟨s, hs, hnone⟩ := List.countP_pos_iff.mp hpos
    rcases combine_eq_some_iff.mp h with ⟨rfl, hb⟩ | ⟨_, hall⟩
    · exact hmem hb
    · rw [hall s hs] at hnone
      simp at hnone

/-- An operator without an absorbing operand is settled with the other value once no operand is
open. -/
theorem combine_of_countP_eq_zero {c : Connective} {statuses : List (Option Bool)}
    (hmem : some c.absorbing ∉ statuses) (hzero : statuses.countP Option.isNone = 0) :
    c.combine statuses = some (!c.absorbing) := by
  cases h : c.combine statuses with
  | none =>
    have hpos := (combine_eq_none_iff.mp h).2
    omega
  | some b =>
    rcases combine_eq_some_iff.mp h with ⟨rfl, hb⟩ | ⟨rfl, _⟩
    · exact absurd hb hmem
    · rfl

/-- An open operand that is settled leaves one open operand less. -/
theorem countP_settle (before after : List (Option Bool)) (b : Bool) :
    (before ++ none :: after).countP Option.isNone
      = (before ++ some b :: after).countP Option.isNone + 1 := by
  simp only [List.countP_append, List.countP_cons, Option.isNone_none, Option.isNone_some]
  simp only [if_true, Bool.false_eq_true, if_false]
  omega

/-- Settling an operand of an open operator settles the operator if the operand is absorbing or was
the last one open. -/
theorem combine_settle {c : Connective} {before after : List (Option Bool)} {b : Bool}
    (h : c.combine (before ++ none :: after) = none) :
    c.combine (before ++ some b :: after)
      = if c.absorbing = b then some b
        else if (before ++ none :: after).countP Option.isNone = 1 then some b else none := by
  have hcount := countP_settle before after b
  have hmem : some c.absorbing ∉ before ++ after := by
    have hnot := (combine_eq_none_iff.mp h).1
    simp only [List.mem_append, List.mem_cons] at hnot ⊢
    exact fun hin => hnot (hin.imp id .inr)
  by_cases hb : c.absorbing = b
  · rw [if_pos hb, combine_eq_some_iff]
    exact .inl ⟨hb.symm, by simp⟩
  · have hnot : some c.absorbing ∉ before ++ some b :: after := by
      simp only [List.mem_append, List.mem_cons, Option.some.injEq] at hmem ⊢
      intro hcases
      rcases hcases with hin | hin | hin
      · exact hmem (.inl hin)
      · exact hb hin
      · exact hmem (.inr hin)
    rw [if_neg hb]
    split
    · rw [combine_of_countP_eq_zero hnot (by omega), Bool.eq_not.mpr (Ne.symm hb)]
    · refine combine_eq_none_iff.mpr ⟨hnot, ?_⟩
      have hpos := (combine_eq_none_iff.mp h).2
      omega

/-- The value of an operator is absorbing exactly if some operand is. -/
theorem evaluate_eq_iff {c : Connective} {values : List Bool} {b : Bool} :
    c.evaluate values = b ↔
      (b = c.absorbing ∧ b ∈ values) ∨ (b = (!c.absorbing) ∧ ∀ v ∈ values, v = b) := by
  cases c <;> cases b <;> simp [evaluate, absorbing]

end Connective

namespace Expr

/-- The value of a filter, if it is the same however the conditions that are not known turn out. -/
def status (known : Nat → Option Bool) (start : Nat) (e : Expr) : Option Bool :=
  if e.evaluate known false start then some true
  else if e.evaluate known true start then none
  else some false

/-- The statuses of operands, the first of which has the first number `start`. -/
def statuses (known : Nat → Option Bool) (start : Nat) (es : List Expr) : List (Option Bool) :=
  (places start es).map fun p => p.2.status known p.1

/-- The verdict on a filter is its status when numbering starts at zero. -/
theorem verdict_eq_status (known : Nat → Option Bool) (e : Expr) :
    e.verdict known = e.status known 0 := rfl

/-- The values of operands are those at their places. -/
theorem evaluateAll_eq_map (known : Nat → Option Bool) (unknown : Bool) (start : Nat)
    (es : List Expr) :
    evaluateAll known unknown start es
      = (places start es).map fun p => p.2.evaluate known unknown p.1 := by
  induction es generalizing start with
  | nil => rfl
  | cons e es ih => rw [evaluateAll, places, List.map_cons, ih]

/-- What one state of knowledge says about the numbers of an expression, another says as well. -/
def Extends (known known' : Nat → Option Bool) (start : Nat) (e : Expr) : Prop :=
  ∀ i, Covers start e i → ∀ b, known i = some b → known' i = some b

/-- Knowledge about an operator is knowledge about its operands. -/
theorem Extends.of_place {known known' : Nat → Option Bool} {start : Nat} {c : Connective}
    {es : List Expr} {p : Nat × Expr} (h : Extends known known' start (join c es))
    (hp : p ∈ places (start + 1) es) : Extends known known' p.1 p.2 :=
  fun i hi => h i (Covers.of_place hp hi).1

mutual

/-- A value that differs from the one assumed for the unknown conditions stays, whatever is learned
and whatever is assumed for the rest. -/
theorem evaluate_settled {known known' : Nat → Option Bool} :
    (e : Expr) → {unknown unknown' : Bool} → {start : Nat} → Extends known known' start e →
    e.evaluate known unknown start = (!unknown) → e.evaluate known' unknown' start = (!unknown)
  | constant value, _, _, _, _, hv => hv
  | not operand, unknown, unknown', start, h, hv => by
    rw [evaluate] at hv ⊢
    have hi : operand.evaluate known (!unknown) start = (!!unknown) := by
      rw [Bool.not_not]
      exact Bool.not_inj hv
    have hs : operand.evaluate known' (!unknown') start = (!!unknown) :=
      evaluate_settled operand h hi
    rw [hs, Bool.not_not]
  | test name condition, unknown, unknown', start, h, hv => by
    rw [evaluate] at hv ⊢
    cases hk : known start with
    | none =>
      rw [hk, Option.getD_none] at hv
      cases unknown <;> simp at hv
    | some b =>
      rw [hk, Option.getD_some] at hv
      rw [h start (covers_self _ _) b hk, Option.getD_some, hv]
  | join c es, unknown, unknown', start, h, hv => by
    rw [evaluate, evaluateAll_eq_map, Connective.evaluate_eq_iff] at hv ⊢
    have hsettled : ∀ p ∈ places (start + 1) es, p.2.evaluate known unknown p.1 = (!unknown) →
        p.2.evaluate known' unknown' p.1 = (!unknown) :=
      evaluateAll_settled es fun p hp => h.of_place hp
    rcases hv with ⟨hb, hmem⟩ | ⟨hb, hall⟩
    · obtain ⟨p, hp, hv⟩ := List.mem_map.mp hmem
      exact .inl ⟨hb, List.mem_map.mpr ⟨p, hp, hsettled p hp hv⟩⟩
    · refine .inr ⟨hb, fun v hv => ?_⟩
      obtain ⟨p, hp, rfl⟩ := List.mem_map.mp hv
      exact hsettled p hp (hall _ (List.mem_map.mpr ⟨p, hp, rfl⟩))

/-- The values of all operands that differ from the one assumed stay. -/
theorem evaluateAll_settled {known known' : Nat → Option Bool} :
    (es : List Expr) → {unknown unknown' : Bool} → {start : Nat} →
    (∀ p ∈ places start es, Extends known known' p.1 p.2) →
    ∀ p ∈ places start es, p.2.evaluate known unknown p.1 = (!unknown) →
      p.2.evaluate known' unknown' p.1 = (!unknown)
  | [], _, _, _, _, _, hp, _ => by simp [places] at hp
  | e :: es, _, _, _, h, p, hp, hv => by
    rcases List.mem_cons.mp hp with rfl | hp
    · exact evaluate_settled e (h _ List.mem_cons_self) hv
    · exact evaluateAll_settled es (fun q hq => h q (List.mem_cons_of_mem _ hq)) p hp hv

end

/-- A filter is settled exactly if its value differs from the one assumed for the unknown. -/
theorem status_eq_some_iff {known : Nat → Option Bool} {start : Nat} {e : Expr} {b : Bool} :
    e.status known start = some b ↔ e.evaluate known (!b) start = b := by
  have hmono : e.evaluate known false start = true → e.evaluate known true start = true :=
    evaluate_settled e fun _ _ _ h => h
  cases b with
  | true => simp [status]
  | false =>
    simp only [status, Bool.not_false]
    cases hf : e.evaluate known false start with
    | true => simp [hmono hf]
    | false => simp

/-- The status of an operator follows from those of its operands. -/
theorem status_join (known : Nat → Option Bool) (start : Nat) (c : Connective) (es : List Expr) :
    (join c es).status known start = c.combine (statuses known (start + 1) es) := by
  apply Option.ext
  intro b
  rw [statuses, status_eq_some_iff, Connective.combine_eq_some_iff, evaluate, evaluateAll_eq_map,
    Connective.evaluate_eq_iff]
  simp only [List.mem_map, forall_exists_index, and_imp, forall_apply_eq_imp_iff₂,
    status_eq_some_iff]

/-- What is learned later never changes a status. -/
theorem status_extends {known known' : Nat → Option Bool} {start : Nat} {e : Expr} {b : Bool}
    (h : Extends known known' start e) (hs : e.status known start = some b) :
    e.status known' start = some b := by
  rw [status_eq_some_iff] at hs ⊢
  have hsettled : e.evaluate known' (!b) start = (!!b) :=
    evaluate_settled e h (by rw [hs, Bool.not_not])
  rw [hsettled, Bool.not_not]

/-- The status depends on the numbers of the filter only. -/
theorem status_congr {known known' : Nat → Option Bool} {start : Nat} {e : Expr}
    (h : ∀ i, Covers start e i → known i = known' i) :
    e.status known start = e.status known' start := by
  apply Option.ext
  intro b
  constructor
  · exact status_extends fun i hi b hb => h i hi ▸ hb
  · exact status_extends fun i hi b hb => (h i hi).symm ▸ hb

end Expr

end Percolator
