import Percolator.Expr.Evaluation

/-!
# The places of operands

Direct evaluation numbers the parts of a filter in preorder, so the operands of an operator take
consecutive stretches of numbers. Main statements: every number of an operator other than its own
belongs to an operand, and different operands share no number.
-/

namespace Percolator.Expr

/-- Operands with their first numbers, when the first of them starts at `start`. -/
def places (start : Nat) : List Expr → List (Nat × Expr)
  | [] => []
  | e :: es => (start, e) :: places (start + e.size) es

/-- A number is one of those that an expression takes from `start` on. -/
def Covers (start : Nat) (e : Expr) (i : Nat) : Prop := start ≤ i ∧ i < start + e.size

/-- Every expression takes a number. -/
theorem size_pos : (e : Expr) → 0 < e.size
  | constant _ => by simp [size]
  | not operand => by
    rw [size]
    exact size_pos operand
  | test _ _ => by simp [size]
  | join _ _ => by
    rw [size]
    omega

/-- An expression takes its first number. -/
theorem covers_self (start : Nat) (e : Expr) : Covers start e start := by
  have hpos := size_pos e
  exact ⟨Nat.le_refl _, by omega⟩

/-- An expression with one number takes its first number only. -/
theorem Covers.eq_start {start : Nat} {e : Expr} {i : Nat} (h : Covers start e i)
    (hsize : e.size = 1) : i = start := by
  obtain ⟨hlow, hup⟩ := h
  omega

/-- There is one place for each operand. -/
theorem length_places (start : Nat) (es : List Expr) : (places start es).length = es.length := by
  induction es generalizing start with
  | nil => rfl
  | cons e es ih => rw [places, List.length_cons, List.length_cons, ih]

/-- The numbers of an operand are among those of all operands. -/
theorem place_bounds {start : Nat} {es : List Expr} {p : Nat × Expr} (h : p ∈ places start es) :
    start ≤ p.1 ∧ p.1 + p.2.size ≤ start + sizeAll es := by
  induction es generalizing start with
  | nil => simp [places] at h
  | cons e es ih =>
    rw [sizeAll]
    rcases List.mem_cons.mp h with rfl | h
    · exact ⟨Nat.le_refl _, by dsimp only; omega⟩
    · have hb := ih h
      omega

/-- Every number of the operands belongs to one of them. -/
theorem exists_place {start : Nat} {es : List Expr} {i : Nat} (hl : start ≤ i)
    (hu : i < start + sizeAll es) : ∃ p ∈ places start es, Covers p.1 p.2 i := by
  induction es generalizing start with
  | nil =>
    rw [sizeAll] at hu
    omega
  | cons e es ih =>
    by_cases he : i < start + e.size
    · exact ⟨(start, e), List.mem_cons_self, hl, he⟩
    · rw [sizeAll] at hu
      have hrest : start + e.size ≤ i := by omega
      obtain ⟨p, hp, hc⟩ := ih hrest (by omega)
      exact ⟨p, List.mem_cons_of_mem _ hp, hc⟩

/-- An operand ends before the operands after it start. -/
theorem pairwise_places (start : Nat) (es : List Expr) :
    (places start es).Pairwise fun p q => p.1 + p.2.size ≤ q.1 := by
  induction es generalizing start with
  | nil => exact .nil
  | cons e es ih =>
    rw [places]
    exact .cons (fun q hq => (place_bounds hq).1) (ih _)

/-- No number of an operand belongs to the operands before it or after it. -/
theorem not_covers_of_places_eq {start : Nat} {es : List Expr} {p q : Nat × Expr}
    {before after : List (Nat × Expr)} (h : places start es = before ++ p :: after)
    (hq : q ∈ before ++ after) {i : Nat} (hi : Covers p.1 p.2 i) : ¬ Covers q.1 q.2 i := by
  have hp := pairwise_places start es
  rw [h, List.pairwise_append, List.pairwise_cons] at hp
  obtain ⟨_, ⟨hafter, _⟩, hbefore⟩ := hp
  intro hparts
  rcases hparts with ⟨hl, hu⟩
  obtain ⟨hl', hu'⟩ := hi
  rcases List.mem_append.mp hq with hq | hq
  · have hqp := hbefore q hq p List.mem_cons_self
    omega
  · have hpq := hafter q hq
    omega

/-- The numbers of an operand belong to the operator above it, and are not the operator's own. -/
theorem Covers.of_place {start : Nat} {c : Connective} {es : List Expr} {p : Nat × Expr}
    (hp : p ∈ places (start + 1) es) {i : Nat} (h : Covers p.1 p.2 i) :
    Covers start (join c es) i ∧ start < i := by
  have hb := place_bounds hp
  obtain ⟨hl, hu⟩ := h
  refine ⟨⟨by omega, ?_⟩, by omega⟩
  rw [size]
  omega

/-- A number of an operator is its own or belongs to an operand. -/
theorem Covers.cases_join {start : Nat} {c : Connective} {es : List Expr} {i : Nat}
    (h : Covers start (join c es) i) :
    i = start ∨ ∃ p ∈ places (start + 1) es, Covers p.1 p.2 i := by
  obtain ⟨hl, hu⟩ := h
  rw [size] at hu
  by_cases hi : i = start
  · exact .inl hi
  · exact .inr (exists_place (by omega) (by omega))

/-- The part of a filter that has the number `i`, when the filter has the first number `start`. The
condition below a negation has no number of its own. -/
inductive PartAt : (start : Nat) → Expr → (i : Nat) → Expr → Prop
  | self {start : Nat} {e : Expr} : PartAt start e start e
  | operand {start : Nat} {c : Connective} {es : List Expr} {p : Nat × Expr} {i : Nat} {part : Expr}
      (hp : p ∈ places (start + 1) es) (hpart : PartAt p.1 p.2 i part) :
      PartAt start (join c es) i part

/-- The number of a part is one of those that the filter takes. -/
theorem PartAt.covers {start i : Nat} {e part : Expr} (h : PartAt start e i part) :
    Covers start e i := by
  induction h with
  | self => exact covers_self _ _
  | operand hp _ ih => exact (ih.of_place hp).1

end Percolator.Expr
