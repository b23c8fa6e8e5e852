import Mathlib.Data.List.Lex
import Mathlib.Order.Interval.Set.OrdConnected
import Percolator.Predicate
import Percolator.Proofs.Value.Order

/-!
# Intervals say what comparisons say

A comparison has a meaning of its own, apart from intervals: truth values are compared with false
below true, texts by the codes of their characters, and numbers as rational numbers; nothing holds
of values of different kinds. Main statement: the interval made for a comparison contains exactly
the values of which the comparison holds, so that of values of one kind exactly one of below, equal
and above holds, and values of other kinds are in none; and every interval is convex, whatever its
bounds are.
-/

namespace Percolator

open Value (Meaning)

/-- A value is numeric and denotes a rational number. -/
inductive Value.Denotes : Value → ℚ → Prop where
  | integer (n : Int) : Denotes (.integer n) n
  | decimal (d : Decimal) : Denotes (.decimal d) d.toRat

namespace Comparison

/-- What a comparison says of two elements of an order. -/
def Relates {α : Type} [PartialOrder α] : Comparison → α → α → Prop
  | equal, x, y => x = y
  | less, x, y => x < y
  | lessOrEqual, x, y => x ≤ y
  | greater, x, y => y < x
  | greaterOrEqual, x, y => y ≤ x

/-- The codes of the characters of a text, in order. -/
def codes (s : String) : List Nat := s.toList.map Char.toNat

/-- A comparison holds of two values: they are of one kind, and compare as it says. -/
inductive Holds (comparison : Comparison) : Value → Value → Prop where
  | truth {a b : Bool} (h : comparison.Relates a b) : Holds comparison (.boolean a) (.boolean b)
  /-- Texts go by the codes of their characters, and the first difference decides. -/
  | text {s t : String} (h : comparison.Relates (codes s) (codes t)) :
    Holds comparison (.text s) (.text t)
  /-- Numbers are compared exactly, however they are written. -/
  | number {v w : Value} {x y : ℚ} (hv : v.Denotes x) (hw : w.Denotes y)
    (h : comparison.Relates x y) : Holds comparison v w

variable {α β : Type} [PartialOrder α] [PartialOrder β] {comparison : Comparison}

/-- Comparing is not changed by carrying both sides over to another order. -/
theorem relates_map (f : α ↪o β) (x y : α) :
    comparison.Relates (f x) (f y) ↔ comparison.Relates x y := by
  cases comparison with
  | equal => exact f.injective.eq_iff
  | less => exact f.lt_iff_lt
  | lessOrEqual => exact f.le_iff_le
  | greater => exact f.lt_iff_lt
  | greaterOrEqual => exact f.le_iff_le

/-- What a comparison says of two elements depends only on how they compare. -/
theorem relates_iff {x y : α} {result : Ordering} (h : result.Compares x y) :
    comparison.Relates x y ↔ comparison.accepts result = true := by
  cases result with
  | lt =>
    have h : x < y := h
    cases comparison <;> simp [Relates, accepts, h, h.ne, h.le, h.not_gt, h.not_ge]
  | eq =>
    have h : x = y := h
    cases comparison <;> simp [Relates, accepts, h]
  | gt =>
    have h : y < x := h
    cases comparison <;> simp [Relates, accepts, h, h.ne', h.le, h.not_gt, h.not_ge]

/-- Each way to compare is accepted by one of below, equal and above. -/
theorem single_accepts (result : Ordering) : ∃! comparison : Comparison,
    comparison ∈ [less, equal, greater] ∧ comparison.accepts result = true := by
  cases result with
  | lt => exact ⟨less, by decide, fun comparison => by cases comparison <;> decide⟩
  | eq => exact ⟨equal, by decide, fun comparison => by cases comparison <;> decide⟩
  | gt => exact ⟨greater, by decide, fun comparison => by cases comparison <;> decide⟩

/-- Elements of which a comparison holds are comparable. -/
theorem Relates.exists_compares {x y : α} (h : comparison.Relates x y) :
    ∃ result : Ordering, result.Compares x y := by
  cases comparison with
  | equal => exact ⟨.eq, h⟩
  | less => exact ⟨.lt, h⟩
  | lessOrEqual =>
    rcases h.lt_or_eq with hlt | heq
    · exact ⟨.lt, hlt⟩
    · exact ⟨.eq, heq⟩
  | greater => exact ⟨.gt, h⟩
  | greaterOrEqual =>
    rcases h.lt_or_eq with hlt | heq
    · exact ⟨.gt, hlt⟩
    · exact ⟨.eq, heq.symm⟩

/-- Texts are ordered like the codes of their characters. -/
def codesEmbedding : String ↪o List Nat :=
  OrderEmbedding.ofStrictMono codes fun _ _ h =>
    List.map_lt (fun _ _ hlt => hlt) (String.lt_iff_toList_lt.mp h)

/-- Meanings of the first kind are related as they are. -/
@[simp] theorem relates_inl (x y : α) :
    comparison.Relates (.inl x : α ⊕ β) (.inl y) ↔ comparison.Relates x y := by
  cases comparison <;> simp [Relates]

/-- So are meanings of the second kind. -/
@[simp] theorem relates_inr (x y : β) :
    comparison.Relates (.inr x : α ⊕ β) (.inr y) ↔ comparison.Relates x y := by
  cases comparison <;> simp [Relates]

/-- Meanings of different kinds are not related. -/
@[simp] theorem not_relates_inl_inr (x : α) (y : β) :
    ¬ comparison.Relates (.inl x : α ⊕ β) (.inr y) := by
  cases comparison <;> simp [Relates]

/-- Nor are they the other way round. -/
@[simp] theorem not_relates_inr_inl (x : β) (y : α) :
    ¬ comparison.Relates (.inr x : α ⊕ β) (.inl y) := by
  cases comparison <;> simp [Relates]

/-- A comparison holds of two values exactly if it says so of what they mean. -/
theorem holds_iff {v w : Value} :
    comparison.Holds v w ↔ comparison.Relates v.meaning w.meaning := by
  constructor
  · intro h
    cases h with
    | truth h => exact (relates_inl _ _).mpr h
    | text h =>
      have htext := (relates_map codesEmbedding _ _).mp h
      exact (relates_inr _ _).mpr ((relates_inl _ _).mpr htext)
    | number hv hw h =>
      have hnumber : comparison.Relates (.inr (.inr _) : Meaning) (.inr (.inr _)) :=
        (relates_inr _ _).mpr ((relates_inr _ _).mpr h)
      cases hv <;> cases hw <;> exact hnumber
  · intro h
    -- Meanings of different kinds are not comparable, so only values of one kind are left.
    cases v <;> cases w <;> simp only [Value.meaning, relates_inl, relates_inr,
      not_relates_inl_inr, not_relates_inr_inl] at h
    case boolean.boolean => exact .truth h
    case text.text => exact .text ((relates_map codesEmbedding _ _).mpr h)
    case integer.integer => exact .number (.integer _) (.integer _) h
    case integer.decimal => exact .number (.integer _) (.decimal _) h
    case decimal.integer => exact .number (.decimal _) (.integer _) h
    case decimal.decimal => exact .number (.decimal _) (.decimal _) h

/-- A comparison holds if the values compare in a way that it accepts. -/
theorem holds_iff_order? {v w : Value} :
    comparison.Holds v w ↔ (v.order? w).any comparison.accepts = true := by
  rw [holds_iff, Option.any_eq_true]
  constructor
  · intro h
    obtain ⟨result, hresult⟩ := h.exists_compares
    exact ⟨result, Value.order?_eq_some_iff.mpr hresult, (relates_iff hresult).mp h⟩
  · intro h
    obtain ⟨result, hresult, haccepts⟩ := h
    exact (relates_iff (Value.order?_eq_some_iff.mp hresult)).mpr haccepts

end Comparison

namespace Bound

/-- The meanings on the inner side of a lower bound. -/
def above : Bound → Set Meaning
  | unbounded => Set.univ
  | included bound => Set.Ici bound.meaning
  | excluded bound => Set.Ioi bound.meaning

/-- The meanings on the inner side of an upper bound. -/
def below : Bound → Set Meaning
  | unbounded => Set.univ
  | included bound => Set.Iic bound.meaning
  | excluded bound => Set.Iio bound.meaning

variable {bound : Bound} {value : Value}

/-- A lower bound admits a value exactly if it admits what the value means. -/
theorem admitsAbove_iff : bound.admitsAbove value = true ↔ value.meaning ∈ bound.above := by
  cases bound with
  | unbounded => exact iff_of_true rfl (Set.mem_univ _)
  | included bound => exact Value.le_iff
  | excluded bound => exact Value.lt_iff

/-- An upper bound admits a value exactly if it admits what the value means. -/
theorem admitsBelow_iff : bound.admitsBelow value = true ↔ value.meaning ∈ bound.below := by
  cases bound with
  | unbounded => exact iff_of_true rfl (Set.mem_univ _)
  | included bound => exact Value.le_iff
  | excluded bound => exact Value.lt_iff

/-- There are no gaps above a lower bound. -/
theorem ordConnected_above (bound : Bound) : bound.above.OrdConnected := by
  cases bound with
  | unbounded => exact Set.ordConnected_univ
  | included bound => exact Set.ordConnected_Ici
  | excluded bound => exact Set.ordConnected_Ioi

/-- There are no gaps below an upper bound. -/
theorem ordConnected_below (bound : Bound) : bound.below.OrdConnected := by
  cases bound with
  | unbounded => exact Set.ordConnected_univ
  | included bound => exact Set.ordConnected_Iic
  | excluded bound => exact Set.ordConnected_Iio

end Bound

namespace Interval

/-- The meanings between the bounds of an interval. -/
def region (interval : Interval) : Set Meaning := interval.lower.above ∩ interval.upper.below

variable {comparison : Comparison} {literal value : Value}

/-- An interval contains the values whose meanings lie between its bounds. -/
theorem contains_iff {interval : Interval} :
    interval.contains value = true ↔ value.meaning ∈ interval.region := by
  rw [contains, Bool.and_eq_true, Bound.admitsAbove_iff, Bound.admitsBelow_iff, region,
    Set.mem_inter_iff]

/-- There are no gaps in an interval. -/
theorem ordConnected_region (interval : Interval) : interval.region.OrdConnected :=
  interval.lower.ordConnected_above.inter interval.upper.ordConnected_below

/-- The interval for a comparison has the meanings of which the comparison says what it says. -/
theorem mem_region_ofComparison {m : Meaning} :
    m ∈ (ofComparison comparison literal).region ↔ comparison.Relates m literal.meaning := by
  cases comparison with
  | equal => exact (and_comm.trans le_antisymm_iff.symm : _ ↔ m = literal.meaning)
  | less => exact and_iff_right (Set.mem_univ m)
  | lessOrEqual => exact and_iff_right (Set.mem_univ m)
  | greater => exact and_iff_left (Set.mem_univ m)
  | greaterOrEqual => exact and_iff_left (Set.mem_univ m)

/-- The interval for a comparison contains the values of which the comparison holds. -/
theorem contains_ofComparison_iff :
    (ofComparison comparison literal).contains value = true ↔ comparison.Holds value literal := by
  rw [contains_iff, mem_region_ofComparison, Comparison.holds_iff]

/-- Whether the interval for a comparison contains a value depends only on how the value compares
with the literal. -/
theorem contains_ofComparison : (ofComparison comparison literal).contains value =
    (value.order? literal).any comparison.accepts := by
  rw [Bool.eq_iff_iff, contains_ofComparison_iff, Comparison.holds_iff_order?]

/-- Of a value of the literal's kind, one answer to how it compares settles all comparisons. -/
theorem exists_contains_ofComparison (h : value.kind = literal.kind) :
    ∃ result : Ordering, ∀ comparison : Comparison,
      (ofComparison comparison literal).contains value = comparison.accepts result := by
  obtain ⟨result, hresult⟩ := Option.isSome_iff_exists.mp (Value.isSome_order?_iff.mpr h)
  refine ⟨result, fun comparison => ?_⟩
  rw [contains_ofComparison, hresult, Option.any_some]

/-- What lies between two values of an interval is in the interval. -/
theorem contains_of_between {interval : Interval} {a x c : Value} (hax : a.le x = true)
    (hxc : x.le c = true) (ha : interval.contains a = true) (hc : interval.contains c = true) :
    interval.contains x = true := by
  have hbetween : x.meaning ∈ Set.Icc a.meaning c.meaning :=
    ⟨Value.le_iff.mp hax, Value.le_iff.mp hxc⟩
  exact contains_iff.mpr
    (interval.ordConnected_region.out (contains_iff.mp ha) (contains_iff.mp hc) hbetween)

/-- The laws of intervals, for comparisons of any value with any literal. -/
structure Laws : Prop where
  /-- The interval for a comparison contains the values of which the comparison holds. -/
  exact : ∀ (comparison : Comparison) (literal value : Value),
    (ofComparison comparison literal).contains value = true ↔ comparison.Holds value literal
  /-- The test for such an interval accepts what it contains, and never an absent value. -/
  tested : ∀ (comparison : Comparison) (literal : Value) (value? : Option Value),
    (Predicate.interval (ofComparison comparison literal)).accepts value? = true ↔
      ∃ value, value? = some value ∧ comparison.Holds value literal
  /-- Of a value of the literal's kind, exactly one of below, equal and above holds. -/
  single : ∀ literal value : Value, value.kind = literal.kind →
    ∃! comparison : Comparison, comparison ∈ [.less, .equal, .greater] ∧
      (ofComparison comparison literal).contains value = true
  /-- Such a value is below or equal exactly if it is not above. -/
  notAbove : ∀ literal value : Value, value.kind = literal.kind →
    (ofComparison .lessOrEqual literal).contains value =
      !(ofComparison .greater literal).contains value
  /-- Such a value is above or equal exactly if it is not below. -/
  notBelow : ∀ literal value : Value, value.kind = literal.kind →
    (ofComparison .greaterOrEqual literal).contains value =
      !(ofComparison .less literal).contains value
  /-- No comparison accepts a value of another kind than the literal. -/
  foreign : ∀ (comparison : Comparison) (literal value : Value), value.kind ≠ literal.kind →
    (ofComparison comparison literal).contains value = false
  /-- What lies between two values of an interval is in the interval, whatever its bounds are. -/
  convex : ∀ (interval : Interval) (a x c : Value), a.le x = true → x.le c = true →
    interval.contains a = true → interval.contains c = true → interval.contains x = true

/-- Intervals express comparisons exactly, and every interval is convex. -/
theorem comparisons_exact : Laws where
  exact _ _ _ := contains_ofComparison_iff
  tested comparison literal value? := by
    cases value? with
    | none => simp [Predicate.accepts]
    | some value => simp [Predicate.accepts, contains_ofComparison_iff]
  single literal value hkind := by
    obtain ⟨result, hresult⟩ := exists_contains_ofComparison hkind
    simp only [hresult]
    exact Comparison.single_accepts result
  notAbove literal value hkind := by
    obtain ⟨result, hresult⟩ := exists_contains_ofComparison hkind
    rw [hresult, hresult]
    cases result <;> rfl
  notBelow literal value hkind := by
    obtain ⟨result, hresult⟩ := exists_contains_ofComparison hkind
    rw [hresult, hresult]
    cases result <;> rfl
  foreign comparison literal value hkind := by
    have hnone : value.order? literal = none :=
      Option.not_isSome_iff_eq_none.mp fun h => hkind (Value.isSome_order?_iff.mp h)
    rw [contains_ofComparison, hnone, Option.any_none]
  convex _ _ _ _ := contains_of_between

/-- A whole number is compared with a decimal as the number it is, and text is not. -/
example : (ofComparison .less (.decimal ⟨false, 405, 1⟩)).contains (.integer 40) = true ∧
    (ofComparison .less (.decimal ⟨false, 405, 1⟩)).contains (.text "40") = false := by
  decide

end Interval

end Percolator
