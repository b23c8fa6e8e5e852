import Percolator.Proofs.Pattern.Equality
import Percolator.Proofs.Predicate.Interval

/-!
# Equal predicates are interchangeable

All that counts of a bound is its form and the meaning of its value, and all that counts of a
pattern is the text that it stands for. Predicates are equal if and only if they have this content
in common, and nothing else of them is used when a value is tested. Main statement: equality of
predicates is an equivalence, and equal predicates accept equal values alike, however their bounds
and patterns are written.
-/

namespace Percolator

open Value (Meaning)

namespace Bound

/-- What is left of a bound when equal bounds are told apart no more: whether its value is included,
and what the value means. -/
def content : Bound → Option (Bool × Meaning)
  | unbounded => none
  | included value => some (true, value.meaning)
  | excluded value => some (false, value.meaning)

variable {bound other : Bound}

/-- Bounds are equal if they have the same content. -/
theorem beq_iff : (bound == other) = true ↔ bound.content = other.content := by
  cases bound with
  | unbounded =>
    cases other with
    | unbounded => exact iff_of_true rfl rfl
    | included w => exact iff_of_false Bool.false_ne_true nofun
    | excluded w => exact iff_of_false Bool.false_ne_true nofun
  | included v =>
    cases other with
    | unbounded => exact iff_of_false Bool.false_ne_true nofun
    | included w => exact Value.beq_iff_meaning.trans (by simp [content])
    | excluded w => exact iff_of_false Bool.false_ne_true (by simp [content])
  | excluded v =>
    cases other with
    | unbounded => exact iff_of_false Bool.false_ne_true nofun
    | included w => exact iff_of_false Bool.false_ne_true (by simp [content])
    | excluded w => exact Value.beq_iff_meaning.trans (by simp [content])

/-- What a lower bound with some content admits. -/
theorem above_eq (bound : Bound) : bound.above = match bound.content with
    | none => Set.univ
    | some (true, meaning) => Set.Ici meaning
    | some (false, meaning) => Set.Ioi meaning := by
  cases bound <;> rfl

/-- What an upper bound with some content admits. -/
theorem below_eq (bound : Bound) : bound.below = match bound.content with
    | none => Set.univ
    | some (true, meaning) => Set.Iic meaning
    | some (false, meaning) => Set.Iio meaning := by
  cases bound <;> rfl

/-- The same bound with its whole number written as a decimal, of any scale. -/
inductive Respelled : Bound → Bound → Prop where
  | unbounded : Respelled unbounded unbounded
  | included {n : Int} {d : Decimal} (h : d.toRat = n) :
    Respelled (included (.integer n)) (included (.decimal d))
  | excluded {n : Int} {d : Decimal} (h : d.toRat = n) :
    Respelled (excluded (.integer n)) (excluded (.decimal d))

/-- Writing a number otherwise does not change what counts. -/
theorem Respelled.content_eq (h : bound.Respelled other) : bound.content = other.content := by
  cases h with
  | unbounded => rfl
  | included h => rw [content, content, Value.meaning, Value.meaning, h]
  | excluded h => rw [content, content, Value.meaning, Value.meaning, h]

end Bound

/-- Intervals with the same content of bounds contain values of one meaning alike. -/
theorem Interval.contains_congr {i j : Interval} {v w : Value}
    (hlower : i.lower.content = j.lower.content) (hupper : i.upper.content = j.upper.content)
    (hvalue : v.meaning = w.meaning) : i.contains v = j.contains w := by
  have hregion : i.region = j.region := by
    rw [region, region, Bound.above_eq, Bound.above_eq, Bound.below_eq, Bound.below_eq, hlower,
      hupper]
  rw [Bool.eq_iff_iff, contains_iff, contains_iff, hregion, hvalue]

/-- Values of one meaning have the same characters, if any. -/
theorem Value.text?_congr {v w : Value} (h : v.meaning = w.meaning) : v.text? = w.text? := by
  cases v <;> cases w <;> simp_all [meaning, text?]

namespace Predicate

/-- What is left of a predicate when equal predicates are told apart no more. -/
inductive Content where
  | interval (lower upper : Option (Bool × Meaning))
  | isNull
  | pattern (text : String)

/-- The content of a predicate. -/
def content : Predicate → Content
  | interval i => .interval i.lower.content i.upper.content
  | isNull => .isNull
  | pattern p => .pattern p.text

variable {p q : Predicate}

/-- Predicates are equal if they have the same content. -/
theorem beq_iff : (p == q) = true ↔ p.content = q.content := by
  cases p with
  | interval i =>
    cases q with
    | interval j =>
      have hbounds : (interval i == interval j) = true ↔
          (i.lower == j.lower) = true ∧ (i.upper == j.upper) = true := Bool.and_eq_true_iff
      rw [hbounds, Bound.beq_iff, Bound.beq_iff, content, content, Content.interval.injEq]
    | isNull => exact iff_of_false Bool.false_ne_true nofun
    | pattern q => exact iff_of_false Bool.false_ne_true nofun
  | isNull =>
    cases q with
    | interval j => exact iff_of_false Bool.false_ne_true nofun
    | isNull => exact iff_of_true rfl rfl
    | pattern q => exact iff_of_false Bool.false_ne_true nofun
  | pattern p =>
    cases q with
    | interval j => exact iff_of_false Bool.false_ne_true nofun
    | isNull => exact iff_of_false Bool.false_ne_true nofun
    | pattern q => exact Pattern.beq_iff.trans (by simp [content])

/-- Predicates with the same content accept values of one meaning alike. -/
theorem accepts_congr (h : p.content = q.content) {v w : Value} (hvalue : v.meaning = w.meaning) :
    p.accepts (some v) = q.accepts (some w) := by
  cases p with
  | interval i =>
    cases q with
    | interval j =>
      obtain ⟨hlower, hupper⟩ := Content.interval.inj h
      exact Interval.contains_congr hlower hupper hvalue
    | isNull => cases h
    | pattern q => cases h
  | isNull =>
    cases q with
    | interval j => cases h
    | isNull => rfl
    | pattern q => cases h
  | pattern p =>
    cases q with
    | interval j => cases h
    | isNull => cases h
    | pattern q =>
      have hmatch : p.isMatch = q.isMatch := funext (Pattern.isMatch_congr (Content.pattern.inj h))
      show v.text?.any p.isMatch = w.text?.any q.isMatch
      rw [Value.text?_congr hvalue, hmatch]

/-- The test for absence alone accepts an absent value. -/
theorem accepts_none_iff : p.accepts none = true ↔ p.content = .isNull := by
  cases p <;> simp [accepts, content]

/-- Predicates with the same content accept an absent value alike. -/
theorem accepts_none_congr (h : p.content = q.content) : p.accepts none = q.accepts none := by
  rw [Bool.eq_iff_iff, accepts_none_iff, accepts_none_iff, h]

/-- The laws of equality of predicates. -/
structure EqualityLaws : Prop where
  /-- Equality is an equivalence. -/
  equivalence : Equivalence fun p q : Predicate => (p == q) = true
  /-- Equal predicates accept equal values alike, and absent ones. -/
  interchangeable : ∀ (p q : Predicate) (v? w? : Option Value), (p == q) = true →
    Option.Rel (fun v w => (v == w) = true) v? w? → p.accepts v? = q.accepts w?
  /-- An interval stays equal and accepts the same values when the numbers at its bounds are written
  as decimals. -/
  respelled : ∀ i j : Interval, i.lower.Respelled j.lower → i.upper.Respelled j.upper →
    (interval i == interval j) = true ∧ ∀ v? : Option Value,
      (interval i).accepts v? = (interval j).accepts v?
  /-- Equal patterns match the same texts, however they are written. -/
  patterns : ∀ p q : Pattern, (p == q) = true → ∀ value : String, p.isMatch value = q.isMatch value

/-- Equal predicates are interchangeable. -/
theorem equal_interchangeable : EqualityLaws where
  equivalence := {
    refl := fun _ => beq_iff.mpr rfl
    symm := fun h => beq_iff.mpr (beq_iff.mp h).symm
    trans := fun hpq hqr => beq_iff.mpr ((beq_iff.mp hpq).trans (beq_iff.mp hqr)) }
  interchangeable p q v? w? h hvalues := by
    cases hvalues with
    | none => exact accepts_none_congr (beq_iff.mp h)
    | some hvalue => exact accepts_congr (beq_iff.mp h) (Value.beq_iff_meaning.mp hvalue)
  respelled i j hlower hupper := by
    have hcontent : (interval i).content = (interval j).content := by
      rw [content, content, hlower.content_eq, hupper.content_eq]
    refine ⟨beq_iff.mpr hcontent, fun v? => ?_⟩
    cases v? with
    | none => exact accepts_none_congr hcontent
    | some v => exact accepts_congr hcontent rfl
  patterns p q h value := Pattern.isMatch_congr (Pattern.beq_iff.mp h) value

/-- Two escape characters make two equal patterns, and two spellings of the bounds two equal
intervals. -/
theorem equal_interchangeable_respelled :
    (∃ p q : Pattern, Pattern.like? "100!%" (some '!') = some p ∧
      Pattern.like? "100#%" (some '#') = some q ∧ (p == q) = true ∧
      (pattern p).accepts (some (.text "100%")) = (pattern q).accepts (some (.text "100%"))) ∧
    ∃ i j : Interval, i = ⟨.included (.integer 3), .excluded (.integer 5)⟩ ∧
      j = ⟨.included (.decimal ⟨false, 30, 1⟩), .excluded (.decimal ⟨false, 500, 2⟩)⟩ ∧
      (interval i == interval j) = true := by
  constructor
  · have hread : ∀ (source : String) (escape : Option Char), source.toList.length ≤ 10000 →
        ∃ p, Pattern.like? source escape = some p := fun source escape hlength =>
      Option.isSome_iff_exists.mp (Pattern.isSome_like?_of_length_le hlength escape)
    obtain ⟨p, hp⟩ := hread "100!%" (some '!') (by decide)
    obtain ⟨q, hq⟩ := hread "100#%" (some '#') (by decide)
    have htokens : Like.tokens (some '!') "100!%".toList =
        Like.tokens (some '#') "100#%".toList := by
      simp [Like.tokens, Like.tokenOf]
    have htext : p.text = q.text := (Pattern.text_of_ofText? hp).trans
      ((congrArg Like.regexOf htokens).trans (Pattern.text_of_ofText? hq).symm)
    have hequal : (pattern p == pattern q) = true := Pattern.beq_iff.mpr htext
    have hvalue : (Value.text "100%" == .text "100%") = true := Value.beq_iff_meaning.mpr rfl
    exact ⟨p, q, hp, hq, hequal,
      equal_interchangeable.interchangeable _ _ _ _ hequal (.some hvalue)⟩
  · have hthree : (⟨false, 30, 1⟩ : Decimal).toRat = (3 : Int) := Decimal.toRat_scaled 3 1
    have hfive : (⟨false, 500, 2⟩ : Decimal).toRat = (5 : Int) := Decimal.toRat_scaled 5 2
    exact ⟨_, _, rfl, rfl,
      (equal_interchangeable.respelled _ _ (.included hthree) (.excluded hfive)).1⟩

end Predicate

end Percolator
