import Mathlib.Algebra.Order.Field.Rat
import Mathlib.Tactic.Ring
import Percolator.Decimal

/-!
# The numbers that decimals denote

A decimal denotes a rational number, and every such number is denoted by many decimals: their scales
differ, and zero is denoted with a sign and without one. Main statements: comparing two decimals is
comparing the numbers that they denote, and two decimals have the same normal form exactly if they
denote the same number.
-/

namespace Percolator.Decimal

/-- The number that a decimal denotes. -/
def toRat (d : Decimal) : ℚ := d.coefficient / d.denominator

/-- Nothing is divided by zero. -/
theorem denominator_pos (d : Decimal) : 0 < d.denominator := Nat.pow_pos (by decide)

/-- A whole number keeps its sign apart from its digits. -/
@[simp] theorem coefficient_ofInt (n : Int) : (ofInt n).coefficient = n := by
  rw [ofInt, coefficient]
  split
  · rename_i hnegative
    have hlt : n < 0 := of_decide_eq_true hnegative
    dsimp only
    omega
  · rename_i hnegative
    have hlt : ¬ n < 0 := fun h => hnegative (decide_eq_true h)
    dsimp only
    omega

/-- A whole number denotes itself. -/
@[simp] theorem toRat_ofInt (n : Int) : (ofInt n).toRat = n := by
  rw [toRat, coefficient_ofInt]
  simp [ofInt, denominator]

/-- The sign of a zero is not part of the number. -/
theorem coefficient_of_zero (negative : Bool) (scale : Nat) :
    coefficient ⟨negative, 0, scale⟩ = 0 := by
  cases negative <;> rfl

/-- A multiple of the mantissa makes a multiple of the coefficient. -/
theorem coefficient_mul (negative : Bool) (mantissa factor scale scale' : Nat) :
    coefficient ⟨negative, mantissa * factor, scale'⟩
      = coefficient ⟨negative, mantissa, scale⟩ * factor := by
  cases negative with
  | false => exact Int.natCast_mul mantissa factor
  | true => exact (congrArg Neg.neg (Int.natCast_mul mantissa factor)).trans (Int.neg_mul _ _).symm

/-- Zero is denoted with a sign and without one, at every scale. -/
theorem toRat_of_zero (negative : Bool) (scale : Nat) : toRat ⟨negative, 0, scale⟩ = 0 := by
  rw [toRat, coefficient_of_zero, Int.cast_zero, zero_div]

/-- A whole number is denoted at every scale, with zeros after the point. -/
theorem toRat_scaled (n : Int) (scale : Nat) :
    toRat ⟨n < 0, n.natAbs * 10 ^ scale, scale⟩ = n := by
  have hpow : ((10 ^ scale : Nat) : ℚ) ≠ 0 := Nat.cast_ne_zero.mpr (Nat.pow_pos (by decide)).ne'
  have hcoefficient : coefficient ⟨n < 0, n.natAbs * 10 ^ scale, scale⟩
      = n * ((10 ^ scale : Nat) : Int) :=
    (coefficient_mul _ _ _ 0 scale).trans (congrArg (· * _) (coefficient_ofInt n))
  rw [toRat, hcoefficient, denominator, Int.cast_mul, Int.cast_natCast]
  exact mul_div_cancel_right₀ _ hpow

/-- Two numbers compare like their coefficients over a common denominator. -/
theorem toRat_lt_iff {a b : Decimal} : a.toRat < b.toRat ↔
    a.coefficient * (b.denominator : Int) < b.coefficient * (a.denominator : Int) := by
  have ha : (0 : ℚ) < a.denominator := Nat.cast_pos.mpr a.denominator_pos
  have hb : (0 : ℚ) < b.denominator := Nat.cast_pos.mpr b.denominator_pos
  rw [toRat, toRat, div_lt_div_iff₀ ha hb]
  exact_mod_cast Iff.rfl

/-- Two numbers are the same if their coefficients over a common denominator are. -/
theorem toRat_eq_iff {a b : Decimal} : a.toRat = b.toRat ↔
    a.coefficient * (b.denominator : Int) = b.coefficient * (a.denominator : Int) := by
  have ha : (a.denominator : ℚ) ≠ 0 := Nat.cast_ne_zero.mpr a.denominator_pos.ne'
  have hb : (b.denominator : ℚ) ≠ 0 := Nat.cast_ne_zero.mpr b.denominator_pos.ne'
  rw [toRat, toRat, div_eq_div_iff ha hb]
  exact_mod_cast Iff.rfl

/-- Decimals compare like the numbers that they denote. -/
theorem order_eq_iff {a b : Decimal} {result : Ordering} :
    a.order b = result ↔ result.Compares a.toRat b.toRat := by
  rw [order, compare_iff]
  cases result with
  | lt => exact toRat_lt_iff.symm
  | eq => exact toRat_eq_iff.symm
  | gt => exact toRat_lt_iff.symm

/-- The digits after the point do not end in a zero, and zero has no sign. -/
structure IsNormal (d : Decimal) : Prop where
  digits : d.scale = 0 ∨ d.mantissa % 10 ≠ 0
  sign : d.mantissa = 0 → d.negative = false

/-- Dropping zeros drops all of them. -/
theorem digits_stripZeros (negative : Bool) (mantissa scale : Nat) :
    (stripZeros negative mantissa scale).scale = 0 ∨
      (stripZeros negative mantissa scale).mantissa % 10 ≠ 0 := by
  induction scale generalizing mantissa with
  | zero => exact .inl rfl
  | succ scale ih =>
    rw [stripZeros]
    split
    · exact ih (mantissa / 10)
    · exact .inr ‹_›

/-- Dropping zeros keeps the sign, and makes no zero of another number. -/
theorem sign_stripZeros (negative : Bool) (mantissa scale : Nat) :
    (stripZeros negative mantissa scale).negative = negative ∧
      ((stripZeros negative mantissa scale).mantissa = 0 → mantissa = 0) := by
  induction scale generalizing mantissa with
  | zero => exact ⟨rfl, id⟩
  | succ scale ih =>
    rw [stripZeros]
    split
    · obtain ⟨hsign, hzero⟩ := ih (mantissa / 10)
      exact ⟨hsign, fun h => by have htenth := hzero h; omega⟩
    · exact ⟨rfl, id⟩

/-- Dropping zeros does not change the number. -/
theorem toRat_stripZeros (negative : Bool) (mantissa scale : Nat) :
    (stripZeros negative mantissa scale).toRat = (⟨negative, mantissa, scale⟩ : Decimal).toRat := by
  induction scale generalizing mantissa with
  | zero => rfl
  | succ scale ih =>
    rw [stripZeros]
    split
    · rename_i hzero
      have htenth : mantissa / 10 * 10 = mantissa := Nat.div_mul_cancel (Nat.dvd_of_mod_eq_zero hzero)
      have hcoefficient := coefficient_mul negative (mantissa / 10) 10 scale (scale + 1)
      rw [htenth] at hcoefficient
      rw [ih, toRat_eq_iff, hcoefficient]
      show _ * ((10 ^ (scale + 1) : Nat) : Int) = _ * ((10 ^ scale : Nat) : Int)
      rw [pow_succ]
      push_cast
      ring
    · rfl

/-- The normal form has no zeros to drop and no sign on zero. -/
theorem isNormal_normalize (d : Decimal) : d.normalize.IsNormal := by
  obtain ⟨hsign, hzero⟩ := sign_stripZeros (d.negative && d.mantissa != 0) d.mantissa d.scale
  refine ⟨digits_stripZeros _ _ _, fun h => ?_⟩
  rw [normalize, hsign, hzero h]
  exact Bool.and_false _

/-- The normal form denotes the same number. -/
theorem toRat_normalize (d : Decimal) : d.normalize.toRat = d.toRat := by
  obtain ⟨negative, mantissa, scale⟩ := d
  rw [normalize, toRat_stripZeros]
  cases mantissa with
  | zero => rw [toRat, toRat, coefficient_of_zero, coefficient_of_zero]; rfl
  | succ n => exact congrArg (fun sign => toRat ⟨sign, n + 1, scale⟩) (Bool.and_true negative)

/-- A coefficient that is a multiple of ten has a mantissa that is one. -/
theorem ten_dvd_mantissa {d : Decimal} (h : (10 : Int) ∣ d.coefficient) : d.mantissa % 10 = 0 := by
  rw [coefficient] at h
  split at h
  · omega
  · omega

/-- The sign and the mantissa are told by the coefficient, unless zero has a sign. -/
theorem IsNormal.eq_of_coefficient {a b : Decimal} (ha : a.IsNormal) (hb : b.IsNormal)
    (h : a.coefficient = b.coefficient) : a.negative = b.negative ∧ a.mantissa = b.mantissa := by
  obtain ⟨sign, mantissa, scale⟩ := a
  obtain ⟨sign', mantissa', scale'⟩ := b
  have hsign : mantissa = 0 → sign = false := ha.sign
  have hsign' : mantissa' = 0 → sign' = false := hb.sign
  cases sign <;> cases sign' <;> simp [coefficient] at h hsign hsign' ⊢ <;> omega

/-- A number has one normal form only. -/
theorem IsNormal.eq {a b : Decimal} (ha : a.IsNormal) (hb : b.IsNormal)
    (h : a.toRat = b.toRat) : a = b := by
  rw [toRat_eq_iff] at h
  -- The mantissa of the decimal with more digits after the point would end in a zero.
  have hle : ∀ {a b : Decimal}, b.IsNormal →
      a.coefficient * (b.denominator : Int) = b.coefficient * (a.denominator : Int) →
      b.scale ≤ a.scale := by
    intro a b hb h
    by_contra hlt
    obtain ⟨more, hmore⟩ := Nat.exists_eq_add_of_lt (Nat.lt_of_not_le hlt)
    have hscaled : b.coefficient = a.coefficient * 10 ^ more * 10 := by
      have hpos : ((10 : Int) ^ a.scale) ≠ 0 := pow_ne_zero _ (by decide)
      refine mul_right_cancel₀ hpos ?_
      have hcommon : a.coefficient * (10 : Int) ^ b.scale = b.coefficient * 10 ^ a.scale := by
        exact_mod_cast h
      rw [← hcommon, hmore]
      ring
    rcases hb.digits with hzero | hdigit
    · omega
    · exact hdigit (ten_dvd_mantissa ⟨_, hscaled.trans (mul_comm _ _)⟩)
  have hscale : a.scale = b.scale := Nat.le_antisymm (hle ha h.symm) (hle hb h)
  have hcoefficient : a.coefficient = b.coefficient := by
    rw [denominator, denominator, hscale] at h
    exact mul_right_cancel₀ (Nat.cast_ne_zero.mpr (Nat.pow_pos (by decide)).ne') h
  obtain ⟨hsign, hmantissa⟩ := ha.eq_of_coefficient hb hcoefficient
  cases a
  cases b
  rw [mk.injEq]
  exact ⟨hsign, hmantissa, hscale⟩

/-- Decimals have the same normal form exactly if they denote the same number. -/
theorem normalize_eq_iff {a b : Decimal} :
    a.normalize = b.normalize ↔ a.toRat = b.toRat := by
  constructor
  · intro h
    rw [← a.toRat_normalize, h, b.toRat_normalize]
  · intro h
    exact a.isNormal_normalize.eq b.isNormal_normalize
      (a.toRat_normalize.trans (h.trans b.toRat_normalize.symm))

end Percolator.Decimal
