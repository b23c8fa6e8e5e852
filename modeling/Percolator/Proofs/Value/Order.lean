import Mathlib.Data.String.Basic
import Mathlib.Data.Sum.Order
import Percolator.Proofs.Value.Number
import Percolator.Value

/-!
# The order of values

A value means a truth value, a text or a rational number. Meanings of one kind are ordered as usual,
and meanings of different kinds not at all. Main statement: values compare like what they mean, so
they are comparable exactly if they are of one kind; their order is reversed when looked at from the
other side, and transitive through any mix of whole numbers and decimals; equality is an equivalence;
and values are equal exactly if the same data is hashed for both, so that a set made by hashing holds
one value of each class. Neither the scale of a decimal nor the sign of a zero is part of its meaning.
-/

namespace Percolator.Value

/-- The kinds of values that are comparable among each other. -/
inductive Kind where
  | truth
  | text
  | number
  deriving DecidableEq

/-- The kind of a value: whole numbers and decimals are both numbers. -/
def kind : Value → Kind
  | boolean _ => .truth
  | text _ => .text
  | integer _ => .number
  | decimal _ => .number

/-- What values mean, in three parts with nothing between them in the order. -/
abbrev Meaning : Type := Bool ⊕ String ⊕ ℚ

/-- What a value means. -/
def meaning : Value → Meaning
  | boolean b => .inl b
  | text s => .inr (.inl s)
  | integer n => .inr (.inr n)
  | decimal d => .inr (.inr d.toRat)

/-- The laws of comparing, equating and hashing values. -/
structure Laws : Prop where
  /-- Values compare like what they mean. -/
  exact : ∀ (a b : Value) (result : Ordering), a.order? b = some result ↔
    result.Compares a.meaning b.meaning
  /-- Values are comparable if both are truth values, both are text or both are numbers. -/
  comparable : ∀ a b : Value, (a.order? b).isSome = true ↔ a.kind = b.kind
  /-- Seen from the other side, the order is reversed. -/
  reversed : ∀ a b : Value, b.order? a = (a.order? b).map Ordering.swap
  /-- The order is transitive. -/
  transitive : ∀ a b c : Value, a.le b = true → b.le c = true → a.le c = true
  /-- Two steps in the order, one of them strict, are a strict step. -/
  strict : ∀ a b c : Value, a.le b = true → b.le c = true → (a.lt b = true ∨ b.lt c = true) →
    a.lt c = true
  /-- Equality is an equivalence. -/
  equivalence : Equivalence fun a b : Value => (a == b) = true
  /-- Values are equal if they compare as equal. -/
  equal : ∀ a b : Value, (a == b) = true ↔ a.order? b = some .eq
  /-- A whole number is equal to the decimals that only add zeros after the point. -/
  scaled : ∀ (n : Int) (scale : Nat),
    (decimal ⟨n < 0, n.natAbs * 10 ^ scale, scale⟩ == integer n) = true
  /-- A zero is equal to zero, with a sign and without one. -/
  zero : ∀ (negative : Bool) (scale : Nat), (decimal ⟨negative, 0, scale⟩ == integer 0) = true
  /-- Values are equal if the same data is hashed for both. -/
  hashed : ∀ a b : Value, (a == b) = true ↔ a.key = b.key
  /-- Among some values there are as many different ones as can be kept without keeping two that are
  equal, so that each is equal to one that is kept. -/
  held : ∀ values : List Value, ∃ kept : List Value, kept.Sublist values ∧
    kept.Pairwise (fun a b => (a == b) = false) ∧
    (∀ value ∈ values, ∃ held ∈ kept, (value == held) = true) ∧ distinct values = kept.length

section Sum

variable {α β : Type} [LT α] [LT β] {result : Ordering}

/-- Meanings of the first kind compare as they do. -/
@[simp] theorem compares_inl {x y : α} :
    result.Compares (.inl x : α ⊕ β) (.inl y) ↔ result.Compares x y := by
  cases result <;> simp [Ordering.Compares]

/-- So do meanings of the second kind. -/
@[simp] theorem compares_inr {x y : β} :
    result.Compares (.inr x : α ⊕ β) (.inr y) ↔ result.Compares x y := by
  cases result <;> simp [Ordering.Compares]

/-- Meanings of different kinds do not compare. -/
@[simp] theorem not_compares_inl_inr {x : α} {y : β} :
    ¬ result.Compares (.inl x : α ⊕ β) (.inr y) := by
  cases result <;> simp [Ordering.Compares]

/-- Nor do they the other way round. -/
@[simp] theorem not_compares_inr_inl {x : β} {y : α} :
    ¬ result.Compares (.inr x : α ⊕ β) (.inl y) := by
  cases result <;> simp [Ordering.Compares]

end Sum

variable {a b c : Value}

/-- Values compare like what they mean. -/
theorem order?_eq_some_iff {result : Ordering} :
    a.order? b = some result ↔ result.Compares a.meaning b.meaning := by
  cases a <;> cases b <;>
    simp [order?, meaning, number?, Decimal.order_eq_iff, compare_iff]

/-- Values of one kind are comparable, and no others. -/
theorem isSome_order?_iff : (a.order? b).isSome = true ↔ a.kind = b.kind := by
  cases a <;> cases b <;> simp [order?, number?, kind]

/-- Looking from the other side reverses the order. -/
theorem order?_swap (a b : Value) : b.order? a = (a.order? b).map Ordering.swap := by
  refine Option.ext fun result => ?_
  have hback : Option.map Ordering.swap (a.order? b) = some result ↔
      a.order? b = some result.swap := by
    cases a.order? b with
    | none => simp
    | some found => cases found <;> cases result <;> simp
  rw [hback, order?_eq_some_iff, order?_eq_some_iff, Ordering.compares_swap]

/-- A value is below another if its meaning is. -/
theorem lt_iff : a.lt b = true ↔ a.meaning < b.meaning := by
  rw [lt, beq_iff_eq]
  exact order?_eq_some_iff

/-- Values are equal if they compare as equal. -/
theorem beq_iff : (a == b) = true ↔ a.order? b = some .eq :=
  beq_iff_eq (a := a.order? b) (b := some .eq)

/-- Values are equal if they mean the same. -/
theorem beq_iff_meaning : (a == b) = true ↔ a.meaning = b.meaning :=
  beq_iff.trans order?_eq_some_iff

/-- A decimal is equal to a whole number if it denotes it. -/
theorem decimal_beq_integer_iff {d : Decimal} {n : Int} :
    (decimal d == integer n) = true ↔ d.toRat = n := by
  rw [beq_iff_meaning, meaning, meaning, Sum.inr.injEq, Sum.inr.injEq]

/-- A value is not above another if its meaning is below or the same. -/
theorem le_iff : a.le b = true ↔ a.meaning ≤ b.meaning := by
  rw [le, Bool.or_eq_true, lt_iff, beq_iff_meaning, le_iff_lt_or_eq]

/-- The same data is hashed for values that mean the same, and for no others. -/
theorem key_eq_iff : a.key = b.key ↔ a.meaning = b.meaning := by
  cases a <;> cases b <;> simp [key, meaning, Decimal.normalize_eq_iff]

/-- Equality is telling by the hashed data. -/
theorem beq_eq_key (a b : Value) : (a == b) = (a.key == b.key) := by
  rw [Bool.eq_iff_iff, beq_iff_meaning, beq_iff_eq, key_eq_iff]

/-- Among values, one of each class can be kept, and these are as many as are told apart. -/
theorem exists_kept (values : List Value) : ∃ kept : List Value, kept.Sublist values ∧
    kept.Pairwise (fun a b => (a == b) = false) ∧
    (∀ value ∈ values, ∃ held ∈ kept, (value == held) = true) ∧ distinct values = kept.length := by
  -- The induction drops all values that are equal to the first one.
  induction hlength : values.length using Nat.strong_induction_on generalizing values with
  | _ length ih =>
    cases values with
    | nil => exact ⟨[], .slnil, .nil, by simp, rfl⟩
    | cons first rest =>
      have hshorter : (rest.filter fun value => !(value == first)).length < length := by
        rw [← hlength, List.length_cons]
        exact Nat.lt_succ_of_le (List.length_filter_le _ _)
      obtain ⟨kept, hsub, hpairwise, hcovers, hcount⟩ := ih _ hshorter _ rfl
      refine ⟨first :: kept, (hsub.trans List.filter_sublist).cons_cons first, ?_, ?_, ?_⟩
      · refine hpairwise.cons fun value hvalue => ?_
        have hother := (List.mem_filter.mp (hsub.subset hvalue)).2
        rw [Bool.not_eq_true'] at hother
        rw [← Bool.not_eq_true, beq_iff_meaning] at hother ⊢
        exact Ne.symm hother
      · intro value hvalue
        by_cases hsame : (value == first) = true
        · exact ⟨first, List.mem_cons_self, hsame⟩
        · have hrest : value ∈ rest := by
            refine (List.mem_cons.mp hvalue).resolve_left fun heq => ?_
            exact hsame (beq_iff_meaning.mpr (congrArg meaning heq))
          obtain ⟨held, hheld, hequal⟩ :=
            hcovers value (List.mem_filter.mpr ⟨hrest, by simpa using hsame⟩)
          exact ⟨held, List.mem_cons_of_mem _ hheld, hequal⟩
      · have hkeys : (rest.map key).filter (fun other => !(other == first.key))
            = (rest.filter fun value => !(value == first)).map key := by
          rw [List.filter_map]
          refine congrArg (List.map key) (List.filter_congr fun value _ => ?_)
          rw [beq_eq_key]
          rfl
        rw [distinct, List.map_cons, List.eraseDups_cons, hkeys, List.length_cons, List.length_cons,
          ← hcount, distinct]

/-- Values are compared, equated and hashed lawfully. -/
theorem lawful : Laws where
  exact _ _ _ := order?_eq_some_iff
  comparable _ _ := isSome_order?_iff
  reversed := order?_swap
  transitive a b c hab hbc := le_iff.mpr ((le_iff.mp hab).trans (le_iff.mp hbc))
  strict a b c hab hbc hstrict := by
    refine lt_iff.mpr ?_
    rcases hstrict with hab' | hbc'
    · exact (lt_iff.mp hab').trans_le (le_iff.mp hbc)
    · exact (le_iff.mp hab).trans_lt (lt_iff.mp hbc')
  equivalence := {
    refl := fun a => beq_iff_meaning.mpr rfl
    symm := fun h => beq_iff_meaning.mpr (beq_iff_meaning.mp h).symm
    trans := fun hab hbc =>
      beq_iff_meaning.mpr ((beq_iff_meaning.mp hab).trans (beq_iff_meaning.mp hbc)) }
  equal _ _ := beq_iff
  scaled n scale := decimal_beq_integer_iff.mpr (Decimal.toRat_scaled n scale)
  zero negative scale := decimal_beq_integer_iff.mpr <| by
    rw [Decimal.toRat_of_zero, Int.cast_zero]
  hashed _ _ := beq_iff_meaning.trans key_eq_iff.symm
  held := exists_kept

/-- Three is one value, and so is zero, with a sign or without one. -/
example : distinct [.integer 3, .decimal ⟨false, 30, 1⟩, .integer 0, .decimal ⟨false, 300, 2⟩,
    .decimal ⟨false, 0, 1⟩, .decimal ⟨true, 0, 1⟩] = 2 := by
  decide

end Percolator.Value
