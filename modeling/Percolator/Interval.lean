import Percolator.Expr.Basic

/-!
# Intervals

A comparison with a literal is an interval of values: every comparison bounds the value on one side
or on both. A value lies in an interval when it is comparable to the bounds and on the right side of
them, so a value of another kind than a bound lies in none.
-/

namespace Percolator

/-- One end of an interval. -/
inductive Bound where
  /-- No bound: minus infinity below, plus infinity above. -/
  | unbounded
  | included (value : Value)
  | excluded (value : Value)

namespace Bound

/-- Bounds are equal when they are of one form around equal values. -/
instance : BEq Bound where
  beq
    | unbounded, unbounded => true
    | included v, included w => v == w
    | excluded v, excluded w => v == w
    | _, _ => false

/-- Whether a value is on the inner side of a lower bound. -/
def admitsAbove : Bound → Value → Bool
  | unbounded, _ => true
  | included bound, value => bound.le value
  | excluded bound, value => bound.lt value

/-- Whether a value is on the inner side of an upper bound. -/
def admitsBelow : Bound → Value → Bool
  | unbounded, _ => true
  | included bound, value => value.le bound
  | excluded bound, value => value.lt bound

end Bound

/-- The values between two bounds. -/
structure Interval where
  lower : Bound
  upper : Bound

namespace Interval

/-- Intervals are equal when their bounds are. -/
instance : BEq Interval where
  beq a b := a.lower == b.lower && a.upper == b.upper

/-- The values for which a comparison with a literal holds. -/
def ofComparison (comparison : Comparison) (literal : Value) : Interval :=
  match comparison with
  | .equal => ⟨.included literal, .included literal⟩
  | .less => ⟨.unbounded, .excluded literal⟩
  | .lessOrEqual => ⟨.unbounded, .included literal⟩
  | .greater => ⟨.excluded literal, .unbounded⟩
  | .greaterOrEqual => ⟨.included literal, .unbounded⟩

/-- Whether a value lies between the bounds. -/
def contains (interval : Interval) (value : Value) : Bool :=
  interval.lower.admitsAbove value && interval.upper.admitsBelow value

/-- The interval in bracket notation: a square bracket stands at an included bound. -/
def render (interval : Interval) : String :=
  let lower := match interval.lower with
    | .unbounded => "(-∞"
    | .included value => "[" ++ value.render
    | .excluded value => "(" ++ value.render
  let upper := match interval.upper with
    | .unbounded => ", +∞)"
    | .included value => ", " ++ value.render ++ "]"
    | .excluded value => ", " ++ value.render ++ ")"
  lower ++ upper

end Interval

end Percolator
