/-!
# Decimal numbers

A decimal number has a sign, a mantissa and the number of the digits of the mantissa that stand after
the point. Numbers such as `1.5` and `1.50` keep different scales, so they are written differently,
and are equal all the same: comparison is by the number denoted, exactly, whatever the scales are.
Zero may have a sign as well, which comparison does not see.
-/

namespace Percolator

/-- The number `mantissa / 10 ^ scale`, or the number opposite to it. -/
structure Decimal where
  /-- Whether there is a minus sign, which zero may have too. -/
  negative : Bool
  /-- All digits of the number, read as one whole number. -/
  mantissa : Nat
  /-- How many of the digits stand after the point. -/
  scale : Nat
  deriving DecidableEq

namespace Decimal

/-- The number without its point. -/
def coefficient (d : Decimal) : Int := if d.negative then -d.mantissa else d.mantissa

/-- A whole number has no digits after the point. -/
def ofInt (n : Int) : Decimal := ⟨n < 0, n.natAbs, 0⟩

/-- What the coefficient is divided by. -/
def denominator (d : Decimal) : Nat := Nat.pow 10 d.scale

/-- Compare two numbers exactly, over the common denominator of both. The sign of a zero is not seen.
-/
def order (a b : Decimal) : Ordering :=
  compare (a.coefficient * b.denominator) (b.coefficient * a.denominator)

/-- Drop the zeros that end the digits after the point. -/
def stripZeros (negative : Bool) (mantissa : Nat) : Nat → Decimal
  | 0 => ⟨negative, mantissa, 0⟩
  | scale + 1 =>
    if mantissa % 10 = 0 then stripZeros negative (mantissa / 10) scale
    else ⟨negative, mantissa, scale + 1⟩

/-- The form with the smallest scale and no sign on zero, the same for all decimals that denote one
number. -/
def normalize (d : Decimal) : Decimal :=
  stripZeros (d.negative && d.mantissa != 0) d.mantissa d.scale

/-- The digits of the mantissa, with zeros in front so that one stands before the point. -/
def digits (d : Decimal) : List Char :=
  let shown := Nat.toDigits 10 d.mantissa
  List.replicate (d.scale + 1 - shown.length) '0' ++ shown

/-- Positional notation with exactly `scale` digits after the point. -/
def render (d : Decimal) : String :=
  let digits := d.digits
  let whole := digits.take (digits.length - d.scale)
  let fraction := digits.drop (digits.length - d.scale)
  String.ofList ((if d.negative then ['-'] else []) ++ whole
    ++ (if fraction.isEmpty then [] else '.' :: fraction))

/-- The value of a nonempty row of decimal digits. -/
def digitsValue? (row : List Char) : Option Nat :=
  if row.isEmpty then none
  else row.foldl (fun value? c => value?.bind fun value =>
    if c.isDigit then some (10 * value + (c.toNat - '0'.toNat)) else none) (some 0)

/-- Read an unsigned number: digits, and perhaps a point with more digits. -/
def ofDigits? (row : List Char) : Option Decimal :=
  match row.dropWhile (· != '.') with
  | [] => (digitsValue? row).map fun n => ⟨false, n, 0⟩
  | _ :: fraction => do
    let whole ← digitsValue? (row.takeWhile (· != '.'))
    let part ← digitsValue? fraction
    return ⟨false, whole * Nat.pow 10 fraction.length + part, fraction.length⟩

/-- Read positional notation, with an optional minus sign in front. A zero that is read has no sign. -/
def ofText? (text : String) : Option Decimal :=
  match text.toList with
  | '-' :: row => (ofDigits? row).map fun d => { d with negative := d.mantissa != 0 }
  | row => ofDigits? row

end Decimal

end Percolator
