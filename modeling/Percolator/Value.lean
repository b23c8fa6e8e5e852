import Percolator.Decimal

/-!
# Attribute values

The values found on a data instance or written in a filter. Values are comparable when both are
booleans, both are text, or both are numbers; whole numbers and decimals mix freely and are compared
exactly. Values of different kinds are unordered, and so never equal. An absent attribute is no
value: wherever it can occur, the value is optional.
-/

namespace Percolator

/-- A single attribute value. -/
inductive Value where
  | boolean (b : Bool)
  | integer (n : Int)
  | decimal (d : Decimal)
  | text (s : String)
  deriving DecidableEq

namespace Value

/-- The characters of a text value. -/
def text? : Value → Option String
  | text s => some s
  | _ => none

/-- The number that a numeric value denotes. -/
def number? : Value → Option Decimal
  | integer n => some (.ofInt n)
  | decimal d => some d
  | _ => none

/-- How two values of comparable kinds compare: false is less than true, text goes by its
characters, numbers by the number denoted. -/
def order? : Value → Value → Option Ordering
  | boolean a, boolean b => some (compare a b)
  | text a, text b => some (compare a b)
  | a, b => do return (← a.number?).order (← b.number?)

/-- Values are equal when they compare as equal, so `3`, `3.0` and `3.00` are one value. -/
instance : BEq Value where
  beq a b := a.order? b == some .eq

/-- `a` is comparable to `b` and below it. -/
def lt (a b : Value) : Bool := a.order? b == some .lt

/-- `a` is comparable to `b` and not above it. -/
def le (a b : Value) : Bool := a.lt b || a == b

/-- What is left of a value when equal values are told apart no more: the data to hash. -/
inductive Key where
  | boolean (b : Bool)
  | number (d : Decimal)
  | text (s : String)
  deriving DecidableEq

/-- Numbers are keyed by their normal form, which forgets the kind and the scale. -/
def key : Value → Key
  | boolean b => .boolean b
  | integer n => .number (Decimal.ofInt n).normalize
  | decimal d => .number d.normalize
  | text s => .text s

/-- How many different values there are among some. -/
def distinct (values : List Value) : Nat := (values.map key).eraseDups.length

/-- Text is shown between quotes, with nothing escaped. -/
def render : Value → String
  | boolean true => "true"
  | boolean false => "false"
  | integer n => toString n
  | decimal d => d.render
  | text s => "'" ++ s ++ "'"

end Value

end Percolator
