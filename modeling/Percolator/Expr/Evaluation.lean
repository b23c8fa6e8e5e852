import Percolator.Expr.Basic

/-!
# Direct evaluation

The value of an expression some of whose conditions are known to hold or to fail. The conditions are
told apart by their place: the parts of an expression are numbered in preorder, a negation taking
the number of the condition below it. An unknown condition counts in the way that makes the part
around it have the value `unknown`, so negations turn the way round. With unknown parts counted as
false the value is a lower bound of what the expression can still become, and with unknown parts
counted as true an upper bound; where both agree the verdict is known.
-/

namespace Percolator

/-- The value of an operator whose operands have these values. -/
def Connective.evaluate : Connective → List Bool → Bool
  | .and, values => values.all id
  | .or, values => values.any id

namespace Expr

mutual

/-- How many numbers an expression takes. -/
def size : Expr → Nat
  | constant _ => 1
  | not operand => operand.size
  | test _ _ => 1
  | join _ operands => 1 + sizeAll operands

/-- How many numbers operands take together. -/
def sizeAll : List Expr → Nat
  | [] => 0
  | e :: es => e.size + sizeAll es

end

mutual

/-- The value of an expression whose first number is `start`, when condition `k` is known to hold or
to fail as `known k` tells, and unknown parts count as `unknown`. -/
def evaluate (known : Nat → Option Bool) (unknown : Bool) (start : Nat) : Expr → Bool
  | constant value => value
  | not operand => !operand.evaluate known (!unknown) start
  | test _ _ => (known start).getD unknown
  | join connective operands =>
    connective.evaluate (evaluateAll known unknown (start + 1) operands)

/-- The values of operands, the first of which has the first number `start`. -/
def evaluateAll (known : Nat → Option Bool) (unknown : Bool) (start : Nat) : List Expr → List Bool
  | [] => []
  | e :: es => e.evaluate known unknown start :: evaluateAll known unknown (start + e.size) es

end

/-- The value of an expression, if it does not depend on the conditions that are not known. -/
def verdict (known : Nat → Option Bool) (e : Expr) : Option Bool :=
  if e.evaluate known false 0 then some true
  else if e.evaluate known true 0 then none
  else some false

mutual

/-- The expression with every operator exchanged for the other one. -/
def dual : Expr → Expr
  | constant value => constant value
  | not operand => not operand.dual
  | test name condition => test name condition
  | join connective operands => join connective.dual (dualAll operands)

/-- Operands with every operator exchanged for the other one. -/
def dualAll : List Expr → List Expr
  | [] => []
  | e :: es => e.dual :: dualAll es

end

end Expr

end Percolator
