import Percolator.Value

/-!
# Filter expressions

A filter is a boolean expression over conditions on attributes. An attribute is mentioned by its
dotted name; a condition compares its value with a literal, asks whether it is absent, or matches it
with a pattern. Operators take any number of operands.
-/

namespace Percolator

/-- How a value is compared with a literal. -/
inductive Comparison where
  | equal
  | less
  | lessOrEqual
  | greater
  | greaterOrEqual
  deriving DecidableEq

namespace Comparison

/-- The comparison sign. -/
def render : Comparison → String
  | equal => "="
  | less => "<"
  | lessOrEqual => "<="
  | greater => ">"
  | greaterOrEqual => ">="

/-- Whether a comparison accepts the way in which a value compares with the literal. -/
def accepts : Comparison → Ordering → Bool
  | equal, o => o == .eq
  | less, o => o == .lt
  | lessOrEqual, o => o != .gt
  | greater, o => o == .gt
  | greaterOrEqual, o => o != .lt

end Comparison

/-- What is asked of the value of an attribute. -/
inductive Condition where
  | compare (comparison : Comparison) (literal : Value)
  | isNull
  /-- A pattern where `%` stands for any text and `_` for any character. The escape character, if
  there is one, makes the character after it stand for itself. -/
  | like (pattern : String) (escape : Option Char)
  | regex (pattern : String)

namespace Condition

/-- The condition as it is written behind an attribute name. -/
def render : Condition → String
  | compare comparison literal => comparison.render ++ " " ++ literal.render
  | isNull => "IS NULL"
  | like pattern none => "LIKE '" ++ pattern ++ "'"
  | like pattern (some escape) =>
    "LIKE '" ++ pattern ++ "' ESCAPE '" ++ String.singleton escape ++ "'"
  | regex pattern => "~ '" ++ pattern ++ "'"

/-- Conditions are equal when they are written alike, up to the spelling of a literal number. -/
instance : BEq Condition where
  beq
    | compare c v, compare d w => c == d && v == w
    | isNull, isNull => true
    | like p e, like q f => p == q && e == f
    | regex p, regex q => p == q
    | _, _ => false

end Condition

/-- The operators that join operands. -/
inductive Connective where
  | and
  | or
  deriving DecidableEq

namespace Connective

/-- The word for an operator. -/
def render : Connective → String
  | and => "AND"
  | or => "OR"

/-- The operand value that decides the operator at once, and then is its value. -/
def absorbing : Connective → Bool
  | and => false
  | or => true

/-- The other operator. -/
def dual : Connective → Connective
  | and => or
  | or => and

end Connective

/-- A boolean expression over conditions on attributes. -/
inductive Expr where
  | constant (value : Bool)
  | not (operand : Expr)
  /-- A condition on the attribute with the dotted name `name`. -/
  | test (name : String) (condition : Condition)
  | join (connective : Connective) (operands : List Expr)

namespace Expr

/-- Whether an expression is a single condition. -/
def isTest : Expr → Bool
  | test _ _ => true
  | _ => false

mutual

/-- The text of an expression. -/
def render : Expr → String
  | constant true => "TRUE"
  | constant false => "FALSE"
  | not operand => "NOT(" ++ operand.render ++ ")"
  | test name condition => name ++ " " ++ condition.render
  | join connective operands =>
    connective.render ++ "(" ++ ", ".intercalate (renderAll operands) ++ ")"

/-- The texts of operands. -/
def renderAll : List Expr → List String
  | [] => []
  | e :: es => e.render :: renderAll es

end

mutual

/-- Whether two expressions are written alike, up to the spelling of literal numbers. -/
def same : Expr → Expr → Bool
  | constant a, constant b => a == b
  | not a, not b => a.same b
  | test n c, test m d => n == m && c == d
  | join c es, join d fs => c == d && sameAll es fs
  | _, _ => false

/-- Whether two operand lists are written alike. -/
def sameAll : List Expr → List Expr → Bool
  | [], [] => true
  | e :: es, f :: fs => e.same f && sameAll es fs
  | _, _ => false

end

/-- Expressions are equal when they are built alike from equal conditions. -/
instance : BEq Expr := ⟨same⟩

end Expr

end Percolator
