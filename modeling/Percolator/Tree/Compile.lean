import Percolator.Tree.Outline

/-!
# Compiling filters

A filter is compiled into a tree by laying out its operators and conditions in preorder. Comparisons
are not negated, since the opposite comparison can be written instead; a negation stands directly
above another condition. A constant is a filter of its own and no part of one, and every operator
has an operand. The first part of a filter, in preorder, that breaks a rule is reported.
-/

namespace Percolator

/-- Why a filter cannot be compiled. -/
inductive CompileError where
  | unknownProperty (name : String)
  | negatedInterval (text : String)
  | invalidPattern (pattern : String)
  | unsupportedExpression (text : String)
  deriving DecidableEq

/-- The message for the reader of an error. -/
def CompileError.message : CompileError → String
  | unknownProperty name => "expression refers to non-existing property '" ++ name ++ "'"
  | negatedInterval text => "interval predicates cannot be negated: " ++ text
  | invalidPattern pattern => "invalid pattern '" ++ pattern ++ "'"
  | unsupportedExpression text => "unsupported expression: " ++ text

/-- The predicate that tests a condition. -/
def Condition.predicate : Condition → Except CompileError Predicate
  | compare comparison literal => .ok (.interval (.ofComparison comparison literal))
  | isNull => .ok .isNull
  | like source escape =>
    match Pattern.like? source escape with
    | some pattern => .ok (.pattern pattern)
    | none => .error (.invalidPattern source)
  | regex source =>
    match Pattern.regex? source with
    | some pattern => .ok (.pattern pattern)
    | none => .error (.invalidPattern source)

/-- The leaf with the number `id` for a condition on a named attribute. An invalid pattern is reported
before a negated comparison, and both before an unknown attribute. -/
def compileLeaf (resolve : String → Option Path) (id : Nat) (negated : Bool) (name : String)
    (condition : Condition) : Except CompileError Leaf :=
  match condition.predicate with
  | .error e => .error e
  | .ok predicate =>
    if negated && predicate.isInterval then
      .error (.negatedInterval (Expr.test name condition).render)
    else match resolve name with
      | none => .error (.unknownProperty name)
      | some path => .ok ⟨id, predicate, negated, path⟩

namespace Expr

/-- The only node of a condition. -/
def layoutLeaf (resolve : String → Option Path) (above : List Nat) (start : Nat) (negated : Bool)
    (name : String) (condition : Condition) : Except CompileError (List Node) :=
  match compileLeaf resolve start negated name condition with
  | .error e => .error e
  | .ok leaf => .ok [⟨above, start, start + 1, .leaf leaf⟩]

mutual

/-- The nodes of a part of a filter, the first of which has the number `start`, below the operators
`above`. -/
def layout (resolve : String → Option Path) (above : List Nat) (start : Nat) :
    Expr → Except CompileError (List Node)
  | constant value => .error (.unsupportedExpression (constant value).render)
  | test name condition => layoutLeaf resolve above start false name condition
  | not (test name condition) => layoutLeaf resolve above start true name condition
  | not operand => .error (.unsupportedExpression (not operand).render)
  | join connective operands =>
    if operands.isEmpty then .error (.unsupportedExpression (join connective operands).render)
    else match layoutAll resolve (start :: above) (start + 1) operands with
      | .error e => .error e
      | .ok below =>
        .ok (⟨above, start, start + 1 + below.length, .join connective operands.length⟩ :: below)

/-- The nodes of operands, one after the other. -/
def layoutAll (resolve : String → Option Path) (above : List Nat) (start : Nat) :
    List Expr → Except CompileError (List Node)
  | [] => .ok []
  | e :: es =>
    match e.layout resolve above start with
    | .error e => .error e
    | .ok nodes =>
      match layoutAll resolve above (start + nodes.length) es with
      | .error e => .error e
      | .ok more => .ok (nodes ++ more)

end

/-- Compile a filter. -/
def compile (resolve : String → Option Path) : Expr → Except CompileError Tree
  | constant value => .ok (.constant value)
  | e => (e.layout resolve [] 0).map fun nodes => .arena nodes.toArray

end Expr

end Percolator
