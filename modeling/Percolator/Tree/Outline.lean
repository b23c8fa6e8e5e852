import Percolator.Tree.Basic

/-!
# Outlines of trees

The outline of a tree is the nesting of its operators with the leaves at the ends, read back from
the row of nodes. It is what the text of a tree shows.
-/

namespace Percolator

/-- Operators and leaves as they are nested. -/
inductive Outline where
  | leaf (leaf : Leaf)
  | join (connective : Connective) (parts : List Outline)

namespace Outline

mutual

/-- The text of an outline. -/
def render : Outline → String
  | leaf l => l.render
  | join connective parts => connective.render ++ "(" ++ ", ".intercalate (renderAll parts) ++ ")"

/-- The texts of the parts of an operator. -/
def renderAll : List Outline → List String
  | [] => []
  | part :: parts => part.render :: renderAll parts

end

end Outline

namespace Tree

/-- Read the outline below a node from the children of nodes, `depth` levels deep at most. -/
def outlineAt (tree : Tree) : (depth : Nat) → (id : Nat) → Option Outline
  | 0, _ => none
  | depth + 1, id => do
    let node ← tree.nodes[id]?
    match node.kind with
    | .leaf leaf => return .leaf leaf
    | .join connective _ =>
      return .join connective (← (tree.children id).mapM (tree.outlineAt depth))

/-- The outline of a tree with nodes. -/
def outline? (tree : Tree) : Option Outline := tree.outlineAt tree.size 0

/-- The text of a tree. -/
def render (tree : Tree) : String :=
  match tree with
  | constant true => "TRUE"
  | constant false => "FALSE"
  | arena _ => (tree.outline?.map Outline.render).getD ""

end Tree

end Percolator
