import Percolator.Tree.Basic

/-!
# Drawing trees

A tree is drawn as a directed graph in the Graphviz language: a record for every node, and an arrow
from every operator to the nodes directly below it. Texts inside records escape the characters that
structure records.
-/

namespace Percolator

/-- Put a backslash before a character that structures records. -/
def escapeChar (c : Char) : List Char :=
  if ['\x7b', '\x7d', '|', '<', '>', '"', '\\'].contains c then ['\\', c] else [c]

/-- A text as it is written inside a record. -/
def escapeLabel (text : String) : String := String.ofList (text.toList.flatMap escapeChar)

/-- The name of a node in the drawing. -/
def nodeName (id : Nat) : String := "node_" ++ toString id

/-- The fields of a record between bars. -/
def record (fields : List String) : String := "\x7b" ++ " | ".intercalate fields ++ "\x7d"

/-- The line that declares a record with rounded corners. -/
def roundedLine (id : Nat) (fields : List String) : String :=
  nodeName id ++ " [label = \"" ++ record fields ++ "\", style = \"rounded\"];"

/-- The field that shows the counter of a node before any value is known. -/
def Node.counterField (node : Node) : String := "counter: " ++ toString node.initialCounter

/-- The line that declares a node. Leaves have rounded corners; a negation is not shown. -/
def Node.line (node : Node) : String :=
  match node.kind with
  | .leaf leaf =>
    roundedLine node.start [toString node.start, escapeLabel leaf.path.render,
      escapeLabel leaf.predicate.render, node.counterField]
  | .join connective _ =>
    nodeName node.start ++ " [label = \"" ++ record [toString node.start, connective.render,
      "span: " ++ toString node.start ++ ".." ++ toString node.stop, node.counterField] ++ "\"];"

/-- The line that draws the arrow to a node. -/
def Node.edge? (node : Node) : Option String :=
  node.parent?.map fun parent => nodeName parent ++ " -> " ++ nodeName node.start ++ ";"

namespace Tree

/-- The lines that declare the nodes. A constant is drawn as one record with its value. -/
def nodeLines : Tree → List String
  | constant value => [roundedLine 0 ["0", if value then "true" else "false"]]
  | arena nodes => nodes.toList.map Node.line

/-- A tree in the Graphviz language. -/
def graphviz (tree : Tree) : String :=
  "\n".intercalate (["digraph \x7b", "rankdir = TB;", "node [shape = \"record\"];", "", "// nodes"]
    ++ tree.nodeLines ++ ["", "// edges"] ++ tree.nodes.toList.filterMap Node.edge? ++ ["\x7d"])

end Tree

end Percolator
