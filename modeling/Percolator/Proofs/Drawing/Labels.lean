import Percolator.Proofs.Drawing.Escaping
import Percolator.Tree.Compile

/-!
# Labels cannot be broken out of

A drawing declares one record for every node, and one for a constant: the number of the node comes first,
and further fields follow between bars. Paths and predicates are escaped, and nothing else in a field
comes from a user. Main statement: whatever users wrote, the quotes of a drawing pair up as they are
meant to, and the record of a leaf has four fields, of which the middle ones stand for its path and its
predicate.
-/

namespace Percolator

/-- A record that is declared in a drawing. -/
@[ext]
structure Box where
  id : Nat
  /-- The fields behind the number. -/
  details : List String
  /-- Whether the corners are round. -/
  rounded : Bool
  inert : ∀ field ∈ details, Inert field.toList

namespace Box

/-- The fields of the record. -/
def fields (b : Box) : List String := toString b.id :: b.details

/-- What comes before the label. -/
def opening (b : Box) : List Char := (nodeName b.id).toList ++ " [label = ".toList

/-- The record between its braces. -/
def inside (b : Box) : List Char := (" | ".intercalate b.fields).toList

/-- The text between quotes. -/
def label (b : Box) : List Char := '\x7b' :: b.inside ++ ['\x7d']

/-- The quoted strings behind the label. -/
def styles (b : Box) : List (List Char) := if b.rounded then ["rounded".toList] else []

/-- What comes behind the label. -/
def closing (b : Box) : List Char :=
  if b.rounded then ", style = ".toList ++ ('"' :: "rounded".toList ++ ['"']) ++ "];".toList
  else "];".toList

/-- The line that declares the record. -/
def line (b : Box) : List Char := b.opening ++ ('"' :: b.label ++ ['"']) ++ b.closing

/-- No field structures the record. -/
theorem inert_fields (b : Box) : ∀ field ∈ b.fields, Inert field.toList := by
  intro field hfield
  rcases List.mem_cons.mp hfield with rfl | hfield
  · exact (plain_toString b.id).inert
  · exact b.inert field hfield

end Box

/-- An escaped text has no bare mark. -/
theorem inert_escapeLabel (text : String) : Inert (escapeLabel text).toList := by
  rw [escapeLabel, String.toList_ofList]
  exact inert_escape text.toList

/-- The field of the counter needs no escaping. -/
theorem Node.plain_counterField (node : Node) : Plain node.counterField.toList := by
  have hword : Plain "counter: ".toList := plain_of_all rfl
  rw [counterField, initialCounter, String.toList_append]
  refine hword.append ?_
  cases node.kind with
  | leaf _ => exact plain_toString 1
  | join _ arity => exact plain_toString arity

/-- Neither does the name of a connective. -/
theorem Connective.plain_render (connective : Connective) : Plain connective.render.toList := by
  cases connective <;> exact plain_of_all rfl

/-- The field that shows the ends of a span holds nothing structural. -/
theorem plain_span (start stop : Nat) :
    Plain ("span: " ++ toString start ++ ".." ++ toString stop).toList := by
  have hword : Plain "span: ".toList := plain_of_all rfl
  have hdots : Plain "..".toList := plain_of_all rfl
  rw [String.toList_append, String.toList_append, String.toList_append]
  exact ((hword.append (plain_toString start)).append hdots).append (plain_toString stop)

/-- The record of a node. -/
def Node.box (node : Node) : Box :=
  match node.kind with
  | .leaf leaf =>
    ⟨node.start, [escapeLabel leaf.path.render, escapeLabel leaf.predicate.render,
      node.counterField], true, by
        simp [inert_escapeLabel, node.plain_counterField.inert]⟩
  | .join connective _ =>
    ⟨node.start, [connective.render,
      "span: " ++ toString node.start ++ ".." ++ toString node.stop, node.counterField], false, by
        simp only [List.forall_mem_cons, List.not_mem_nil, false_implies, implies_true, and_true]
        exact ⟨connective.plain_render.inert, (plain_span node.start node.stop).inert,
          node.plain_counterField.inert⟩⟩

/-- The record of a constant. -/
def constantBox (value : Bool) : Box :=
  ⟨0, [if value then "true" else "false"], true, by
    cases value <;> exact List.forall_mem_singleton.mpr (plain_of_all rfl).inert⟩

/-- The records of a tree. -/
def Tree.boxes : Tree → List Box
  | constant value => [constantBox value]
  | arena nodes => nodes.toList.map Node.box

/-- The line of a leaf is the line of its box. -/
theorem toList_roundedLine (b : Box) (h : b.rounded = true) :
    (roundedLine b.id b.fields).toList = b.line := by
  simp [roundedLine, record, Box.line, Box.opening, Box.label,
    Box.inside, Box.closing, h]

/-- The line of a node declares its record. -/
theorem Node.toList_line (node : Node) : node.line.toList = node.box.line := by
  unfold Node.line
  cases hkind : node.kind with
  | leaf leaf =>
    dsimp only
    have hround : node.box.rounded = true := by rw [box, hkind]
    rw [← toList_roundedLine _ hround]
    simp only [box, hkind, Box.fields]
  | join connective arity =>
    simp [record, box, hkind, Box.line, Box.opening, Box.label,
      Box.inside, Box.closing, Box.fields]

/-- The lines of a tree declare its records. -/
theorem Tree.toList_nodeLines (tree : Tree) :
    tree.nodeLines.map String.toList = tree.boxes.map Box.line := by
  cases tree with
  | constant value =>
    have hfields : (constantBox value).fields
        = ["0", if value then "true" else "false"] := by
      rw [Box.fields, constantBox, show toString 0 = "0" from rfl]
    rw [nodeLines, boxes, List.map_singleton, List.map_singleton,
      ← toList_roundedLine _ rfl, hfields]
    rfl
  | arena nodes =>
    rw [nodeLines, boxes, List.map_map, List.map_map]
    exact List.map_congr_left fun node _ => node.toList_line

namespace Box

/-- Between its braces a record holds nothing bare that structures records but bars. -/
theorem sealed_inside (b : Box) {mark : Char} (hmark : structural mark = true)
    (hbar : mark ≠ '|') : Sealed mark b.inside := by
  have hblank : mark ≠ ' ' := by
    rintro rfl
    exact Bool.false_ne_true hmark
  have hbars : Sealed mark " | ".toList := by
    refine sealed_of_not_mem (by decide) ?_
    change mark ∉ [' ', '|', ' ']
    simp [hblank, hbar]
  exact sealed_intercalate hbars fun field hfield => b.inert_fields field hfield mark hmark

/-- There is no bare quote in a label. -/
theorem sealed_label (b : Box) : Sealed '"' b.label := by
  have hopen : Sealed '"' ['\x7b'] := sealed_of_not_mem (by decide) (by decide)
  have hclose : Sealed '"' ['\x7d'] := sealed_of_not_mem (by decide) (by decide)
  exact (hopen.append (b.sealed_inside rfl (by decide))).append hclose

/-- There is no quote before the label. -/
theorem sealed_opening (b : Box) : Sealed '"' b.opening := by
  have hword : Sealed '"' "node_".toList := sealed_of_not_mem (by decide) (by decide)
  have hassign : Sealed '"' " [label = ".toList := sealed_of_not_mem (by decide) (by decide)
  rw [opening, nodeName, String.toList_append]
  exact (hword.append ((plain_toString b.id).inert '"' rfl)).append hassign

/-- The quoted strings of a line are the label and the styles. -/
theorem quotes_line (b : Box) : Quotes b.line (b.label :: b.styles) := by
  have hstyles : Quotes b.closing b.styles := by
    have hend : Sealed '"' "];".toList := sealed_of_not_mem (by decide) (by decide)
    rw [closing, styles]
    cases b.rounded with
    | false => exact hend.quotes
    | true =>
      have hassign : Sealed '"' ", style = ".toList := sealed_of_not_mem (by decide) (by decide)
      have hround : Sealed '"' "rounded".toList := sealed_of_not_mem (by decide) (by decide)
      exact (hassign.quotes.append hround.quotes_quoted).append hend.quotes
  exact (b.sealed_opening.quotes.append b.sealed_label.quotes_quoted).append hstyles

end Box

/-- Lines with a line break behind each. -/
def unlines (lines : List String) : List Char := lines.flatMap fun line => line.toList ++ ['\n']

/-- Lines are read one by one. -/
theorem quotes_unlines {lines : List String} {strings : String → List (List Char)}
    (h : ∀ line ∈ lines, Quotes line.toList (strings line)) :
    Quotes (unlines lines) (lines.flatMap strings) := by
  induction lines with
  | nil => exact fun rest => rfl
  | cons line lines ih =>
    have hbreak : Sealed '"' ['\n'] := sealed_of_not_mem (by decide) (by decide)
    have hline := (h line List.mem_cons_self).append hbreak.quotes
    rw [List.append_nil] at hline
    exact hline.append (ih fun other hother => h other (List.mem_cons_of_mem _ hother))

/-- The lines of a text but the last are followed by line breaks. -/
theorem toList_intercalate_lines (lines : List String) (last : String) :
    ("\n".intercalate (lines ++ [last])).toList = unlines lines ++ last.toList := by
  induction lines with
  | nil => rw [List.nil_append, String.intercalate_singleton]; rfl
  | cons line lines ih =>
    obtain ⟨next, rest, hrest⟩ : ∃ next rest, lines ++ [last] = next :: rest := by
      cases lines with
      | nil => exact ⟨last, [], rfl⟩
      | cons next lines => exact ⟨next, lines ++ [last], rfl⟩
    rw [List.cons_append, hrest, String.intercalate_cons_cons, ← hrest, String.toList_append,
      String.toList_append, ih, unlines, unlines, List.flatMap_cons, List.append_assoc,
      List.append_assoc, List.append_assoc]
    rfl

namespace Tree

/-- The lines before the records. -/
def preamble : List String :=
  ["digraph \x7b", "rankdir = TB;", "node [shape = \"record\"];", "", "// nodes"]

/-- The lines behind the records, but the last. -/
def arrows (tree : Tree) : List String := ["", "// edges"] ++ tree.nodes.toList.filterMap Node.edge?

/-- The lines of a drawing. -/
theorem toList_graphviz (tree : Tree) : tree.graphviz.toList
    = unlines preamble ++ (unlines tree.nodeLines ++ (unlines tree.arrows ++ ['\x7d'])) := by
  have hlines := toList_intercalate_lines (preamble ++ (tree.nodeLines ++ tree.arrows)) "\x7d"
  have hrow : preamble ++ (tree.nodeLines ++ tree.arrows) ++ ["\x7d"] = preamble ++ tree.nodeLines
      ++ ["", "// edges"] ++ tree.nodes.toList.filterMap Node.edge? ++ ["\x7d"] := by
    simp only [arrows, List.append_assoc]
  rw [hrow] at hlines
  refine hlines.trans ?_
  rw [unlines, List.flatMap_append, List.flatMap_append, List.append_assoc, List.append_assoc]
  rfl

/-- No user wrote what is before the records. -/
theorem quotes_preamble : Quotes (unlines preamble) ["record".toList] := by
  have hbefore : Sealed '"' "digraph \x7b\nrankdir = TB;\nnode [shape = ".toList :=
    sealed_of_not_mem (by decide) (by decide)
  have hrecord : Sealed '"' "record".toList := sealed_of_not_mem (by decide) (by decide)
  have hbehind : Sealed '"' "];\n\n// nodes\n".toList := sealed_of_not_mem (by decide) (by decide)
  have htext : unlines preamble = "digraph \x7b\nrankdir = TB;\nnode [shape = ".toList
      ++ ('"' :: "record".toList ++ ['"']) ++ "];\n\n// nodes\n".toList := by decide +kernel
  rw [htext]
  exact (hbefore.quotes.append hrecord.quotes_quoted).append hbehind.quotes

/-- There are no quotes behind the records. -/
theorem quotes_arrows (tree : Tree) : Quotes (unlines tree.arrows) [] := by
  have hnone : ∀ line ∈ tree.arrows, Quotes line.toList [] := by
    intro line hline
    rcases List.mem_append.mp hline with hline | hline
    · have hplain : ∀ line ∈ ["", "// edges"], '\\' ∉ line.toList ∧ '"' ∉ line.toList := by decide
      exact (sealed_of_not_mem (hplain line hline).1 (hplain line hline).2).quotes
    · obtain ⟨node, -, hedge⟩ := List.mem_filterMap.mp hline
      obtain ⟨parent, -, rfl⟩ := Option.map_eq_some_iff.mp hedge
      have hword : Sealed '"' "node_".toList := sealed_of_not_mem (by decide) (by decide)
      have harrow : Sealed '"' " -> ".toList := sealed_of_not_mem (by decide) (by decide)
      have hend : Sealed '"' ";".toList := sealed_of_not_mem (by decide) (by decide)
      simp only [nodeName, String.toList_append]
      exact ((((hword.append ((plain_toString parent).inert '"' rfl)).append harrow).append
        (hword.append ((plain_toString node.start).inert '"' rfl))).append hend).quotes
  have hlines := quotes_unlines hnone
  rwa [List.flatMap_eq_nil_iff.mpr fun _ _ => rfl] at hlines

/-- The quoted strings of a drawing are those of the lines that declare its records, besides the shape
of all. -/
theorem quotedStrings_graphviz (tree : Tree) : quotedStrings tree.graphviz.toList
    = "record".toList :: tree.nodeLines.flatMap fun line => quotedStrings line.toList := by
  have hlines : ∀ line ∈ tree.nodeLines, Quotes line.toList (quotedStrings line.toList) := by
    intro line hline
    have hdeclared : line.toList ∈ tree.boxes.map Box.line := by
      rw [← tree.toList_nodeLines]
      exact List.mem_map_of_mem hline
    obtain ⟨b, -, hb⟩ := List.mem_map.mp hdeclared
    rw [← hb, b.quotes_line.quotedStrings_eq]
    exact b.quotes_line
  have hend : Sealed '"' ['\x7d'] := sealed_of_not_mem (by decide) (by decide)
  have hall := quotes_preamble.append
    ((quotes_unlines hlines).append (tree.quotes_arrows.append hend.quotes))
  rw [toList_graphviz, hall.quotedStrings_eq, List.append_nil, List.append_nil]
  rfl

end Tree

/-- Split at bare bars, the record of a leaf has four fields; unescaped, they are the number, the path,
the predicate and the counter between blanks. -/
theorem Node.pieces_leaf {node : Node} {leaf : Leaf} (hkind : node.kind = .leaf leaf) :
    (pieces '|' node.box.inside).map unescape
      = [(toString node.start ++ " ").toList, (" " ++ leaf.path.render ++ " ").toList,
          (" " ++ leaf.predicate.render ++ " ").toList, (" " ++ node.counterField).toList] := by
  have hinside : node.box.inside
      = ((toString node.start).toList ++ [' ']) ++ '|' ::
        ((' ' :: leaf.path.render.toList.flatMap escapeChar ++ [' ']) ++ '|' ::
          ((' ' :: leaf.predicate.render.toList.flatMap escapeChar ++ [' ']) ++ '|' ::
            (' ' :: node.counterField.toList))) := by
    simp [box, hkind, Box.inside, Box.fields, escapeLabel]
  have hblank : Plain [' '] := plain_of_all rfl
  have hnumber : Plain ((toString node.start).toList ++ [' ']) :=
    (plain_toString node.start).append hblank
  have hcounter : Plain (' ' :: node.counterField.toList) := hblank.append node.plain_counterField
  have htext : ∀ text : List Char, Inert (' ' :: text.flatMap escapeChar ++ [' ']) ∧
      unescape (' ' :: text.flatMap escapeChar ++ [' ']) = ' ' :: text ++ [' '] := by
    intro text
    have hfront : Inert (' ' :: text.flatMap escapeChar) := hblank.inert.append (inert_escape text)
    refine ⟨hfront.append hblank.inert, ?_⟩
    rw [(hfront '|' rfl).unescape_append, ← List.singleton_append,
      (hblank.inert '|' rfl).unescape_append, unescape_escape, hblank.unescape_eq]
    rfl
  have hbar : '|' ≠ '\\' := by decide
  rw [hinside, (hnumber.inert '|' rfl).pieces_append hbar, ((htext _).1 '|' rfl).pieces_append hbar,
    ((htext _).1 '|' rfl).pieces_append hbar, (hcounter.inert '|' rfl).pieces_eq]
  simp only [List.map_cons, List.map_nil, (htext _).2, String.toList_append, hnumber.unescape_eq,
    hcounter.unescape_eq]
  rfl

/-- Escaping is undone by unescaping, and puts every structural character but the backslash behind an odd
number of backslashes. Hence the quoted strings of a drawing are those of its lines. The line of a leaf
holds the label and the style; between its braces nothing is bare that structures records but bars, and
these separate four fields: the number, the path, the predicate and the counter. -/
theorem labels_unbroken (tree : Tree) :
    (∀ text, unescape (escapeLabel text).toList = text.toList) ∧
    (∀ text before c after, (escapeLabel text).toList = before ++ c :: after →
      structural c = true → c ≠ '\\' → backslashes before % 2 = 1) ∧
    quotedStrings tree.graphviz.toList
      = "record".toList :: (tree.nodeLines.flatMap fun line => quotedStrings line.toList) ∧
    ∀ node ∈ tree.nodes, ∀ leaf, node.kind = .leaf leaf →
      node.line ∈ tree.nodeLines ∧ ∃ inside,
        quotedStrings node.line.toList = ['\x7b' :: inside ++ ['\x7d'], "rounded".toList] ∧
        (∀ mark, structural mark = true → mark ≠ '|' → [mark] ∉ glyphs inside) ∧
        (pieces '|' inside).map unescape
          = [(toString node.start ++ " ").toList, (" " ++ leaf.path.render ++ " ").toList,
              (" " ++ leaf.predicate.render ++ " ").toList, (" " ++ node.counterField).toList] := by
  refine ⟨fun text => ?_, fun text before c after h hstructural hc => ?_,
    tree.quotedStrings_graphviz, fun node hnode leaf hkind => ⟨?_, ?_⟩⟩
  · rw [escapeLabel, String.toList_ofList, unescape_escape]
  · rw [escapeLabel, String.toList_ofList] at h
    exact odd_backslashes h hstructural hc
  · cases tree with
    | constant value => simp [Tree.nodes] at hnode
    | arena nodes => exact List.mem_map_of_mem (Array.mem_toList_iff.mpr hnode)
  · refine ⟨node.box.inside, ?_, fun mark hmark hbar =>
      (node.box.sealed_inside hmark hbar).unmarked, Node.pieces_leaf hkind⟩
    have hround : node.box.styles = ["rounded".toList] := by
      rw [Box.styles, Node.box, hkind]
      rfl
    rw [node.toList_line, node.box.quotes_line.quotedStrings_eq, hround]
    rfl

/-- Text that would end the field, the record and the quoted string around it. -/
def slyText : String := "\\\" | \x7d"

/-- An attribute is compared with `slyText`. -/
def slyLeaf : Leaf := ⟨0, .interval (.ofComparison .equal (.text slyText)), false, ⟨[0], false⟩⟩

/-- The only node of a tree for that comparison. -/
def slyNode : Node := ⟨[], 0, 1, .leaf slyLeaf⟩

/-- A quote behind three backslashes does not end the label. -/
theorem labels_unbroken_sly :
    (Expr.test "a" (.compare .equal (.text slyText))).compile (fun _ => some ⟨[0], false⟩)
        = .ok (.arena #[slyNode]) ∧
      (escapeLabel slyText).toList
        = ['\\', '\\', '\\'] ++ '"' :: [' ', '\\', '|', ' ', '\\', '\x7d'] ∧
      unescape (escapeLabel slyText).toList = slyText.toList ∧
      backslashes ['\\', '\\', '\\'] % 2 = 1 ∧
      slyNode ∈ (Tree.arena #[slyNode]).nodes ∧ ∃ inside,
        quotedStrings slyNode.line.toList = ['\x7b' :: inside ++ ['\x7d'], "rounded".toList] ∧
        ['"'] ∉ glyphs inside ∧
        (pieces '|' inside).map unescape
          = ["0 ".toList, " attribute(0) ".toList,
              " in ['\\\" | \x7d', '\\\" | \x7d'] ".toList, " counter: 1".toList] := by
  obtain ⟨hunescape, hodd, -, hleaves⟩ := labels_unbroken (.arena #[slyNode])
  have hescaped : (escapeLabel slyText).toList
      = ['\\', '\\', '\\'] ++ '"' :: [' ', '\\', '|', ' ', '\\', '\x7d'] := by decide
  have hmem : slyNode ∈ (Tree.arena #[slyNode]).nodes := Array.mem_singleton.mpr rfl
  obtain ⟨-, inside, hquotes, hbare, hpieces⟩ := hleaves slyNode hmem slyLeaf rfl
  refine ⟨rfl, hescaped, hunescape slyText, hodd slyText _ _ _ hescaped rfl (by decide), hmem, inside,
    hquotes, hbare '"' rfl (by decide), hpieces.trans ?_⟩
  rfl

end Percolator
