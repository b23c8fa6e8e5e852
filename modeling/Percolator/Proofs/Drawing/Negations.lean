import Percolator.Proofs.Drawing.Contents

/-!
# What a drawing leaves out

The text of a tree goes along the same nesting as its drawing, with the same words, paths and texts of
predicates, and with a word before every negated leaf, which the drawing has not. Whether the word is
there shows in the first character of a leaf, so nothing behind it makes up for it. Main statement: two
compiled trees with one drawing have one text exactly if the same leaves are negated. So a drawing does
not tell what the text does.
-/

namespace Percolator

/-- The first character of a leaf tells whether it is negated. -/
theorem sameWhen_leaf {l l' : Leaf} (hpath : l.path = l'.path)
    (hpredicate : l.predicate.render = l'.predicate.render) :
    SameWhen (l.negated = l'.negated) l.render.toList l'.render.toList := by
  have hfirst : 'N' ≠ '⟨' := by decide
  have hsign : ∀ (negated : Bool) (body : List Char),
      (if negated then "NOT " else "").toList ++ ("⟨".toList ++ body)
        = if negated then 'N' :: ("OT ⟨".toList ++ body) else '⟨' :: body := by
    intro negated body
    cases negated <;> rfl
  simp only [Leaf.render, String.toList_append, List.append_assoc, hpath, hpredicate]
  rw [hsign, hsign]
  exact SameWhen.choice hfirst l.negated l'.negated _ _

namespace Tree

variable {tree tree' : Tree} {id depth : Nat} {node : Node}

/-- Whether the leaf with a number is negated. -/
def negated? (tree : Tree) (id : Nat) : Option Bool := (tree.leaf? id).map Leaf.negated

/-- The text below a node, read `depth` levels deep at most. -/
def textAt (tree : Tree) (depth id : Nat) : String :=
  ((tree.outlineAt depth id).map Outline.render).getD ""

/-- The text of a leaf is read on any level. -/
theorem textAt_leaf {leaf : Leaf} (hnode : tree.nodes[id]? = some node)
    (hkind : node.kind = .leaf leaf) : tree.textAt (depth + 1) id = leaf.render := by
  rw [textAt, outlineAt, hnode, Option.bind_eq_bind, Option.bind_some, hkind]
  rfl

/-- The texts of nodes whose outlines are read are those of the outlines. -/
theorem renderAll_of_mapM {ids : List Nat} {parts : List Outline}
    (h : ids.mapM (tree.outlineAt depth) = some parts) :
    (∀ id ∈ ids, (tree.outlineAt depth id).isSome = true) ∧
      Outline.renderAll parts = ids.map (tree.textAt depth) := by
  induction ids generalizing parts with
  | nil =>
    rw [List.mapM_nil, Option.pure_def, Option.some_inj] at h
    rw [← h]
    exact ⟨List.forall_mem_nil _, rfl⟩
  | cons id ids ih =>
    rw [List.mapM_cons, Option.bind_eq_bind, Option.bind_eq_some_iff] at h
    obtain ⟨part, hpart, h⟩ := h
    rw [Option.bind_eq_bind, Option.bind_eq_some_iff] at h
    obtain ⟨more, hmore, h⟩ := h
    rw [Option.pure_def, Option.some_inj] at h
    obtain ⟨hread, hrender⟩ := ih hmore
    rw [← h]
    refine ⟨List.forall_mem_cons.mpr ⟨by rw [hpart]; rfl, hread⟩, ?_⟩
    rw [Outline.renderAll, List.map_cons, hrender, textAt, hpart]
    rfl

/-- The text of an operator is read from those of its children. -/
theorem textAt_join {connective : Connective} {arity : Nat} (hnode : tree.nodes[id]? = some node)
    (hkind : node.kind = .join connective arity)
    (hread : (tree.outlineAt (depth + 1) id).isSome = true) :
    (∀ child ∈ tree.children id, (tree.outlineAt depth child).isSome = true) ∧
      tree.textAt (depth + 1) id = connective.render ++ "(" ++
        ", ".intercalate ((tree.children id).map (tree.textAt depth)) ++ ")" := by
  have hstep : tree.outlineAt (depth + 1) id
      = ((tree.children id).mapM (tree.outlineAt depth)).map (Outline.join connective) := by
    rw [outlineAt, hnode, Option.bind_eq_bind, Option.bind_some, hkind]
    cases (tree.children id).mapM (tree.outlineAt depth) <;> rfl
  rw [hstep, Option.isSome_map] at hread
  obtain ⟨parts, hparts⟩ := Option.isSome_iff_exists.mp hread
  obtain ⟨hchildren, hrender⟩ := renderAll_of_mapM hparts
  refine ⟨hchildren, ?_⟩
  rw [textAt, hstep, hparts, ← hrender]
  rfl

/-- Where one of two trees drawn alike has a node, the other has one with the same figure. -/
theorem DrawnAlike.exists_node (h : tree.DrawnAlike tree') (hnode : tree.nodes[id]? = some node) :
    ∃ node', tree'.nodes[id]? = some node' ∧ node'.kind.figure = node.kind.figure := by
  have hportrait := h.portrait_at id
  rw [hnode, Option.map_some, eq_comm, Option.map_eq_some_iff] at hportrait
  obtain ⟨node', hnode', heq⟩ := hportrait
  exact ⟨node', hnode', congrArg Portrait.figure heq⟩

/-- Where one of two trees drawn alike has a leaf, the other has one with the same path and the same
text of the predicate. -/
theorem DrawnAlike.exists_leaf {leaf : Leaf} (h : tree.DrawnAlike tree')
    (hnode : tree.nodes[id]? = some node) (hkind : node.kind = .leaf leaf) :
    ∃ node' leaf', tree'.nodes[id]? = some node' ∧ node'.kind = .leaf leaf' ∧
      leaf'.path = leaf.path ∧ leaf'.predicate.render = leaf.predicate.render := by
  obtain ⟨node', hnode', hfigure⟩ := h.exists_node hnode
  rw [hkind] at hfigure
  cases hkind' : node'.kind with
  | leaf leaf' =>
    rw [hkind'] at hfigure
    obtain ⟨hpath, hpredicate⟩ := Figure.leaf.inj hfigure
    exact ⟨node', leaf', hnode', hkind', hpath, hpredicate⟩
  | join connective arity =>
    rw [hkind'] at hfigure
    cases hfigure

/-- Where one of two trees drawn alike has an operator, the other has the same. -/
theorem DrawnAlike.exists_join {connective : Connective} {arity : Nat} (h : tree.DrawnAlike tree')
    (hnode : tree.nodes[id]? = some node) (hkind : node.kind = .join connective arity) :
    ∃ node', tree'.nodes[id]? = some node' ∧ node'.kind = .join connective arity := by
  obtain ⟨node', hnode', hfigure⟩ := h.exists_node hnode
  rw [hkind] at hfigure
  cases hkind' : node'.kind with
  | leaf leaf' =>
    rw [hkind'] at hfigure
    cases hfigure
  | join connective' arity' =>
    rw [hkind'] at hfigure
    obtain ⟨rfl, rfl⟩ := Figure.operator.inj hfigure
    exact ⟨node', hnode', hkind'⟩

/-- There is no negation past the last node. -/
theorem negated?_of_size_le (h : tree.size ≤ id) : tree.negated? id = none := by
  rw [negated?, leaf?, Array.getElem?_eq_none h]
  rfl

/-- The negation of a leaf is found at its node. -/
theorem negated?_of_leaf {leaf : Leaf} (hnode : tree.nodes[id]? = some node)
    (hkind : node.kind = .leaf leaf) : tree.negated? id = some leaf.negated := by
  rw [negated?, leaf?, hnode, Option.bind_some, Node.leaf?, hkind]
  rfl

/-- An operator is not negated. -/
theorem negated?_of_join {connective : Connective} {arity : Nat} (hnode : tree.nodes[id]? = some node)
    (hkind : node.kind = .join connective arity) : tree.negated? id = none := by
  rw [negated?, leaf?, hnode, Option.bind_some, Node.leaf?, hkind]
  rfl

end Tree

namespace Expr

open Percolator.Tree

variable {resolve resolve' : String → Option Path} {tree tree' : Tree} {above : List Nat} {start : Nat}
  {e e' : Expr}

/-- Below nodes of trees drawn alike the texts are the same exactly if the same leaves are negated. -/
theorem Laid.sameWhen_textAt (h : Laid resolve tree above start e) (halike : tree.DrawnAlike tree')
    {depth : Nat} (hread : (tree.outlineAt depth start).isSome = true)
    (hread' : (tree'.outlineAt depth start).isSome = true) :
    SameWhen (∀ i ∈ tree.spanOf start, tree.negated? i = tree'.negated? i)
      (tree.textAt depth start).toList (tree'.textAt depth start).toList := by
  induction h generalizing depth with
  | @leaf above start e leaf hleaf hnode =>
    cases depth with
    | zero => exact absurd hread Bool.false_ne_true
    | succ depth =>
      obtain ⟨node', leaf', hnode', hkind', hpath, hpredicate⟩ := halike.exists_leaf hnode rfl
      have hspan : tree.spanOf start = [start] := by
        rw [(Laid.leaf hleaf hnode).spanOf_start, hleaf.size_eq]
        rfl
      rw [textAt_leaf hnode rfl, textAt_leaf hnode' hkind', hspan, List.forall_mem_singleton,
        negated?_of_leaf hnode rfl, negated?_of_leaf hnode' hkind', Option.some_inj]
      exact sameWhen_leaf hpath.symm hpredicate.symm
  | @join above start c es hes hnode hbelow ih =>
    cases depth with
    | zero => exact absurd hread Bool.false_ne_true
    | succ depth =>
      obtain ⟨node', hnode', hkind'⟩ := halike.exists_join hnode rfl
      obtain ⟨hchildren, htext⟩ := textAt_join hnode rfl hread
      obtain ⟨hchildren', htext'⟩ := textAt_join hnode' hkind' hread'
      rw [← halike.children_eq] at hchildren' htext'
      have hlaid := Laid.join hes hnode hbelow
      have hparts : ∀ child ∈ tree.children start,
          SameWhen (∀ i ∈ tree.spanOf child, tree.negated? i = tree'.negated? i)
            (tree.textAt depth child).toList (tree'.textAt depth child).toList := by
        intro child hchild
        have hplace := hchild
        rw [hlaid.children_join] at hplace
        obtain ⟨p, hp, rfl⟩ := List.mem_map.mp hplace
        exact ih p hp (hchildren _ hchild) (hchildren' _ hchild)
      have hstart : tree.negated? start = tree'.negated? start := by
        rw [negated?_of_join hnode rfl, negated?_of_join hnode' hkind']
      -- Around and between the texts of the parts the same stands in both trees.
      have hrow := SameWhen.intercalate ", " hparts
      have hall := ((SameWhen.refl (c.render ++ "(").toList).append hrow).append
        (SameWhen.refl ")".toList)
      rw [htext, htext', hlaid.spanOf_eq]
      simp only [String.toList_append] at hall ⊢
      refine hall.congr ?_
      rw [true_and, and_true, List.forall_mem_cons, List.forall_mem_flatMap]
      exact (and_iff_right hstart).symm

/-- Trees that are drawn alike have one text exactly if the same leaves are negated. -/
theorem render_eq_iff (h : e.compile resolve = .ok tree) (h' : e'.compile resolve' = .ok tree')
    (halike : tree.DrawnAlike tree') :
    tree.render = tree'.render ↔ ∀ id, tree.negated? id = tree'.negated? id := by
  cases tree with
  | constant value =>
    cases tree' with
    | constant value' =>
      rw [show value = value' from halike]
      exact iff_of_true rfl fun _ => rfl
    | arena nodes' => exact halike.elim
  | arena nodes =>
    cases tree' with
    | constant value' => exact halike.elim
    | arena nodes' =>
      obtain ⟨hl, hsize, -⟩ := laid_of_arena h
      obtain ⟨hl', hsize', -⟩ := laid_of_arena h'
      obtain ⟨_, -, hread⟩ := hl.outlineAt_start (Nat.le_of_eq hsize.symm)
      obtain ⟨_, -, hread'⟩ := hl'.outlineAt_start (Nat.le_of_eq hsize'.symm)
      have hsizes : (Tree.arena nodes').size = (Tree.arena nodes).size := by
        have hlength := congrArg List.length halike
        simpa [Tree.size, Tree.nodes] using hlength.symm
      rw [hsizes] at hread'
      have htexts := hl.sameWhen_textAt halike (Option.isSome_of_eq_some hread)
        (Option.isSome_of_eq_some hread')
      have htext : ∀ nodes : Array Node, (Tree.arena nodes).render
          = (Tree.arena nodes).textAt (Tree.arena nodes).size 0 := fun _ => rfl
      rw [htext, htext, hsizes, ← String.toList_inj, htexts.eq_iff]
      refine ⟨fun hspan id => ?_, fun hall id _ => hall id⟩
      rcases Nat.lt_or_ge id (Tree.arena nodes).size with hid | hid
      · exact hspan id (hl.mem_spanOf_start.mpr ⟨Nat.zero_le id, by omega⟩)
      · rw [negated?_of_size_le hid, negated?_of_size_le (by omega)]

/-- Two compiled trees have one drawing exactly if they are the same constant, or have nodes with the same
numbers, parents, and operators, or paths and texts of predicates. Then the children of every node are
the same, in order, and the texts of the trees are the same exactly if the same leaves are negated. -/
theorem drawing_exact (h : e.compile resolve = .ok tree) (h' : e'.compile resolve' = .ok tree') :
    (tree.graphviz = tree'.graphviz ↔ tree.DrawnAlike tree') ∧
    (tree.graphviz = tree'.graphviz →
      (∀ id, tree.children id = tree'.children id) ∧
      (tree.render = tree'.render ↔ ∀ id, tree.negated? id = tree'.negated? id)) := by
  have hiff := graphviz_eq_iff h h'
  refine ⟨hiff, fun heq => ?_⟩
  have halike := hiff.mp heq
  exact ⟨halike.children_eq, render_eq_iff h h' halike⟩

/-- `deepFilter` with its number written as a decimal one. -/
def decimalFilter : Expr :=
  .join .or [.join .and [.test "tags" .isNull, .join .or [.not (.test "name" .isNull)]],
    .test "name" (.compare .less (.decimal (.ofInt 3)))]

/-- The tree of `decimalFilter`. -/
def decimalTree : Tree :=
  .arena #[⟨[], 0, 6, .join .or 2⟩, ⟨[0], 1, 5, .join .and 2⟩,
    ⟨[1, 0], 2, 3, .leaf ⟨2, .isNull, false, ⟨[0], true⟩⟩⟩, ⟨[1, 0], 3, 5, .join .or 1⟩,
    ⟨[3, 1, 0], 4, 5, .leaf ⟨4, .isNull, true, ⟨[1], false⟩⟩⟩,
    ⟨[0], 5, 6, .leaf ⟨5, .interval (.ofComparison .less (.decimal (.ofInt 3))), false, ⟨[1], false⟩⟩⟩]

/-- Both numbers are shown alike, and the same leaf is negated. -/
theorem drawing_exact_decimal :
    deepFilter.compile deepPath = .ok deepTree ∧ decimalFilter.compile deepPath = .ok decimalTree ∧
      deepTree.graphviz = decimalTree.graphviz ∧ deepTree.children 1 = decimalTree.children 1 ∧
      deepTree.render = decimalTree.render := by
  have hcompile : deepFilter.compile deepPath = .ok deepTree := rfl
  have hcompile' : decimalFilter.compile deepPath = .ok decimalTree := rfl
  obtain ⟨hiff, hsame⟩ := drawing_exact hcompile hcompile'
  have halike : deepTree.DrawnAlike decimalTree := rfl
  obtain ⟨hchildren, htext⟩ := hsame (hiff.mpr halike)
  have hnegated : ∀ id, deepTree.negated? id = decimalTree.negated? id := by
    intro id
    rcases Nat.lt_or_ge id 6 with hid | hid
    · have hleaves : ∀ id < 6, deepTree.negated? id = decimalTree.negated? id := by decide
      exact hleaves id hid
    · rw [negated?_of_size_le hid, negated?_of_size_le hid]
  exact ⟨hcompile, hcompile', hiff.mpr halike, hchildren 1, htext.mpr hnegated⟩

/-- A tree that asks whether the only attribute has no value, or whether it has one. -/
def absentTree (negated : Bool) : Tree :=
  .arena #[⟨[], 0, 1, .leaf ⟨0, .isNull, negated, ⟨[0], false⟩⟩⟩]

/-- A condition and its negation are drawn alike, but have different texts. -/
theorem negation_undrawn :
    (test "a" .isNull).compile (fun _ => some ⟨[0], false⟩) = .ok (absentTree false) ∧
      (not (test "a" .isNull)).compile (fun _ => some ⟨[0], false⟩) = .ok (absentTree true) ∧
      (absentTree false).graphviz = (absentTree true).graphviz ∧
      (absentTree false).render ≠ (absentTree true).render := by
  have halike : (absentTree false).DrawnAlike (absentTree true) := rfl
  refine ⟨rfl, rfl, halike.graphviz_eq, ?_⟩
  decide

end Expr

end Percolator
