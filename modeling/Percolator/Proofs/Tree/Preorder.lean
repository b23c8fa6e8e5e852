import Mathlib.Data.List.Forall2
import Mathlib.Logic.Relation
import Percolator.Proofs.Tree.Layout

/-!
# Compiled trees are preorder images

A tree is in preorder if its spans are subtrees: every node comes before the nodes below it, its span
holds itself and these, and the spans of its children follow one another without a gap. Main
statement: a filter that compiles to a tree with nodes is laid out in preorder, and the outline read
back from the tree along the children depicts the filter, operator by operator and leaf by leaf.
-/

namespace Percolator

namespace Tree

/-- The places of the node with a number and of the nodes below it. -/
def spanOf (tree : Tree) (id : Nat) : List Nat := (tree.nodes[id]?.map Node.span).getD []

/-- The operator directly above the node with a number. -/
def parentOf? (tree : Tree) (id : Nat) : Option Nat := tree.nodes[id]?.bind Node.parent?

/-- One node is directly below another. -/
def Below (tree : Tree) (id parent : Nat) : Prop := tree.parentOf? id = some parent

/-- If every node comes after the operator above it, it comes after all operators further up. -/
theorem lt_of_above {tree : Tree} (hparents : ∀ id parent, tree.Below id parent → parent < id)
    {id ancestor : Nat} (habove : Relation.TransGen tree.Below id ancestor) : ancestor < id := by
  induction habove with
  | single hbelow => exact hparents _ _ hbelow
  | tail _ hbelow ih => exact Nat.lt_trans (hparents _ _ hbelow) ih

/-- A tree is a row of nodes in preorder. -/
structure Preorder (tree : Tree) : Prop where
  /-- The number of every node is its place, and so is that of its leaf, if it has one. -/
  numbered : tree.Numbered
  /-- There is a first node. -/
  root : 0 < tree.size
  /-- The first node is the only one with nothing above it. -/
  topmost : ∀ id < tree.size, tree.parentOf? id = none ↔ id = 0
  /-- A node comes after the operator above it. -/
  parents : ∀ id parent, tree.Below id parent → parent < id
  /-- The span of a node holds the node and those from which parents lead up to it. -/
  spans : ∀ id < tree.size, ∀ other,
    other ∈ tree.spanOf id ↔ Relation.ReflTransGen tree.Below other id
  /-- The spans of the children of a node, one after the other, are its span without itself. -/
  tiles : ∀ id < tree.size, tree.spanOf id = id :: (tree.children id).flatMap tree.spanOf
  /-- The children of a node are the nodes directly below it. -/
  children : ∀ id child, child ∈ tree.children id ↔ tree.Below child id
  /-- Before any value is known a leaf waits for one, and an operator for all its children. -/
  counters : ∀ id < tree.size, tree.initialCounters[id]?
    = some (if (tree.leaf? id).isSome then 1 else ((tree.children id).length : Int))
  /-- The leaves are numbered by their places. -/
  leaves : tree.leafIds = (List.range tree.size).filter fun id => (tree.leaf? id).isSome

end Tree

/-- An outline depicts a filter: operators are nested alike with the operands in order, and every leaf
has the path and the predicate of its condition, and is negated exactly below a negation. -/
inductive Depicts (resolve : String → Option Path) : Expr → Outline → Prop
  | test {name : String} {condition : Condition} {leaf : Leaf} (hpath : resolve name = some leaf.path)
      (hpredicate : condition.predicate = .ok leaf.predicate) (hnegated : leaf.negated = false) :
      Depicts resolve (.test name condition) (.leaf leaf)
  | not {name : String} {condition : Condition} {leaf : Leaf} (hpath : resolve name = some leaf.path)
      (hpredicate : condition.predicate = .ok leaf.predicate) (hnegated : leaf.negated = true) :
      Depicts resolve (.not (.test name condition)) (.leaf leaf)
  | join {c : Connective} {es : List Expr} {parts : List Outline}
      (hparts : List.Forall₂ (Depicts resolve) es parts) :
      Depicts resolve (.join c es) (.join c parts)

namespace Expr

open Percolator.Tree

variable {resolve : String → Option Path} {tree : Tree} {above : List Nat} {start : Nat} {e : Expr}

/-- A compiled leaf has the path and the predicate of its condition. -/
theorem parts_of_compileLeaf {negated : Bool} {name : String} {condition : Condition} {leaf : Leaf}
    (h : compileLeaf resolve start negated name condition = .ok leaf) :
    resolve name = some leaf.path ∧ condition.predicate = .ok leaf.predicate := by
  unfold compileLeaf at h
  split at h
  · simp at h
  · rename_i predicate hpredicate
    split at h
    · simp at h
    · split at h
      · simp at h
      · rename_i path hpath
        rw [← Except.ok.inj h]
        exact ⟨hpath, hpredicate⟩

/-- The leaf of a condition depicts it. -/
theorem IsLeaf.depicts {leaf : Leaf} (h : IsLeaf resolve start e leaf) :
    Depicts resolve e (.leaf leaf) := by
  cases h with
  | test h =>
    obtain ⟨hpath, hpredicate⟩ := parts_of_compileLeaf h
    exact .test hpath hpredicate (negated_of_compileLeaf h).2
  | not h =>
    obtain ⟨hpath, hpredicate⟩ := parts_of_compileLeaf h
    exact .not hpath hpredicate (negated_of_compileLeaf h).2

/-- There are at most as many operands as numbers that they take. -/
theorem length_le_sizeAll (es : List Expr) : es.length ≤ sizeAll es := by
  induction es with
  | nil => exact Nat.le_refl 0
  | cons e es ih =>
    have hpos := size_pos e
    rw [sizeAll, List.length_cons]
    omega

/-- The stretches of numbers that operands take follow one another without a gap. -/
theorem flatMap_places (start : Nat) (es : List Expr) :
    (places start es).flatMap (fun p => List.range' p.1 p.2.size)
      = List.range' start (sizeAll es) := by
  induction es generalizing start with
  | nil => rfl
  | cons e es ih =>
    rw [places, List.flatMap_cons, ih, sizeAll, ← List.range'_append_1]

/-- The span of the first node of a filter is the stretch of numbers that the filter takes. -/
theorem Laid.spanOf_start (h : Laid resolve tree above start e) :
    tree.spanOf start = List.range' start e.size := by
  obtain ⟨kind, hnode⟩ := h.first_node
  rw [Tree.spanOf, hnode, Option.map_some, Option.getD_some, Node.span, Nat.add_sub_cancel_left]

/-- The span of the first node of a filter holds the numbers of the filter. -/
theorem Laid.mem_spanOf_start (h : Laid resolve tree above start e) {i : Nat} :
    i ∈ tree.spanOf start ↔ Covers start e i := by
  rw [h.spanOf_start, List.mem_range'_1]
  rfl

/-- The nearest operator above a filter is above its first node. -/
theorem Laid.parentOf?_start (h : Laid resolve tree above start e) :
    tree.parentOf? start = above.head? := by
  obtain ⟨kind, hnode⟩ := h.first_node
  rw [Tree.parentOf?, hnode]
  rfl

/-- Stepping over the spans of operands finds the first number of each. -/
theorem siblingsFrom_places {es : List Expr}
    (h : ∀ p ∈ places start es, Laid resolve tree above p.1 p.2) {fuel : Nat}
    (hfuel : es.length < fuel) :
    tree.siblingsFrom (start + sizeAll es) fuel start = (places start es).map Prod.fst := by
  induction es generalizing start fuel with
  | nil =>
    cases fuel with
    | zero => simp at hfuel
    | succ fuel => rw [siblingsFrom, sizeAll, Nat.add_zero, if_neg (Nat.lt_irrefl _), places]; rfl
  | cons e es ih =>
    cases fuel with
    | zero => simp at hfuel
    | succ fuel =>
      obtain ⟨kind, hnode⟩ := (h (start, e) List.mem_cons_self).first_node
      have hpos := size_pos e
      have hlt : start < start + sizeAll (e :: es) := by
        rw [sizeAll]
        omega
      have hbelow : ∀ p ∈ places (start + e.size) es, Laid resolve tree above p.1 p.2 :=
        fun p hp => h p (List.mem_cons_of_mem _ hp)
      have hrest := ih hbelow (Nat.lt_of_succ_lt_succ hfuel)
      rw [siblingsFrom, if_pos hlt, hnode, places, List.map_cons, sizeAll, ← Nat.add_assoc]
      exact congrArg (start :: ·) hrest

/-- The children of an operator are the first nodes of its operands. -/
theorem Laid.children_join {c : Connective} {es : List Expr}
    (h : Laid resolve tree above start (Expr.join c es)) :
    tree.children start = (places (start + 1) es).map Prod.fst := by
  cases h with
  | leaf hleaf _ => cases hleaf
  | join _ hnode hbelow =>
    have hlength := length_le_sizeAll es
    rw [children, hnode]
    dsimp only
    rw [size, Nat.add_sub_cancel_left, ← Nat.add_assoc]
    exact siblingsFrom_places hbelow (by omega)

/-- A leaf has no children. -/
theorem IsLeaf.children_eq_nil {leaf : Leaf}
    (hnode : tree.nodes[start]? = some ⟨above, start, start + 1, .leaf leaf⟩) :
    tree.children start = [] := by
  rw [children, hnode]
  dsimp only
  rw [Nat.add_sub_cancel_left, siblingsFrom, if_neg (Nat.lt_irrefl _)]

/-- Parents lead up from every number of a filter to its first. -/
theorem Laid.reaches_start (h : Laid resolve tree above start e) {i : Nat} (hi : Covers start e i) :
    Relation.ReflTransGen tree.Below i start := by
  induction h with
  | leaf hleaf _ =>
    rw [hi.eq_start hleaf.size_eq]
  | join _ _ hbelow ih =>
    rcases hi.cases_join with rfl | ⟨p, hp, hip⟩
    · exact .refl
    · exact (ih p hp hip).tail (hbelow p hp).parentOf?_start

/-- Every number of a filter but its first is the first one of an operand of the operator above. -/
theorem Laid.exists_operator (h : Laid resolve tree above start e) {i : Nat} (hi : Covers start e i)
    (hne : i ≠ start) : ∃ parent above' c es part,
      Laid resolve tree above' parent (Expr.join c es) ∧
      (i, part) ∈ places (parent + 1) es ∧ tree.Below i parent := by
  induction h with
  | leaf hleaf _ =>
    exact absurd (hi.eq_start hleaf.size_eq) hne
  | @join above start c es hes hnode hbelow ih =>
    rcases hi.cases_join with heq | ⟨p, hp, hip⟩
    · exact absurd heq hne
    · by_cases hfirst : i = p.1
      · refine ⟨start, above, c, es, p.2, .join hes hnode hbelow, ?_, ?_⟩
        · rw [hfirst]
          exact hp
        · rw [hfirst]
          exact (hbelow p hp).parentOf?_start
      · exact ih p hp hip hfirst

/-- Outlines that depict operands are read back one after the other. -/
theorem outlines_of_places {es : List Expr} {depth : Nat}
    (h : ∀ p ∈ places start es, ∃ part, Depicts resolve p.2 part ∧
      tree.outlineAt depth p.1 = some part) :
    ∃ parts, List.Forall₂ (Depicts resolve) es parts ∧
      ((places start es).map Prod.fst).mapM (tree.outlineAt depth) = some parts := by
  induction es generalizing start with
  | nil => exact ⟨[], .nil, rfl⟩
  | cons e es ih =>
    obtain ⟨part, hdepicts, hpart⟩ := h (start, e) List.mem_cons_self
    obtain ⟨parts, hall, hparts⟩ := ih fun p hp => h p (List.mem_cons_of_mem _ hp)
    refine ⟨part :: parts, .cons hdepicts hall, ?_⟩
    rw [places, List.map_cons, List.mapM_cons, hpart, hparts]
    rfl

/-- The outline read from the first node of a filter depicts the filter. -/
theorem Laid.outlineAt_start (h : Laid resolve tree above start e) {depth : Nat}
    (hdepth : e.size ≤ depth) :
    ∃ outline, Depicts resolve e outline ∧ tree.outlineAt depth start = some outline := by
  induction h generalizing depth with
  | @leaf above start e leaf hleaf hnode =>
    rw [hleaf.size_eq] at hdepth
    obtain ⟨depth, rfl⟩ := Nat.exists_eq_add_of_le' hdepth
    refine ⟨.leaf leaf, hleaf.depicts, ?_⟩
    rw [outlineAt, hnode]
    rfl
  | @join above start c es hes hnode hbelow ih =>
    rw [size] at hdepth
    obtain ⟨depth, rfl⟩ : ∃ less, depth = less + 1 := ⟨depth - 1, by omega⟩
    have hfits : ∀ p ∈ places (start + 1) es, p.2.size ≤ depth := by
      intro p hp
      have hbounds := place_bounds hp
      omega
    obtain ⟨parts, hall, hparts⟩ := outlines_of_places fun p hp => ih p hp (hfits p hp)
    refine ⟨.join c parts, .join hall, ?_⟩
    rw [outlineAt, hnode, (Laid.join hes hnode hbelow).children_join, hparts]
    rfl

/-- A node with something above it is a node of the tree. -/
theorem lt_size_of_below {id parent : Nat} (h : tree.Below id parent) : id < tree.size := by
  obtain ⟨_, hnode, _⟩ := Option.bind_eq_some_iff.mp h
  exact (Array.getElem?_eq_some_iff.mp hnode).1

/-- A node directly below another is the first one of an operand of the operator there. -/
theorem Laid.operand_of_below (h : Laid resolve tree [] 0 e) (hsize : tree.size = e.size)
    {id parent : Nat} (hbelow : tree.Below id parent) : ∃ above c es part,
      Laid resolve tree above parent (Expr.join c es) ∧ (id, part) ∈ places (parent + 1) es := by
  have hid := lt_size_of_below hbelow
  have hne : id ≠ 0 := by
    intro heq
    rw [Tree.Below, heq, h.parentOf?_start] at hbelow
    simp at hbelow
  obtain ⟨found, above, c, es, part, hl, hplace, hfound⟩ :=
    h.exists_operator ⟨Nat.zero_le id, by omega⟩ hne
  obtain rfl : parent = found := Option.some.inj (hbelow.symm.trans hfound)
  exact ⟨above, c, es, part, hl, hplace⟩

/-- A node comes after the operator above it. -/
theorem Laid.lt_of_below (h : Laid resolve tree [] 0 e) (hsize : tree.size = e.size)
    {id parent : Nat} (hbelow : tree.Below id parent) : parent < id := by
  obtain ⟨_, _, _, _, _, hplace⟩ := h.operand_of_below hsize hbelow
  exact (place_bounds hplace).1

/-- A node from which parents lead up to another is in the span of the other. -/
theorem Laid.mem_spanOf_of_reaches (h : Laid resolve tree [] 0 e) (hsize : tree.size = e.size)
    {id other : Nat} (hid : id < tree.size) (hreaches : Relation.ReflTransGen tree.Below other id) :
    other ∈ tree.spanOf id := by
  induction hreaches with
  | refl =>
    obtain ⟨_, part, hl⟩ := h.exists_part ⟨Nat.zero_le other, by omega⟩
    exact hl.mem_spanOf_start.mpr (covers_self other part)
  | tail _ hbelow ih =>
    -- The span of an operand is part of that of the operator.
    have hother := ih (lt_size_of_below hbelow)
    obtain ⟨_, _, _, _, hl, hplace⟩ := h.operand_of_below hsize hbelow
    rw [(hl.operands _ hplace).mem_spanOf_start] at hother
    exact hl.mem_spanOf_start.mpr (hother.of_place hplace).1

/-- The span of a node is the node with the spans of its children behind it. -/
theorem Laid.spanOf_eq (h : Laid resolve tree above start e) :
    tree.spanOf start = start :: (tree.children start).flatMap tree.spanOf := by
  rw [h.spanOf_start]
  cases h with
  | leaf hleaf hnode =>
    rw [hleaf.size_eq, IsLeaf.children_eq_nil hnode]
    rfl
  | @join _ _ c es hes hnode hbelow =>
    have hspans : (places (start + 1) es).flatMap (fun p => tree.spanOf p.1)
        = List.range' (start + 1) (sizeAll es) := by
      rw [← flatMap_places]
      refine List.flatMap_congr fun p hp => ?_
      exact (hbelow p hp).spanOf_start
    rw [(Laid.join hes hnode hbelow).children_join, List.flatMap_map, hspans, size,
      Nat.add_comm 1, List.range'_succ]

/-- The children of a node are directly below it. -/
theorem Laid.below_of_mem_children (h : Laid resolve tree above start e) {child : Nat}
    (hchild : child ∈ tree.children start) : tree.Below child start := by
  cases h with
  | leaf _ hnode =>
    rw [IsLeaf.children_eq_nil hnode] at hchild
    simp at hchild
  | join hes hnode hbelow =>
    rw [(Laid.join hes hnode hbelow).children_join] at hchild
    obtain ⟨p, hp, rfl⟩ := List.mem_map.mp hchild
    exact (hbelow p hp).parentOf?_start

/-- The initial counter of the first node of a filter is one for a leaf, and the number of children
for an operator. -/
theorem Laid.initialCounter_start (h : Laid resolve tree above start e) :
    tree.nodes[start]?.map Node.initialCounter
      = some (if (tree.leaf? start).isSome then 1 else ((tree.children start).length : Int)) := by
  cases h with
  | leaf _ hnode =>
    rw [leaf?, hnode]
    rfl
  | @join _ _ c es hes hnode hbelow =>
    rw [(Laid.join hes hnode hbelow).children_join, List.length_map, length_places, leaf?, hnode]
    rfl

/-- A filter that fills a tree is laid out in it in preorder. -/
theorem Laid.preorder (h : Laid resolve tree [] 0 e) (hsize : tree.size = e.size)
    (hnumbered : tree.Numbered)
    (hinitial : tree.initialCounters = tree.nodes.map Node.initialCounter) : tree.Preorder := by
  have hpart : ∀ id < tree.size, ∃ above part, Laid resolve tree above id part :=
    fun id hid => h.exists_part ⟨Nat.zero_le id, by omega⟩
  have hpos := size_pos e
  refine ⟨hnumbered, by omega, fun id hid => ?_, fun _ _ => h.lt_of_below hsize,
    fun id hid other => ?_, fun id hid => ?_, fun id child => ?_, fun id hid => ?_,
    hnumbered.leafIds_eq⟩
  · constructor
    · intro hnone
      refine Classical.byContradiction fun hne => ?_
      obtain ⟨_, _, _, _, _, _, _, hbelow⟩ := h.exists_operator ⟨Nat.zero_le id, by omega⟩ hne
      rw [Tree.Below, hnone] at hbelow
      simp at hbelow
    · intro heq
      rw [heq, h.parentOf?_start]
      rfl
  · refine ⟨fun hmem => ?_, h.mem_spanOf_of_reaches hsize hid⟩
    obtain ⟨_, _, hl⟩ := hpart id hid
    exact hl.reaches_start (hl.mem_spanOf_start.mp hmem)
  · obtain ⟨_, _, hl⟩ := hpart id hid
    exact hl.spanOf_eq
  · constructor
    · intro hchild
      rcases Nat.lt_or_ge id tree.size with hid | hid
      · obtain ⟨_, _, hl⟩ := hpart id hid
        exact hl.below_of_mem_children hchild
      · rw [Tree.children, Array.getElem?_eq_none hid] at hchild
        simp at hchild
    · intro hbelow
      obtain ⟨_, _, _, _, hl, hplace⟩ := h.operand_of_below hsize hbelow
      rw [hl.children_join]
      exact List.mem_map_of_mem hplace
  · obtain ⟨_, _, hl⟩ := hpart id hid
    rw [hinitial, Array.getElem?_map]
    exact hl.initialCounter_start

/-- A filter that compiles to a tree with nodes is laid out in preorder, and the outline read back
from the tree depicts it. -/
theorem compiled_in_preorder (hcompile : e.compile resolve = .ok tree)
    (hconstant : ∀ value, e ≠ .constant value) :
    tree.Preorder ∧ ∃ outline, tree.outline? = some outline ∧ Depicts resolve e outline := by
  rcases laid_of_compile hcompile with ⟨value, he, _⟩ | ⟨hl, hsize, hinitial⟩
  · exact absurd he (hconstant value)
  · obtain ⟨outline, hdepicts, houtline⟩ := hl.outlineAt_start (Nat.le_refl e.size)
    rw [← hsize] at houtline
    exact ⟨hl.preorder hsize (numbered_of_compile hcompile) hinitial, outline, houtline, hdepicts⟩

/-- An operator in front of a leaf, and a negated condition. -/
def deepFilter : Expr :=
  .join .or [.join .and [.test "tags" .isNull, .join .or [.not (.test "name" .isNull)]],
    .test "name" (.compare .less (.integer 3))]

/-- The attributes of `deepFilter`. -/
def deepPath (name : String) : Option Path :=
  some (if name = "tags" then ⟨[0], true⟩ else ⟨[1], false⟩)

/-- The tree of `deepFilter`. -/
def deepTree : Tree :=
  .arena #[⟨[], 0, 6, .join .or 2⟩, ⟨[0], 1, 5, .join .and 2⟩,
    ⟨[1, 0], 2, 3, .leaf ⟨2, .isNull, false, ⟨[0], true⟩⟩⟩, ⟨[1, 0], 3, 5, .join .or 1⟩,
    ⟨[3, 1, 0], 4, 5, .leaf ⟨4, .isNull, true, ⟨[1], false⟩⟩⟩,
    ⟨[0], 5, 6, .leaf ⟨5, .interval (.ofComparison .less (.integer 3)), false, ⟨[1], false⟩⟩⟩]

/-- The children of the conjunction are a leaf and the operator behind it. -/
theorem compiled_in_preorder_deep :
    deepFilter.compile deepPath = .ok deepTree ∧ deepTree.children 1 = [2, 3] ∧
      deepTree.Preorder ∧
      ∃ outline, deepTree.outline? = some outline ∧ Depicts deepPath deepFilter outline := by
  have hcompile : deepFilter.compile deepPath = .ok deepTree := rfl
  have hconstant : ∀ value, deepFilter ≠ .constant value := fun _ h => by cases h
  exact ⟨hcompile, rfl, compiled_in_preorder hcompile hconstant⟩

end Expr

end Percolator
