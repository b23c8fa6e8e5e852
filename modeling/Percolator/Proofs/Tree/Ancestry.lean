import Percolator.Evaluation
import Percolator.Proofs.Tree.Preorder

/-!
# The operators above a node

Every node carries the operators above it as a row, and every node has a nearest operator above it, from
which the next one is found. Main statements: in a compiled tree both tell the same operators, which all
come before the node, so a node is never above itself; and the nodes from which a node is reached are
its span.
-/

namespace Percolator

open Relation

namespace Tree

variable {tree : Tree} {id other parent ancestor : Nat} {above : List Nat}

/-- A row holds the operators above a node, nearest first and up to the root. -/
def Lineage (tree : Tree) : Nat → List Nat → Prop
  | id, [] => id = 0
  | id, parent :: above => tree.Below id parent ∧ tree.Lineage parent above

/-- The nodes of a tree hang together from the root down. A tree without nodes does as well. -/
structure Rooted (tree : Tree) : Prop where
  /-- The number of every node is its place. -/
  numbered : tree.Numbered
  /-- A node comes after the operator above it. -/
  parents : ∀ id parent, tree.Below id parent → parent < id
  /-- Only operators have nodes below them. -/
  operators : ∀ id parent, tree.Below id parent → ∃ c, tree.connective? parent = some c
  /-- The span of a node holds the node and those from which parents lead up to it. -/
  spans : ∀ id < tree.size, ∀ other,
    other ∈ tree.spanOf id ↔ ReflTransGen tree.Below other id
  /-- The operators that a node carries are those above it. -/
  lineage : ∀ id node, tree.nodes[id]? = some node → tree.Lineage id node.above

/-- An operator is no leaf. -/
theorem leaf?_of_connective? {c : Connective} (h : tree.connective? id = some c) :
    tree.leaf? id = none := by
  rw [connective?] at h
  rw [leaf?]
  cases hnode : tree.nodes[id]? with
  | none => rfl
  | some node =>
    rw [hnode, Option.map_some] at h
    rw [Option.bind_some, Node.leaf?]
    cases hkind : node.kind with
    | join connective arity => rfl
    | leaf leaf => simp [hkind] at h

/-- A leaf is no operator. -/
theorem ne_of_connective? {c : Connective} (h : tree.connective? id = some c)
    (hleaf : (tree.leaf? other).isSome = true) : other ≠ id := by
  rintro rfl
  simp [leaf?_of_connective? h] at hleaf

/-- An operator in a row is above the node. -/
theorem Lineage.above_of_mem (h : tree.Lineage id above) (hmem : ancestor ∈ above) :
    TransGen tree.Below id ancestor := by
  induction above generalizing id with
  | nil => simp at hmem
  | cons parent above ih =>
    rcases List.mem_cons.mp hmem with rfl | hmem
    · exact .single h.1
    · exact .head h.1 (ih h.2 hmem)

/-- The root is in every row but its own. -/
theorem Lineage.root_mem (h : tree.Lineage id above) (hne : above ≠ []) : 0 ∈ above := by
  induction above generalizing id with
  | nil => exact absurd rfl hne
  | cons parent above ih =>
    cases above with
    | nil => exact List.mem_singleton.mpr h.2.symm
    | cons next above => exact List.mem_cons_of_mem _ (ih h.2 (List.cons_ne_nil _ _))

/-- The operators above a node lead up to the root. -/
theorem Lineage.reaches_root (h : tree.Lineage id above) : ReflTransGen tree.Below id 0 := by
  cases above with
  | nil =>
    obtain rfl : id = 0 := h
    exact .refl
  | cons parent above =>
    exact (h.above_of_mem (h.root_mem (List.cons_ne_nil _ _))).to_reflTransGen

namespace Rooted

variable (h : tree.Rooted)

include h

/-- A node comes after all operators above it. -/
theorem lt_of_above (habove : TransGen tree.Below id ancestor) : ancestor < id :=
  Tree.lt_of_above h.parents habove

/-- A node is reached from no operator above it. -/
theorem not_reaches_of_above (habove : TransGen tree.Below id ancestor) :
    ¬ ReflTransGen tree.Below ancestor id := by
  intro hreaches
  exact Nat.lt_irrefl _ (h.lt_of_above (.trans_right hreaches habove))

/-- Nothing is above the root. -/
theorem not_above_root : ¬ TransGen tree.Below 0 ancestor :=
  fun habove => Nat.not_lt_zero _ (h.lt_of_above habove)

/-- No leaf is above a node. -/
theorem leaf?_of_above (habove : TransGen tree.Below id ancestor) : tree.leaf? ancestor = none := by
  obtain ⟨_, _, hbelow⟩ := TransGen.tail'_iff.mp habove
  obtain ⟨_, hconnective⟩ := h.operators _ _ hbelow
  exact leaf?_of_connective? hconnective

/-- A leaf is reached from itself only. -/
theorem eq_of_reaches_leaf (hleaf : (tree.leaf? id).isSome = true)
    (hreaches : ReflTransGen tree.Below other id) : other = id := by
  rcases reflTransGen_iff_eq_or_transGen.mp hreaches with heq | habove
  · exact heq.symm
  · simp [h.leaf?_of_above habove] at hleaf

/-- A row of the operators above a node holds all of them. -/
theorem mem_of_above (hlineage : tree.Lineage id above) (habove : TransGen tree.Below id ancestor) :
    ancestor ∈ above := by
  induction above generalizing id with
  | nil =>
    obtain rfl : id = 0 := hlineage
    exact absurd habove h.not_above_root
  | cons parent above ih =>
    obtain ⟨hbelow, hlineage⟩ := hlineage
    obtain ⟨found, hfound, hreaches⟩ := TransGen.head'_iff.mp habove
    obtain rfl : parent = found := Option.some.inj (hbelow.symm.trans hfound)
    rcases reflTransGen_iff_eq_or_transGen.mp hreaches with rfl | hrest
    · exact List.mem_cons_self
    · exact List.mem_cons_of_mem _ (ih hlineage hrest)

/-- Only the root has no operators above it. -/
theorem pos_of_lineage (hlineage : tree.Lineage id above) (hne : above ≠ []) : 0 < id := by
  cases above with
  | nil => exact absurd rfl hne
  | cons parent above => exact Nat.lt_of_le_of_lt (Nat.zero_le _) (h.parents _ _ hlineage.1)

/-- A leaf that is the root is the only node. -/
theorem size_eq_one_iff (hleaf : (tree.leaf? id).isSome = true) : tree.size = 1 ↔ id = 0 := by
  have hid := lt_size_of_isLeaf hleaf
  constructor
  · intro hsize
    omega
  · rintro rfl
    refine Classical.byContradiction fun hne => ?_
    -- The second node would have the root above it, which is no operator.
    obtain ⟨node, hnode⟩ : ∃ node, tree.nodes[1]? = some node :=
      ⟨_, Array.getElem?_eq_getElem (show 1 < tree.size by omega)⟩
    have hlineage := h.lineage 1 node hnode
    cases habove : node.above with
    | nil =>
      rw [habove] at hlineage
      exact absurd hlineage (show (1 : Nat) ≠ 0 by decide)
    | cons parent above =>
      rw [habove] at hlineage
      have hbelow := hlineage.1
      obtain rfl : parent = 0 := Nat.lt_one_iff.mp (h.parents _ _ hbelow)
      simp [h.leaf?_of_above (.single hbelow)] at hleaf

end Rooted

end Tree

namespace Expr

open Percolator.Tree

variable {resolve : String → Option Path} {tree : Tree} {above : List Nat} {start i : Nat} {e : Expr}

/-- If a filter carries the operators above it, so does each of its nodes. -/
theorem Laid.lineage (h : Laid resolve tree above start e) (habove : tree.Lineage start above)
    (hi : Covers start e i) {node : Node} (hnode : tree.nodes[i]? = some node) :
    tree.Lineage i node.above := by
  induction h with
  | leaf hleaf hlaid =>
    obtain rfl := hi.eq_start hleaf.size_eq
    rw [← Option.some.inj (hlaid.symm.trans hnode)]
    exact habove
  | join _ hlaid hbelow ih =>
    rcases hi.cases_join with rfl | ⟨p, hp, hip⟩
    · rw [← Option.some.inj (hlaid.symm.trans hnode)]
      exact habove
    · exact ih p hp ⟨(hbelow p hp).parentOf?_start, habove⟩ hip

/-- The nodes of a compiled tree hang together. -/
theorem rooted_of_compile (h : e.compile resolve = .ok tree) : tree.Rooted := by
  have hnumbered := numbered_of_compile h
  rcases laid_of_compile h with ⟨value, _, rfl⟩ | ⟨hl, hsize, hinitial⟩
  · have hnone : ∀ id parent, ¬ (Tree.constant value).Below id parent :=
      fun id _ hbelow => Nat.not_lt_zero id (lt_size_of_below hbelow)
    refine ⟨hnumbered, fun id parent hbelow => absurd hbelow (hnone id parent),
      fun id parent hbelow => absurd hbelow (hnone id parent),
      fun id hid => absurd hid (Nat.not_lt_zero id), fun id node hnode => ?_⟩
    simp [Tree.nodes] at hnode
  · have hpreorder := hl.preorder hsize hnumbered hinitial
    refine ⟨hnumbered, hpreorder.parents, fun id parent hbelow => ?_, hpreorder.spans,
      fun id node hnode => ?_⟩
    · obtain ⟨_, c, _, _, hlaid, _⟩ := hl.operand_of_below hsize hbelow
      cases hlaid with
      | leaf hleaf _ => cases hleaf
      | join _ hfound _ => exact ⟨c, by rw [connective?, hfound]; rfl⟩
    · have hid : id < tree.size := (Array.getElem?_eq_some_iff.mp hnode).1
      exact hl.lineage rfl ⟨Nat.zero_le id, by omega⟩ hnode

end Expr

end Percolator
