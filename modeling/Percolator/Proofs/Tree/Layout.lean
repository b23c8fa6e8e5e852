import Percolator.Tree.Compile
import Percolator.Proofs.Expr.Places

/-!
# The layout of compiled filters

A filter is laid out in as many nodes as direct evaluation gives numbers to its parts. So the number
of a condition in direct evaluation is the number of its leaf in the tree. Main statement: a filter
that compiles to a tree with nodes is laid out in it from its first node on, every operator before
its operands and with a span that ends where the last operand does.
-/

namespace Percolator.Tree

/-- Operators of a tree lead from a node up to the root, which is node zero and the last of them. -/
def Leads (tree : Tree) : Nat → List Nat → Prop
  | id, [] => id = 0
  | id, parent :: above => 0 < id ∧ parent < tree.size ∧ tree.Leads parent above

/-- From every node the operators above it lead up to the root. -/
def Connected (tree : Tree) : Prop :=
  ∀ (i : Nat) (node : Node), tree.nodes[i]? = some node → tree.Leads i node.above

/-- The operators that lead up to the root are nodes of the tree. -/
theorem Leads.lt_size {tree : Tree} {id : Nat} {above : List Nat} (h : tree.Leads id above) :
    ∀ parent ∈ above, parent < tree.size := by
  induction above generalizing id with
  | nil => exact List.forall_mem_nil _
  | cons parent above ih => exact List.forall_mem_cons.mpr ⟨h.2.1, ih h.2.2⟩

/-- Only the root has no operators above it. -/
theorem Leads.pos {tree : Tree} {id : Nat} {above : List Nat} (h : tree.Leads id above)
    (hne : above ≠ []) : 0 < id := by
  cases above with
  | nil => exact absurd rfl hne
  | cons parent above => exact h.1

/-- The number of every node is its place, and the number of its leaf too, if it has one. -/
structure Numbered (tree : Tree) : Prop where
  nodes : ∀ (i : Nat) (node : Node), tree.nodes[i]? = some node → node.start = i
  leaves : ∀ (i : Nat) (leaf : Leaf), tree.leaf? i = some leaf → leaf.id = i

/-- Only nodes of a tree are leaves. -/
theorem lt_size_of_leaf? {tree : Tree} {id : Nat} {leaf : Leaf} (h : tree.leaf? id = some leaf) :
    id < tree.size := by
  obtain ⟨_, hnode, _⟩ := Option.bind_eq_some_iff.mp h
  exact (Array.getElem?_eq_some_iff.mp hnode).1

/-- The number of a leaf is the number of a node. -/
theorem lt_size_of_isLeaf {tree : Tree} {id : Nat} (h : (tree.leaf? id).isSome = true) :
    id < tree.size := by
  obtain ⟨leaf, hfound⟩ := Option.isSome_iff_exists.mp h
  exact lt_size_of_leaf? hfound

/-- The nodes of a tree have its places as their numbers, in order. -/
theorem Numbered.map_start {tree : Tree} (h : tree.Numbered) :
    tree.nodes.toList.map Node.start = List.range tree.size := by
  refine List.ext_getElem (by simp [size]) fun i hi _ => ?_
  rw [List.getElem_map, List.getElem_range]
  refine h.nodes i _ ?_
  rw [Array.getElem_toList, Array.getElem?_eq_getElem]

/-- The leaves of some nodes have the numbers of these nodes, if each leaf has the number of its own. -/
theorem map_id_filterMap_leaf? {nodes : List Node}
    (h : ∀ node ∈ nodes, ∀ leaf, node.leaf? = some leaf → leaf.id = node.start) :
    (nodes.filterMap Node.leaf?).map Leaf.id
      = (nodes.filter fun node => node.leaf?.isSome).map Node.start := by
  induction nodes with
  | nil => rfl
  | cons node nodes ih =>
    have hrest := ih fun other hother => h other (List.mem_cons_of_mem _ hother)
    cases hleaf : node.leaf? with
    | none => rw [List.filterMap_cons_none hleaf, List.filter_cons_of_neg (by simp [hleaf]), hrest]
    | some leaf =>
      rw [List.filterMap_cons_some hleaf, List.filter_cons_of_pos (by simp [hleaf]), List.map_cons,
        List.map_cons, hrest, h node List.mem_cons_self leaf hleaf]

/-- The leaves of a tree are listed by their places. -/
theorem Numbered.leafIds_eq {tree : Tree} (h : tree.Numbered) :
    tree.leafIds = (List.range tree.size).filter fun id => (tree.leaf? id).isSome := by
  have hplace : ∀ node ∈ tree.nodes.toList, tree.leaf? node.start = node.leaf? := by
    intro node hnode
    obtain ⟨i, hi⟩ := List.mem_iff_getElem?.mp hnode
    rw [Array.getElem?_toList] at hi
    rw [h.nodes i node hi, leaf?, hi, Option.bind_some]
  rw [leafIds, map_id_filterMap_leaf? fun node hnode leaf hleaf =>
    h.leaves _ leaf ((hplace node hnode).trans hleaf), ← h.map_start, List.filter_map]
  refine congrArg (List.map Node.start) (List.filter_congr fun node hnode => ?_)
  rw [Function.comp_apply, hplace node hnode]

/-- A tree lists the numbers of its leaves. -/
theorem Numbered.mem_leafIds {tree : Tree} (h : tree.Numbered) {id : Nat} :
    id ∈ tree.leafIds ↔ (tree.leaf? id).isSome = true := by
  rw [h.leafIds_eq, List.mem_filter, List.mem_range]
  exact ⟨And.right, fun hleaf => ⟨lt_size_of_isLeaf hleaf, hleaf⟩⟩

/-- A tree lists no leaf twice. -/
theorem Numbered.nodup_leafIds {tree : Tree} (h : tree.Numbered) : tree.leafIds.Nodup := by
  rw [h.leafIds_eq]
  exact List.nodup_range.filter _

end Percolator.Tree

namespace Percolator.Expr

/-- The only node of a condition has one number. -/
theorem length_layoutLeaf {resolve : String → Option Path} {above : List Nat} {start : Nat}
    {negated : Bool} {name : String} {condition : Condition} {nodes : List Node}
    (h : layoutLeaf resolve above start negated name condition = .ok nodes) : nodes.length = 1 := by
  unfold layoutLeaf at h
  split at h
  · simp at h
  · simp only [Except.ok.injEq] at h
    subst h
    rfl

mutual

/-- A filter is laid out in as many nodes as it takes numbers. -/
theorem length_layout {resolve : String → Option Path} : {above : List Nat} → {start : Nat} →
    (e : Expr) → {nodes : List Node} → e.layout resolve above start = .ok nodes →
    nodes.length = e.size
  | _, _, constant _, _, h => by simp [layout] at h
  | _, _, test _ _, _, h => by
    rw [layout] at h
    simp [size, length_layoutLeaf h]
  | _, _, not (test _ _), _, h => by
    rw [layout] at h
    simp [size, length_layoutLeaf h]
  | _, _, not (constant _), _, h => by simp [layout] at h
  | _, _, not (not _), _, h => by simp [layout] at h
  | _, _, not (join _ _), _, h => by simp [layout] at h
  | above, start, join c es, _, h => by
    rw [layout] at h
    split at h
    · simp at h
    · split at h
      · simp at h
      · rename_i below hb
        simp only [Except.ok.injEq] at h
        subst h
        simp [size, length_layoutAll es hb]
        omega

/-- Operands are laid out in as many nodes as they take numbers together. -/
theorem length_layoutAll {resolve : String → Option Path} : {above : List Nat} → {start : Nat} →
    (es : List Expr) → {nodes : List Node} → layoutAll resolve above start es = .ok nodes →
    nodes.length = sizeAll es
  | _, _, [], _, h => by
    simp only [layoutAll, Except.ok.injEq] at h
    subst h
    rfl
  | _, _, e :: es, _, h => by
    rw [layoutAll] at h
    split at h
    · simp at h
    · rename_i nodes hn
      split at h
      · simp at h
      · rename_i more hm
        simp only [Except.ok.injEq] at h
        subst h
        simp [sizeAll, length_layout e hn, length_layoutAll es hm]

end

/-- The leaf that a condition, or the negation of one, is compiled to. -/
inductive IsLeaf (resolve : String → Option Path) (start : Nat) : Expr → Leaf → Prop
  | test {name : String} {condition : Condition} {leaf : Leaf}
      (h : compileLeaf resolve start false name condition = .ok leaf) :
      IsLeaf resolve start (test name condition) leaf
  | not {name : String} {condition : Condition} {leaf : Leaf}
      (h : compileLeaf resolve start true name condition = .ok leaf) :
      IsLeaf resolve start (not (test name condition)) leaf

/-- A filter is laid out in a tree from the number `start` on, below the operators `above`. -/
inductive Laid (resolve : String → Option Path) (tree : Tree) : List Nat → Nat → Expr → Prop
  | leaf {above : List Nat} {start : Nat} {e : Expr} {leaf : Leaf}
      (hleaf : IsLeaf resolve start e leaf)
      (hnode : tree.nodes[start]? = some ⟨above, start, start + 1, .leaf leaf⟩) :
      Laid resolve tree above start e
  | join {above : List Nat} {start : Nat} {c : Connective} {es : List Expr} (hes : es ≠ [])
      (hnode : tree.nodes[start]?
        = some ⟨above, start, start + (join c es).size, .join c es.length⟩)
      (hbelow : ∀ p ∈ places (start + 1) es, Laid resolve tree (start :: above) p.1 p.2) :
      Laid resolve tree above start (join c es)

/-- A compiled leaf has its number, and is negated exactly if the condition stood below a negation. -/
theorem negated_of_compileLeaf {resolve : String → Option Path} {start : Nat} {negated : Bool}
    {name : String} {condition : Condition} {leaf : Leaf}
    (h : compileLeaf resolve start negated name condition = .ok leaf) :
    leaf.id = start ∧ leaf.negated = negated := by
  unfold compileLeaf at h
  split at h
  · simp at h
  · split at h
    · simp at h
    · split at h
      · simp at h
      · rw [← Except.ok.inj h]
        exact ⟨rfl, rfl⟩

/-- A condition takes one number. -/
theorem IsLeaf.size_eq {resolve : String → Option Path} {start : Nat} {e : Expr} {leaf : Leaf}
    (h : IsLeaf resolve start e leaf) : e.size = 1 := by
  cases h <;> rfl

/-- That is the number of its leaf. -/
theorem IsLeaf.id_eq {resolve : String → Option Path} {start : Nat} {e : Expr} {leaf : Leaf}
    (h : IsLeaf resolve start e leaf) : leaf.id = start := by
  cases h with
  | test h => exact (negated_of_compileLeaf h).1
  | not h => exact (negated_of_compileLeaf h).1

/-- A leaf evaluates to the value known of its condition, turned round if the leaf is negated. -/
theorem IsLeaf.evaluate_eq {resolve : String → Option Path} {start : Nat} {e : Expr} {leaf : Leaf}
    (h : IsLeaf resolve start e leaf) (known : Nat → Option Bool) (unknown : Bool) :
    e.evaluate known unknown start = ((known start).map (· != leaf.negated)).getD unknown := by
  cases h with
  | test h =>
    rw [(negated_of_compileLeaf h).2, evaluate]
    cases known start <;> simp
  | not h =>
    rw [(negated_of_compileLeaf h).2, evaluate, evaluate]
    cases known start <;> simp

/-- The only node of a condition holds its leaf. -/
theorem layoutLeaf_eq_ok {resolve : String → Option Path} {above : List Nat} {start : Nat}
    {negated : Bool} {name : String} {condition : Condition} {nodes : List Node}
    (h : layoutLeaf resolve above start negated name condition = .ok nodes) :
    ∃ leaf, compileLeaf resolve start negated name condition = .ok leaf ∧
      nodes = [⟨above, start, start + 1, .leaf leaf⟩] := by
  unfold layoutLeaf at h
  split at h
  · simp at h
  · rename_i leaf hleaf
    exact ⟨leaf, hleaf, (Except.ok.inj h).symm⟩

/-- A tree holds a row of nodes from a number on. -/
def Holds (tree : Tree) (start : Nat) (nodes : List Node) : Prop :=
  ∀ (k : Nat) (node : Node), nodes[k]? = some node → tree.nodes[start + k]? = some node

/-- A tree that holds a row holds the first part of it. -/
theorem Holds.left {tree : Tree} {start : Nat} {nodes more : List Node}
    (h : Holds tree start (nodes ++ more)) : Holds tree start nodes := by
  intro k node hk
  apply h
  rw [List.getElem?_append_left (List.getElem?_eq_some_iff.mp hk).1]
  exact hk

/-- A tree that holds a row holds the second part of it further on. -/
theorem Holds.right {tree : Tree} {start : Nat} {nodes more : List Node}
    (h : Holds tree start (nodes ++ more)) : Holds tree (start + nodes.length) more := by
  intro k node hk
  rw [Nat.add_assoc]
  apply h
  rw [List.getElem?_append_right (Nat.le_add_right _ _), Nat.add_sub_cancel_left]
  exact hk

mutual

/-- The nodes of a filter lay it out wherever they are held. -/
theorem laid_of_layout {resolve : String → Option Path} {tree : Tree} : {above : List Nat} →
    {start : Nat} → (e : Expr) → {nodes : List Node} → e.layout resolve above start = .ok nodes →
    Holds tree start nodes → Laid resolve tree above start e
  | _, _, constant _, _, h, _ => by simp [layout] at h
  | _, _, test _ _, _, h, ht => by
    rw [layout] at h
    obtain ⟨leaf, hleaf, rfl⟩ := layoutLeaf_eq_ok h
    exact .leaf (.test hleaf) (ht 0 _ rfl)
  | _, _, not (test _ _), _, h, ht => by
    rw [layout] at h
    obtain ⟨leaf, hleaf, rfl⟩ := layoutLeaf_eq_ok h
    exact .leaf (.not hleaf) (ht 0 _ rfl)
  | _, _, not (constant _), _, h, _ => by simp [layout] at h
  | _, _, not (not _), _, h, _ => by simp [layout] at h
  | _, _, not (join _ _), _, h, _ => by simp [layout] at h
  | above, start, join c es, _, h, ht => by
    rw [layout] at h
    split at h
    · simp at h
    · rename_i hes
      split at h
      · simp at h
      · rename_i below hb
        simp only [Except.ok.injEq] at h
        subst h
        have hlength := length_layoutAll es hb
        have hnode := ht 0 _ rfl
        rw [hlength, Nat.add_assoc start 1] at hnode
        have hrow : Holds tree start
            ([⟨above, start, start + 1 + below.length, .join c es.length⟩] ++ below) := ht
        exact .join (by simpa using hes) hnode (laid_of_layoutAll es hb hrow.right)

/-- The nodes of operands lay each of them out at its place. -/
theorem laid_of_layoutAll {resolve : String → Option Path} {tree : Tree} : {above : List Nat} →
    {start : Nat} → (es : List Expr) → {nodes : List Node} →
    layoutAll resolve above start es = .ok nodes → Holds tree start nodes →
    ∀ p ∈ places start es, Laid resolve tree above p.1 p.2
  | _, _, [], _, _, _, p, hp => by simp [places] at hp
  | _, _, e :: es, _, h, ht, p, hp => by
    rw [layoutAll] at h
    split at h
    · simp at h
    · rename_i nodes hn
      split at h
      · simp at h
      · rename_i more hm
        simp only [Except.ok.injEq] at h
        subst h
        have hlength := length_layout e hn
        rcases List.mem_cons.mp hp with rfl | hp
        · exact laid_of_layout e hn ht.left
        · refine laid_of_layoutAll es hm ht.right p ?_
          rwa [hlength]

end

/-- The first node of a filter has the numbers of the filter as its span. -/
theorem Laid.first_node {resolve : String → Option Path} {tree : Tree} {above : List Nat}
    {start : Nat} {e : Expr} (h : Laid resolve tree above start e) :
    ∃ kind, tree.nodes[start]? = some ⟨above, start, start + e.size, kind⟩ := by
  cases h with
  | leaf hleaf hnode => exact ⟨_, hleaf.size_eq ▸ hnode⟩
  | join _ hnode _ => exact ⟨_, hnode⟩

/-- Each operand of an operator is laid out at its place, below the operator. -/
theorem Laid.operands {resolve : String → Option Path} {tree : Tree} {above : List Nat} {start : Nat}
    {c : Connective} {es : List Expr} (h : Laid resolve tree above start (Expr.join c es)) :
    ∀ p ∈ places (start + 1) es, Laid resolve tree (start :: above) p.1 p.2 := by
  cases h with
  | leaf hleaf _ => cases hleaf
  | join _ _ hbelow => exact hbelow

/-- Every number of a laid out filter is that of a part. -/
theorem Laid.exists_partAt {resolve : String → Option Path} {tree : Tree} {above : List Nat}
    {start : Nat} {e : Expr} (h : Laid resolve tree above start e) {i : Nat}
    (hi : Covers start e i) : ∃ part, PartAt start e i part := by
  induction h with
  | leaf hleaf _ =>
    obtain rfl := hi.eq_start hleaf.size_eq
    exact ⟨_, .self⟩
  | join _ _ _ ih =>
    rcases hi.cases_join with rfl | ⟨p, hp, hip⟩
    · exact ⟨_, .self⟩
    · obtain ⟨part, hpart⟩ := ih p hp hip
      exact ⟨part, .operand hp hpart⟩

/-- Every part of a laid out filter is laid out from its number on. -/
theorem PartAt.laid {resolve : String → Option Path} {tree : Tree} {above : List Nat}
    {start i : Nat} {e part : Expr} (h : PartAt start e i part)
    (hl : Laid resolve tree above start e) : ∃ above', Laid resolve tree above' i part := by
  induction h generalizing above with
  | self => exact ⟨above, hl⟩
  | operand hp _ ih => exact ih (hl.operands _ hp)

/-- From every number of a filter on a part of the filter is laid out. -/
theorem Laid.exists_part {resolve : String → Option Path} {tree : Tree} {above : List Nat}
    {start : Nat} {e : Expr} (h : Laid resolve tree above start e) {i : Nat}
    (hi : Covers start e i) : ∃ above' part, Laid resolve tree above' i part := by
  obtain ⟨part, hpart⟩ := h.exists_partAt hi
  obtain ⟨above', hl⟩ := hpart.laid h
  exact ⟨above', part, hl⟩

/-- The node of every number of a filter is at its own place in the tree. -/
theorem Laid.exists_node {resolve : String → Option Path} {tree : Tree} {above : List Nat}
    {start : Nat} {e : Expr} (h : Laid resolve tree above start e) {i : Nat}
    (hi : Covers start e i) : ∃ node, tree.nodes[i]? = some node ∧ node.start = i := by
  obtain ⟨_, _, hl⟩ := h.exists_part hi
  obtain ⟨_, hnode⟩ := hl.first_node
  exact ⟨_, hnode, rfl⟩

/-- The leaf of a laid out condition has its number. -/
theorem Laid.leaf_id {resolve : String → Option Path} {tree : Tree} {above : List Nat} {start : Nat}
    {e : Expr} (h : Laid resolve tree above start e) {leaf : Leaf}
    (hleaf : tree.leaf? start = some leaf) : leaf.id = start := by
  cases h with
  | leaf hcondition hnode =>
    rw [Tree.leaf?, hnode] at hleaf
    obtain rfl := Option.some.inj hleaf
    exact hcondition.id_eq
  | join _ hnode _ =>
    rw [Tree.leaf?, hnode] at hleaf
    cases hleaf

/-- If the operators above a filter lead up to the root, so do those above each of its nodes. -/
theorem Laid.leads {resolve : String → Option Path} {tree : Tree} {above : List Nat} {start : Nat}
    {e : Expr} (h : Laid resolve tree above start e) (habove : tree.Leads start above) {i : Nat}
    (hi : Covers start e i) {node : Node} (hnode : tree.nodes[i]? = some node) :
    tree.Leads i node.above := by
  induction h with
  | leaf hleaf hlaid =>
    obtain rfl := hi.eq_start hleaf.size_eq
    rw [← Option.some.inj (hlaid.symm.trans hnode)]
    exact habove
  | join _ hlaid _ ih =>
    rcases hi.cases_join with rfl | ⟨p, hp, hip⟩
    · rw [← Option.some.inj (hlaid.symm.trans hnode)]
      exact habove
    · have hbounds := place_bounds hp
      have hstart := (Array.getElem?_eq_some_iff.mp hlaid).1
      exact ih p hp ⟨by omega, hstart, habove⟩ hip

/-- Compiling a filter that is no constant lays it out from number zero on. -/
theorem compile_eq_map_layout {resolve : String → Option Path} {e : Expr}
    (h : ∀ value, e ≠ constant value) :
    e.compile resolve = (e.layout resolve [] 0).map fun nodes => .arena nodes.toArray := by
  cases e with
  | constant value => exact absurd rfl (h value)
  | not _ => rfl
  | test _ _ => rfl
  | join _ _ => rfl

/-- A constant compiles to a tree without nodes, and any other filter is laid out in its tree from
the first node on, with no node besides its own. -/
theorem laid_of_compile {resolve : String → Option Path} {e : Expr} {tree : Tree}
    (h : e.compile resolve = .ok tree) :
    (∃ value, e = constant value ∧ tree = .constant value) ∨
      (Laid resolve tree [] 0 e ∧ tree.size = e.size ∧
        tree.initialCounters = tree.nodes.map Node.initialCounter) := by
  by_cases hc : ∃ value, e = constant value
  · obtain ⟨value, rfl⟩ := hc
    rw [compile] at h
    exact .inl ⟨value, rfl, (Except.ok.inj h).symm⟩
  · rw [compile_eq_map_layout fun value heq => hc ⟨value, heq⟩] at h
    cases hl : e.layout resolve [] 0 with
    | error err => simp [hl, Except.map] at h
    | ok nodes =>
      rw [hl] at h
      rw [← Except.ok.inj h]
      refine .inr ⟨laid_of_layout e hl fun k node hk => ?_, ?_, rfl⟩
      · rw [Nat.zero_add, Tree.nodes, List.getElem?_toArray]
        exact hk
      · rw [Tree.size, Tree.nodes, List.size_toArray]
        exact length_layout e hl

/-- A compiled tree numbers its nodes and its leaves by their places. -/
theorem numbered_of_compile {resolve : String → Option Path} {e : Expr} {tree : Tree}
    (h : e.compile resolve = .ok tree) : tree.Numbered := by
  rcases laid_of_compile h with ⟨value, _, rfl⟩ | ⟨hl, hsize, _⟩
  · exact ⟨fun i node hnode => by simp [Tree.nodes] at hnode,
      fun i leaf hleaf => by simp [Tree.leaf?, Tree.nodes] at hleaf⟩
  · have hcovers : ∀ i, i < tree.size → Covers 0 e i := fun i hi => ⟨Nat.zero_le i, by omega⟩
    refine ⟨fun i node hnode => ?_, fun i leaf hleaf => ?_⟩
    · obtain ⟨found, hfound, hstart⟩ :=
        hl.exists_node (hcovers i (Array.getElem?_eq_some_iff.mp hnode).1)
      rw [hnode] at hfound
      rw [Option.some.inj hfound, hstart]
    · obtain ⟨_, _, hpart⟩ := hl.exists_part (hcovers i (Tree.lt_size_of_leaf? hleaf))
      exact hpart.leaf_id hleaf

/-- From every node of a compiled tree the operators above it lead up to the root. -/
theorem connected_of_compile {resolve : String → Option Path} {e : Expr} {tree : Tree}
    (h : e.compile resolve = .ok tree) : tree.Connected := by
  intro i node hnode
  rcases laid_of_compile h with ⟨value, _, rfl⟩ | ⟨hl, hsize, _⟩
  · simp [Tree.nodes] at hnode
  · have hi : i < tree.size := (Array.getElem?_eq_some_iff.mp hnode).1
    exact hl.leads rfl ⟨Nat.zero_le _, by omega⟩ hnode

end Percolator.Expr
