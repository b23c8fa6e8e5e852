import Percolator.Proofs.Drawing.Labels
import Percolator.Proofs.Tree.Preorder

/-!
# What a drawing tells

The lines that declare records are found again in the text of a drawing, and the fields in a record,
since nothing that users wrote can be taken for what separates them. The arrows need not be looked at:
the spans of operators tell how nodes are nested. Main statement: two compiled trees have one drawing
exactly if their nodes have the same numbers, the same places in the nesting, and the same operators, or
paths and texts of predicates.
-/

namespace Percolator

/-- Two texts, with whatever comes behind each, are the same exactly if something holds and the same comes
behind them. -/
def SameWhen (holds : Prop) (text text' : List Char) : Prop :=
  ∀ rest rest', text ++ rest = text' ++ rest' ↔ holds ∧ rest = rest'

namespace SameWhen

variable {holds holds' : Prop} {text text' more more' : List Char}

/-- A text is the same as itself. -/
theorem refl (text : List Char) : SameWhen True text text := by
  intro rest rest'
  rw [List.append_cancel_left_eq, true_and]

/-- Two conditions that hold together may be exchanged. -/
theorem congr (h : SameWhen holds text text') (hiff : holds ↔ holds') :
    SameWhen holds' text text' := by
  intro rest rest'
  rw [h, hiff]

/-- Texts that start with different characters are never the same. -/
theorem of_ne {c c' : Char} (h : c ≠ c') : SameWhen False (c :: text) (c' :: text') := by
  intro rest rest'
  rw [false_and, iff_false]
  exact fun heq => h (List.cons.inj heq).1

/-- Texts that depend on a choice tell it by their first character. -/
theorem choice {c c' : Char} (h : c ≠ c') (b b' : Bool) (text text' : List Char) :
    SameWhen (b = b') (if b then c :: text else c' :: text') (if b' then c :: text else c' :: text') := by
  cases b <;> cases b'
  · exact (refl _).congr (iff_of_true trivial rfl)
  · exact (of_ne h.symm).congr (iff_of_false id Bool.false_ne_true)
  · exact (of_ne h).congr (iff_of_false id Bool.false_ne_true.symm)
  · exact (refl _).congr (iff_of_true trivial rfl)

/-- Joined texts are the same when both parts are. -/
theorem append (h : SameWhen holds text text') (h' : SameWhen holds' more more') :
    SameWhen (holds ∧ holds') (text ++ more) (text' ++ more') := by
  intro rest rest'
  rw [List.append_assoc, List.append_assoc, h, h', and_assoc]

/-- The texts alone are the same when the condition holds. -/
theorem eq_iff (h : SameWhen holds text text') : text = text' ↔ holds := by
  have hend := h [] []
  rwa [List.append_nil, List.append_nil, eq_self_iff_true, and_true] at hend

/-- Rows are the same exactly if each part is. -/
theorem intercalate {α : Type} {holds : α → Prop} {part part' : α → String} (separator : String)
    {row : List α} (h : ∀ a ∈ row, SameWhen (holds a) (part a).toList (part' a).toList) :
    SameWhen (∀ a ∈ row, holds a) (separator.intercalate (row.map part)).toList
      (separator.intercalate (row.map part')).toList := by
  induction row with
  | nil => exact (refl _).congr (iff_of_true trivial (List.forall_mem_nil holds))
  | cons a row ih =>
    have hfirst := h a List.mem_cons_self
    have hrest := ih fun b hb => h b (List.mem_cons_of_mem a hb)
    cases row with
    | nil =>
      simpa only [List.map_singleton, String.intercalate_singleton, List.forall_mem_singleton]
        using hfirst
    | cons b row =>
      have hall := (hfirst.append (refl separator.toList)).append hrest
      simp only [List.map_cons, String.intercalate_cons_cons, String.toList_append] at hall ⊢
      rwa [and_true, ← List.forall_mem_cons] at hall

end SameWhen

section Rows

variable {separator : String} {mark : Char} {front behind : List Char}

/-- Behind the first field of a row comes a separator, unless it is the last. -/
theorem toList_intercalate_cons (hseparator : separator.toList = front ++ mark :: behind)
    (field next : String) (row : List String) :
    (separator.intercalate (field :: next :: row)).toList = (field.toList ++ front) ++
      mark :: (behind ++ (separator.intercalate (next :: row)).toList) := by
  rw [String.intercalate_cons_cons, String.toList_append, String.toList_append, hseparator]
  simp only [List.append_assoc, List.cons_append]

/-- Fields that do not hold the mark of the separator are found again in a row. -/
theorem intercalate_cancel (hseparator : separator.toList = front ++ mark :: behind)
    (hfront : Sealed mark front) (hmark : mark ≠ '\\') {field field' : String}
    {row row' : List String} (h : ∀ f ∈ field :: row, Sealed mark f.toList)
    (h' : ∀ f ∈ field' :: row', Sealed mark f.toList)
    (heq : (separator.intercalate (field :: row)).toList
      = (separator.intercalate (field' :: row')).toList) : field :: row = field' :: row' := by
  have hfield := h field List.mem_cons_self
  have hfield' := h' field' List.mem_cons_self
  induction row generalizing field field' row' with
  | nil =>
    cases row' with
    | nil =>
      rw [String.intercalate_singleton, String.intercalate_singleton, String.toList_inj] at heq
      rw [heq]
    | cons next' row' =>
      rw [String.intercalate_singleton, toList_intercalate_cons hseparator] at heq
      exact absurd heq (hfield.ne_append (hfield'.append hfront) hmark)
  | cons next row ih =>
    cases row' with
    | nil =>
      rw [String.intercalate_singleton, toList_intercalate_cons hseparator] at heq
      exact absurd heq.symm (hfield'.ne_append (hfield.append hfront) hmark)
    | cons next' row' =>
      rw [toList_intercalate_cons hseparator, toList_intercalate_cons hseparator] at heq
      obtain ⟨hfirst, hrest⟩ := (hfield.append hfront).cancel (hfield'.append hfront) hmark heq
      have htails := fun f hf => h f (List.mem_cons_of_mem field hf)
      have htails' := fun f hf => h' f (List.mem_cons_of_mem field' hf)
      rw [String.toList_inj.mp (List.append_cancel_right hfirst),
        ih htails htails' (List.append_cancel_left hrest) (htails next List.mem_cons_self)
          (htails' next' List.mem_cons_self)]

end Rows

namespace Path

/-- A rendered number tells the number. -/
theorem renderId_injective : Function.Injective renderId := by
  intro id id' h
  have hopen : "attribute(" ++ toString id = "attribute(" ++ toString id' :=
    (String.append_left_inj _).mp h
  exact toString_injective ((String.append_right_inj _).mp hopen)

/-- Neither points nor brackets are in the text of an attribute. -/
theorem sealed_renderId {mark : Char} (hmark : mark.isDigit = false)
    (hword : mark ∉ "attribute(".toList ++ ")".toList) (id : Nat) :
    Sealed mark (renderId id).toList := by
  rw [List.mem_append, not_or] at hword
  have hopen : Sealed mark "attribute(".toList := sealed_of_not_mem (by decide) hword.1
  have hclose : Sealed mark ")".toList := sealed_of_not_mem (by decide) hword.2
  have hdigits : Sealed mark (toString id).toList := by
    refine sealed_of_not_mem ((plain_toString id).not_mem rfl) fun hmem => ?_
    rw [isDigit_of_mem_toString hmem] at hmark
    exact Bool.false_ne_true hmark.symm
  rw [renderId, String.toList_append, String.toList_append]
  exact (hopen.append hdigits).append hclose

/-- Attributes joined by points. -/
def renderIds (ids : List Nat) : List Char := (".".intercalate (ids.map renderId)).toList

/-- Brackets mark repeated paths only. -/
theorem sealed_renderIds (ids : List Nat) : Sealed '[' (renderIds ids) := by
  refine sealed_intercalate (sealed_of_not_mem (by decide) (by decide)) fun part hpart => ?_
  obtain ⟨id, -, rfl⟩ := List.mem_map.mp hpart
  exact sealed_renderId (by decide) (by decide) id

/-- There is a text only if there are attributes. -/
theorem renderIds_cons_ne_nil (id : Nat) (ids : List Nat) : renderIds (id :: ids) ≠ [] := by
  have hid : (renderId id).toList ≠ [] := by
    rw [renderId, String.toList_append, String.toList_append, List.append_assoc]
    exact List.cons_ne_nil _ _
  rw [renderIds]
  cases ids with
  | nil => rwa [List.map_singleton, String.intercalate_singleton]
  | cons next ids =>
    rw [List.map_cons, List.map_cons, String.intercalate_cons_cons, String.toList_append,
      String.toList_append, List.append_assoc]
    exact List.append_ne_nil_of_left_ne_nil hid _

/-- Rendered numbers tell all the numbers. -/
theorem renderIds_injective : Function.Injective renderIds := by
  intro ids ids' h
  cases ids with
  | nil =>
    cases ids' with
    | nil => rfl
    | cons id' ids' => exact absurd h.symm (renderIds_cons_ne_nil id' ids')
  | cons id ids =>
    cases ids' with
    | nil => exact absurd h (renderIds_cons_ne_nil id ids)
    | cons id' ids' =>
      have hsealed : ∀ row : List Nat, ∀ part ∈ row.map renderId, Sealed '.' part.toList := by
        intro row part hpart
        obtain ⟨id, -, rfl⟩ := List.mem_map.mp hpart
        exact sealed_renderId (by decide) (by decide) id
      have hempty : Sealed '.' [] := sealed_of_not_mem List.not_mem_nil List.not_mem_nil
      have hpoint : ".".toList = [] ++ '.' :: [] := rfl
      have hrow := intercalate_cancel hpoint hempty (by decide) (hsealed (id :: ids))
        (hsealed (id' :: ids')) h
      exact List.map_injective_iff.mpr renderId_injective hrow

/-- The text of a path tells the path. -/
theorem render_injective : Function.Injective render := by
  intro p q h
  rw [render, render, ← String.toList_inj, String.toList_append, String.toList_append] at h
  change renderIds p.ids ++ _ = renderIds q.ids ++ _ at h
  have hempty : "".toList = [] := rfl
  have hbracket : '[' ≠ '\\' := by decide
  have hp := sealed_renderIds p.ids
  have hq := sealed_renderIds q.ids
  obtain ⟨hids, hrepeated⟩ : renderIds p.ids = renderIds q.ids ∧ p.repeated = q.repeated := by
    cases hpr : p.repeated <;> cases hqr : q.repeated <;>
      simp only [hpr, hqr, if_true, Bool.false_eq_true, if_false] at h
    · exact ⟨List.append_cancel_right h, rfl⟩
    · rw [hempty, List.append_nil] at h
      exact absurd h (hp.ne_append hq hbracket)
    · rw [hempty, List.append_nil] at h
      exact absurd h.symm (hq.ne_append hp hbracket)
    · exact ⟨List.append_cancel_right h, rfl⟩
  cases p
  cases q
  exact congr (congrArg Path.mk (renderIds_injective hids)) hrepeated

end Path

variable {rest rest' : List Char}

namespace Box

variable {b b' : Box}

/-- The fields of a record are found again between its braces. -/
theorem fields_of_inside (h : b.inside = b'.inside) : b.fields = b'.fields := by
  have hbars : " | ".toList = [' '] ++ '|' :: [' '] := rfl
  have hblank : Sealed '|' [' '] := sealed_of_not_mem (by decide) (by decide)
  have hsealed : ∀ b : Box, ∀ field ∈ b.fields, Sealed '|' field.toList :=
    fun b field hfield => b.inert_fields field hfield '|' rfl
  exact intercalate_cancel hbars hblank (by decide) (hsealed b) (hsealed b') h

/-- What comes behind the label tells whether the corners are round. -/
theorem sameWhen_closing (b b' : Box) :
    SameWhen (b.rounded = b'.rounded) b.closing b'.closing := by
  have hfirst : ',' ≠ ']' := by decide
  exact SameWhen.choice hfirst b.rounded b'.rounded _ _

/-- A record is found again in the line that declares it. -/
theorem line_cancel (h : b.line ++ rest = b'.line ++ rest') : b = b' ∧ rest = rest' := by
  have hquote : '"' ≠ '\\' := by decide
  have hparts : ∀ (b : Box) rest, b.line ++ rest
      = b.opening ++ '"' :: (b.label ++ '"' :: (b.closing ++ rest)) := by
    intro b rest
    simp only [line, List.append_assoc, List.cons_append, List.nil_append]
  rw [hparts, hparts] at h
  obtain ⟨-, hbehind⟩ := b.sealed_opening.cancel b'.sealed_opening hquote h
  obtain ⟨hlabel, hend⟩ := b.sealed_label.cancel b'.sealed_label hquote hbehind
  obtain ⟨hrounded, hrest⟩ := (sameWhen_closing b b' rest rest').mp hend
  have hinside : b.inside = b'.inside := List.append_cancel_right (List.cons.inj hlabel).2
  obtain ⟨hid, hdetails⟩ := List.cons.inj (fields_of_inside hinside)
  exact ⟨Box.ext (toString_injective hid) hdetails hrounded, hrest⟩

/-- A line that declares a record is not empty. -/
theorem line_ne_break (b : Box) : b.line ++ rest ≠ '\n' :: rest' := by
  intro h
  rw [line, opening, nodeName, String.toList_append] at h
  have hfirst : 'n' = '\n' := (List.cons.inj h).1
  exact absurd hfirst (by decide)

/-- Records are found again in the lines before an empty one. -/
theorem lines_cancel {row row' : List Box}
    (h : row.flatMap (fun b => b.line ++ ['\n']) ++ '\n' :: rest
      = row'.flatMap (fun b => b.line ++ ['\n']) ++ '\n' :: rest') : row = row' := by
  induction row generalizing row' with
  | nil =>
    cases row' with
    | nil => rfl
    | cons b' row' =>
      rw [List.flatMap_cons, List.append_assoc, List.append_assoc] at h
      exact absurd h.symm b'.line_ne_break
  | cons b row ih =>
    cases row' with
    | nil =>
      rw [List.flatMap_cons, List.append_assoc, List.append_assoc] at h
      exact absurd h b.line_ne_break
    | cons b' row' =>
      rw [List.flatMap_cons, List.flatMap_cons, List.append_assoc, List.append_assoc,
        List.append_assoc, List.append_assoc] at h
      obtain ⟨rfl, hmore⟩ := line_cancel h
      rw [ih (List.cons.inj hmore).2]

end Box

/-- The records of a tree are found again in its drawing. -/
theorem Tree.boxes_of_graphviz {tree tree' : Tree} (h : tree.graphviz = tree'.graphviz) :
    tree.boxes = tree'.boxes := by
  have hlines : ∀ tree : Tree,
      unlines tree.nodeLines = tree.boxes.flatMap fun b => b.line ++ ['\n'] := by
    intro tree
    rw [unlines, ← List.flatMap_map String.toList (fun line => line ++ ['\n']),
      tree.toList_nodeLines, List.flatMap_map]
  have htext := congrArg String.toList h
  rw [toList_graphviz, toList_graphviz, hlines, hlines] at htext
  exact Box.lines_cancel (List.append_cancel_left htext)

/-- What is shown inside the record of a node. -/
inductive Figure where
  /-- An operator and the number of its operands. -/
  | operator (connective : Connective) (arity : Nat)
  /-- The path of a leaf and the text of its predicate. -/
  | leaf (path : Path) (predicate : String)

/-- What a drawing tells of a node. -/
structure Portrait where
  number : Nat
  /-- The number after those of the nodes below. -/
  stop : Nat
  /-- The operator directly above. -/
  parent? : Option Nat
  figure : Figure

/-- What the drawing tells of a node of each kind. -/
def NodeKind.figure : NodeKind → Figure
  | .join connective arity => .operator connective arity
  | .leaf l => .leaf l.path l.predicate.render

/-- What the drawing tells of a node. -/
def Node.portrait (node : Node) : Portrait := ⟨node.start, node.stop, node.parent?, node.kind.figure⟩

namespace Node

variable {node node' : Node}

/-- A box is numbered like its node. -/
theorem id_box (node : Node) : node.box.id = node.start := by
  rw [box]
  split <;> rfl

/-- The boxes of leaves are the rounded ones. -/
theorem rounded_box (node : Node) : node.box.rounded = node.leaf?.isSome := by
  rw [box, leaf?]
  split <;> simp_all

/-- The fields of a leaf. -/
theorem details_leaf {leaf : Leaf} (h : node.kind = .leaf leaf) : node.box.details
    = [escapeLabel leaf.path.render, escapeLabel leaf.predicate.render, node.counterField] := by
  rw [box]
  split <;> simp_all

/-- The fields of an operator. -/
theorem details_join {connective : Connective} {arity : Nat} (h : node.kind = .join connective arity) :
    node.box.details = [connective.render,
      "span: " ++ toString node.start ++ ".." ++ toString node.stop, node.counterField] := by
  rw [box]
  split <;> simp_all

/-- Records with the same contents are those of leaves with the same path and the same text of the
predicate, or of the same operators with the same spans. -/
theorem figure_of_box (h : node.box = node'.box) : node.kind.figure = node'.kind.figure ∧
    node.start = node'.start ∧ (node.leaf?.isSome = false → node.stop = node'.stop) := by
  have hstart : node.start = node'.start := by
    rw [← node.id_box, ← node'.id_box, h]
  have hround : node.leaf?.isSome = node'.leaf?.isSome := by
    rw [← node.rounded_box, ← node'.rounded_box, h]
  have hdetails : node.box.details = node'.box.details := congrArg Box.details h
  rw [leaf?, leaf?] at hround
  rw [leaf?]
  cases hkind : node.kind with
  | leaf l =>
    cases hkind' : node'.kind with
    | join connective' arity' => simp [hkind, hkind'] at hround
    | leaf l' =>
      rw [details_leaf hkind, details_leaf hkind', List.cons.injEq, List.cons.injEq] at hdetails
      have hpath : l.path = l'.path := Path.render_injective (escapeLabel_injective hdetails.1)
      have hpredicate : l.predicate.render = l'.predicate.render :=
        escapeLabel_injective hdetails.2.1
      refine ⟨?_, hstart, fun hnone => by simp at hnone⟩
      rw [NodeKind.figure, NodeKind.figure, hpath, hpredicate]
  | join connective arity =>
    cases hkind' : node'.kind with
    | leaf l' => simp [hkind, hkind'] at hround
    | join connective' arity' =>
      rw [details_join hkind, details_join hkind', List.cons.injEq, List.cons.injEq,
        List.cons.injEq, hstart] at hdetails
      obtain ⟨hword, hspan, hcounter, -⟩ := hdetails
      have hconnective : connective = connective' := by
        cases connective <;> cases connective' <;> first | rfl | exact absurd hword (by decide)
      have hstop : node.stop = node'.stop :=
        toString_injective ((String.append_right_inj _).mp hspan)
      have harity : arity = arity' := by
        rw [counterField, counterField, initialCounter, initialCounter, hkind, hkind'] at hcounter
        exact toString_injective ((String.append_right_inj _).mp hcounter)
      refine ⟨?_, hstart, fun _ => hstop⟩
      rw [NodeKind.figure, NodeKind.figure, hconnective, harity]

/-- Nodes of which a drawing tells the same are drawn alike. -/
theorem line_congr (h : node.portrait = node'.portrait) : node.line = node'.line := by
  obtain ⟨hstart, hstop, -, hfigure⟩ := Portrait.mk.inj h
  rw [line, line, hstart, hstop, counterField, counterField, initialCounter, initialCounter]
  cases hkind : node.kind with
  | leaf l =>
    cases hkind' : node'.kind with
    | leaf l' =>
      rw [hkind, hkind'] at hfigure
      obtain ⟨hpath, hpredicate⟩ := Figure.leaf.inj hfigure
      simp only [hpath, hpredicate]
    | join connective' arity' =>
      rw [hkind, hkind'] at hfigure
      cases hfigure
  | join connective arity =>
    cases hkind' : node'.kind with
    | leaf l' =>
      rw [hkind, hkind'] at hfigure
      cases hfigure
    | join connective' arity' =>
      rw [hkind, hkind'] at hfigure
      obtain ⟨hconnective, harity⟩ := Figure.operator.inj hfigure
      simp only [hconnective, harity]

/-- Nodes of which the drawing tells the same have the same edge above them. -/
theorem edge?_congr (h : node.portrait = node'.portrait) : node.edge? = node'.edge? := by
  obtain ⟨hstart, -, hparent, -⟩ := Portrait.mk.inj h
  rw [edge?, edge?, hstart, hparent]

end Node

/-- Trees are the same constant, or have nodes of which a drawing tells the same. -/
def Tree.DrawnAlike : Tree → Tree → Prop
  | constant value, constant value' => value = value'
  | arena nodes, arena nodes' => nodes.toList.map Node.portrait = nodes'.toList.map Node.portrait
  | constant _, arena _ => False
  | arena _, constant _ => False

section Telling

variable {α β γ : Type} {f : α → β} {g : α → γ}

/-- If one thing tells another, rows that agree in the one agree in the other. -/
theorem row_congr (h : ∀ a a', f a = f a' → g a = g a') {row row' : List α}
    (heq : row.map f = row'.map f) : row.map g = row'.map g := by
  rw [← List.forall₂_eq_eq_eq, List.forall₂_map_left_iff, List.forall₂_map_right_iff] at heq ⊢
  exact heq.imp h

/-- If one thing tells another of what may be missing, the one tells whether it is missing as well. -/
theorem option_congr {found found' : Option α}
    (h : ∀ a a', found = some a → found' = some a' → f a = f a' → g a = g a')
    (heq : found.map f = found'.map f) : found.map g = found'.map g := by
  cases found with
  | none =>
    rw [Option.map_none, eq_comm, Option.map_eq_none_iff] at heq
    rw [heq]
  | some a =>
    rw [Option.map_some, eq_comm, Option.map_eq_some_iff] at heq
    obtain ⟨a', rfl, htold⟩ := heq
    rw [Option.map_some, Option.map_some, h a a' rfl rfl htold.symm]

end Telling

namespace Tree

variable {tree tree' : Tree}

/-- Trees that are drawn alike have one drawing. -/
theorem DrawnAlike.graphviz_eq (h : tree.DrawnAlike tree') : tree.graphviz = tree'.graphviz := by
  cases tree with
  | constant value =>
    cases tree' with
    | constant value' => rw [show value = value' from h]
    | arena nodes' => exact h.elim
  | arena nodes =>
    cases tree' with
    | constant value' => exact h.elim
    | arena nodes' =>
      have hlines : nodes.toList.map Node.line = nodes'.toList.map Node.line :=
        row_congr (fun _ _ => Node.line_congr) h
      have hedges : nodes.toList.map Node.edge? = nodes'.toList.map Node.edge? :=
        row_congr (fun _ _ => Node.edge?_congr) h
      have hpresent : ∀ row : List Node,
          row.filterMap Node.edge? = (row.map Node.edge?).filterMap id := by
        intro row
        rw [List.filterMap_map]
        rfl
      rw [graphviz, graphviz, nodeLines, nodeLines, Tree.nodes, Tree.nodes, hlines, hpresent,
        hpresent, hedges]

/-- Where the span of the node with a number ends. -/
def stopOf? (tree : Tree) (id : Nat) : Option Nat := tree.nodes[id]?.map Node.stop

/-- Siblings are found by the ends of spans alone. -/
theorem siblingsFrom_succ (tree : Tree) (stop fuel id : Nat) :
    tree.siblingsFrom stop (fuel + 1) id = if id < stop then
      ((tree.stopOf? id).map fun next => id :: tree.siblingsFrom stop fuel next).getD [] else [] := by
  rw [siblingsFrom, stopOf?]
  cases tree.nodes[id]? <;> rfl

/-- So are the nodes below a node. -/
theorem children_eq (tree : Tree) (id : Nat) : tree.children id
    = ((tree.stopOf? id).map fun stop => tree.siblingsFrom stop (stop - id) (id + 1)).getD [] := by
  rw [children, stopOf?]
  cases tree.nodes[id]? <;> rfl

/-- The ends of spans tell the children of every node. -/
theorem children_congr (h : ∀ id, tree.stopOf? id = tree'.stopOf? id) (id : Nat) :
    tree.children id = tree'.children id := by
  have hsiblings : ∀ stop fuel id,
      tree.siblingsFrom stop fuel id = tree'.siblingsFrom stop fuel id := by
    intro stop fuel
    induction fuel with
    | zero => exact fun _ => rfl
    | succ fuel ih =>
      intro id
      rw [siblingsFrom_succ, siblingsFrom_succ, h, funext ih]
  rw [children_eq, children_eq, h]
  simp only [hsiblings]

/-- In preorder the children tell the operator above every node. -/
theorem Preorder.parentOf?_congr (h : tree.Preorder) (h' : tree'.Preorder)
    (hchildren : ∀ id, tree.children id = tree'.children id) (id : Nat) :
    tree.parentOf? id = tree'.parentOf? id := by
  refine Option.ext fun parent => ?_
  have hbelow := h.children parent id
  rw [hchildren, h'.children] at hbelow
  exact hbelow.symm

/-- Trees drawn alike agree at every number. -/
theorem DrawnAlike.portrait_at (h : tree.DrawnAlike tree') (id : Nat) :
    tree.nodes[id]?.map Node.portrait = tree'.nodes[id]?.map Node.portrait := by
  cases tree with
  | constant value =>
    cases tree' with
    | constant value' => rfl
    | arena nodes' => exact h.elim
  | arena nodes =>
    cases tree' with
    | constant value' => exact h.elim
    | arena nodes' =>
      have hrow : nodes.toList.map Node.portrait = nodes'.toList.map Node.portrait := h
      have hplace := congrArg (·[id]?) hrow
      simpa only [Tree.nodes, List.getElem?_map, Array.getElem?_toList] using hplace

/-- Trees that are drawn alike have the same nodes below each node. -/
theorem DrawnAlike.children_eq (h : tree.DrawnAlike tree') (id : Nat) :
    tree.children id = tree'.children id := by
  refine children_congr (fun id => ?_) id
  have hstop := congrArg (Option.map Portrait.stop) (h.portrait_at id)
  rwa [Option.map_map, Option.map_map] at hstop

end Tree

namespace Expr

variable {resolve resolve' : String → Option Path} {tree tree' : Tree} {above : List Nat} {start : Nat}
  {e e' : Expr}

/-- A filter that compiles to a tree with nodes is laid out in it. -/
theorem laid_of_arena {nodes : Array Node} (h : e.compile resolve = .ok (.arena nodes)) :
    Laid resolve (.arena nodes) [] 0 e ∧ (Tree.arena nodes).size = e.size ∧
      (Tree.arena nodes).Preorder := by
  rcases laid_of_compile h with ⟨value, -, hconstant⟩ | ⟨hl, hsize, hinitial⟩
  · cases hconstant
  · exact ⟨hl, hsize, hl.preorder hsize (numbered_of_compile h) hinitial⟩

/-- The span of a leaf is the leaf. -/
theorem Laid.stop_of_leaf (h : Laid resolve tree above start e) {node : Node}
    (hnode : tree.nodes[start]? = some node) (hleaf : node.leaf?.isSome = true) :
    node.stop = start + 1 := by
  cases h with
  | leaf _ hlaid =>
    rw [← Option.some.inj (hlaid.symm.trans hnode)]
  | join _ hlaid _ =>
    rw [← Option.some.inj (hlaid.symm.trans hnode)] at hleaf
    exact absurd hleaf Bool.false_ne_true

/-- The records tell where spans end. -/
theorem Laid.stopOf?_congr (h : Laid resolve tree [] 0 e) (hsize : tree.size = e.size)
    (h' : Laid resolve' tree' [] 0 e') (hsize' : tree'.size = e'.size)
    (hboxes : ∀ id : Nat, tree.nodes[id]?.map Node.box = tree'.nodes[id]?.map Node.box) (id : Nat) :
    tree.stopOf? id = tree'.stopOf? id := by
  refine option_congr (fun node node' hnode hnode' hbox => ?_) (hboxes id)
  have hid : id < tree.size := (Array.getElem?_eq_some_iff.mp hnode).1
  have hid' : id < tree'.size := (Array.getElem?_eq_some_iff.mp hnode').1
  cases hleaf : node.leaf?.isSome with
  | false => exact (Node.figure_of_box hbox).2.2 hleaf
  | true =>
    have hleaf' : node'.leaf?.isSome = true := by
      rw [← node'.rounded_box, ← hbox, node.rounded_box, hleaf]
    obtain ⟨_, _, hl⟩ := h.exists_part ⟨Nat.zero_le id, by omega⟩
    obtain ⟨_, _, hl'⟩ := h'.exists_part ⟨Nat.zero_le id, by omega⟩
    rw [hl.stop_of_leaf hnode hleaf, hl'.stop_of_leaf hnode' hleaf']

/-- The records of compiled trees tell what their drawings tell. -/
theorem drawnAlike_of_boxes (h : e.compile resolve = .ok tree) (h' : e'.compile resolve' = .ok tree')
    (hboxes : tree.boxes = tree'.boxes) : tree.DrawnAlike tree' := by
  -- No node has as few fields as a constant.
  have hapart : ∀ (value : Bool) (node : Node), constantBox value ≠ node.box := by
    intro value node heq
    have hlength := congrArg (fun b => b.details.length) heq
    cases hkind : node.kind with
    | leaf l => simp [constantBox, Node.details_leaf hkind] at hlength
    | join connective arity => simp [constantBox, Node.details_join hkind] at hlength
  cases tree with
  | constant value =>
    cases tree' with
    | constant value' =>
      have hdetails := congrArg Box.details (List.singleton_inj.mp hboxes)
      cases value <;> cases value' <;> first | rfl | exact absurd hdetails (by decide)
    | arena nodes' =>
      obtain ⟨node, hnode⟩ := List.map_eq_singleton_iff.mp hboxes.symm
      exact absurd hnode.2.symm (hapart value node)
  | arena nodes =>
    cases tree' with
    | constant value' =>
      obtain ⟨node, hnode⟩ := List.map_eq_singleton_iff.mp hboxes
      exact absurd hnode.2.symm (hapart value' node)
    | arena nodes' =>
      obtain ⟨hl, hsize, hpreorder⟩ := laid_of_arena h
      obtain ⟨hl', hsize', hpreorder'⟩ := laid_of_arena h'
      have hat : ∀ id : Nat, nodes[id]?.map Node.box = nodes'[id]?.map Node.box := by
        intro id
        have hplace := congrArg (·[id]?) hboxes
        simpa only [Tree.boxes, List.getElem?_map, Array.getElem?_toList] using hplace
      -- Leaves do not show where their spans end, and no record shows the operator above.
      have hstop := hl.stopOf?_congr hsize hl' hsize' hat
      have hparent := hpreorder.parentOf?_congr hpreorder' (Tree.children_congr hstop)
      refine List.ext_getElem? fun id => ?_
      rw [List.getElem?_map, List.getElem?_map, Array.getElem?_toList, Array.getElem?_toList]
      refine option_congr (fun node node' hnode hnode' hbox => ?_) (hat id)
      obtain ⟨hfigure, hstart, -⟩ := Node.figure_of_box hbox
      have hend : (Tree.arena nodes).stopOf? id = (Tree.arena nodes').stopOf? id := hstop id
      have habove : (Tree.arena nodes).parentOf? id = (Tree.arena nodes').parentOf? id := hparent id
      rw [Tree.stopOf?, Tree.stopOf?, Tree.nodes, Tree.nodes, hnode, hnode'] at hend
      rw [Tree.parentOf?, Tree.parentOf?, Tree.nodes, Tree.nodes, hnode, hnode'] at habove
      rw [Node.portrait, Node.portrait, hfigure, hstart, Option.some.inj hend]
      exact congrArg (fun parent? => Portrait.mk _ _ parent? _) habove

/-- The drawings of two compiled trees are the same exactly if the nodes are drawn alike. -/
theorem graphviz_eq_iff (h : e.compile resolve = .ok tree) (h' : e'.compile resolve' = .ok tree') :
    tree.graphviz = tree'.graphviz ↔ tree.DrawnAlike tree' :=
  ⟨fun heq => drawnAlike_of_boxes h h' (Tree.boxes_of_graphviz heq), Tree.DrawnAlike.graphviz_eq⟩

end Expr

end Percolator
