import Percolator.Proofs.Evaluation.Sweep

/-!
# Evaluations with different sessions

A report looks at no session; it only suspends leaves there. Main statement: if two evaluations have
the same counters, and sessions in a relation that suspending a leaf in both keeps, then a report
answers the same in both and leaves them alike. So does handing a value to leaves that are neither
suspended nor decided, if related sessions suspend the same leaves.
-/

namespace Percolator

variable {σ τ : Type} {R : σ → τ → Prop}

/-- Two evaluations have the same counters and related sessions. -/
structure Alike (R : σ → τ → Prop) (context : Context σ) (other : Context τ) : Prop where
  counters : context.counters = other.counters
  session : R context.session other.session

/-- Two reports have the same answer and leave evaluations that are alike. -/
structure AlikeReports (R : σ → τ → Prop) (reported : Reported σ) (other : Reported τ) : Prop where
  answer : reported.2 = other.2
  context : Alike R reported.1 other.1

/-- Suspending a leaf of a tree in two sessions keeps the relation between them. -/
def Tree.SuspendsAlike (tree : Tree) (R : σ → τ → Prop) (suspend : Nat → σ → σ)
    (suspend' : Nat → τ → τ) : Prop :=
  ∀ id, (tree.leaf? id).isSome = true → ∀ session other, R session other →
    R (suspend id session) (suspend' id other)

namespace Alike

variable {context : Context σ} {other : Context τ}

/-- Alike evaluations have the same counters. -/
theorem counter (h : Alike R context other) (id : Nat) : context.counter id = other.counter id := by
  rw [Context.counter, h.counters, Context.counter]

/-- The same nodes are decided in both. -/
theorem isDecidedAt (h : Alike R context other) (id : Nat) :
    context.isDecidedAt id = other.isDecidedAt id := by
  rw [Context.isDecidedAt, h.counter, Context.isDecidedAt]

/-- Both are decided, or neither is. -/
theorem isDecided (h : Alike R context other) : context.isDecided = other.isDecided :=
  h.isDecidedAt 0

/-- A counter may be set in both. -/
theorem setCounter (h : Alike R context other) (id : Nat) (counter : Int) :
    Alike R (context.setCounter id counter) (other.setCounter id counter) :=
  ⟨congrArg (·.setIfInBounds id counter) h.counters, h.session⟩

/-- A node may be decided in both. -/
theorem mark (h : Alike R context other) (id : Nat) (value : Bool) :
    Alike R (context.mark id value) (other.mark id value) := h.setCounter id _

variable {tree : Tree} {suspend : Nat → σ → σ} {suspend' : Nat → τ → τ}

/-- A leaf may be suspended in both. -/
theorem suspendLeaf (h : Alike R context other) (hs : tree.SuspendsAlike R suspend suspend')
    (id : Nat) :
    Alike R (tree.suspendLeaf suspend context id) (tree.suspendLeaf suspend' other id) := by
  unfold Tree.suspendLeaf
  split
  · rename_i hleaf
    exact ⟨h.counters, hs id hleaf _ _ h.session⟩
  · exact h

/-- A node may be forced in both. -/
theorem force (h : Alike R context other) (hs : tree.SuspendsAlike R suspend suspend')
    (value : Bool) (id : Nat) :
    Alike R (tree.force suspend value context id) (tree.force suspend' value other id) := by
  unfold Tree.force
  rw [h.counter]
  split
  · exact (h.mark id value).suspendLeaf hs id
  · exact h

/-- So may a row of nodes. -/
theorem foldl_force (h : Alike R context other) (hs : tree.SuspendsAlike R suspend suspend')
    (value : Bool) (ids : List Nat) : Alike R (ids.foldl (tree.force suspend value) context)
      (ids.foldl (tree.force suspend' value) other) := by
  induction ids generalizing context other with
  | nil => exact h
  | cons id ids ih => exact ih (h.force hs value id)

/-- A sweep keeps evaluations alike. -/
theorem sweep (h : Alike R context other) (hs : tree.SuspendsAlike R suspend suspend') (id : Nat)
    (value : Bool) :
    Alike R (tree.sweep suspend id value context) (tree.sweep suspend' id value other) := by
  unfold Tree.sweep
  split
  · exact h
  · exact (h.foldl_force hs value _).mark id value

/-- So does a climb, and it tells the same in both. -/
theorem climb (h : Alike R context other) (hs : tree.SuspendsAlike R suspend suspend')
    (value : Bool) (child : Nat) (above : List Nat) :
    AlikeReports R (tree.climb suspend value child above context)
      (tree.climb suspend' value child above other) := by
  induction above generalizing child context other with
  | nil => exact ⟨rfl, h⟩
  | cons id above ih =>
    rw [Tree.climb, Tree.climb, h.isDecidedAt, h.isDecided]
    split
    · exact ⟨rfl, h⟩
    · split
      · exact ih (h.sweep hs id value) id
      · have hcount : Alike R (context.setCounter id (context.counter id - 1))
            (other.setCounter id (other.counter id - 1)) := by
          rw [h.counter]
          exact h.setCounter id _
        dsimp only
        rw [hcount.counter]
        split
        · exact ih (hcount.sweep hs id value) id
        · exact ⟨rfl, hcount.sweep hs child value⟩

/-- The report of a leaf answers the same in evaluations that are alike, and keeps them alike. -/
theorem reportLeaf (h : Alike R context other) (hs : tree.SuspendsAlike R suspend suspend')
    (node : Node) (leaf : Leaf) (result : Bool) :
    AlikeReports R (tree.reportLeaf suspend node leaf result context)
      (tree.reportLeaf suspend' node leaf result other) := by
  unfold Tree.reportLeaf
  rw [h.isDecided]
  split
  · exact ⟨rfl, h⟩
  · dsimp only
    split
    · exact ⟨rfl, (h.mark _ _).suspendLeaf hs _⟩
    · exact (h.mark _ _).climb hs _ _ _

/-- So does a report at any node. -/
theorem report (h : Alike R context other) (hs : tree.SuspendsAlike R suspend suspend') (id : Nat)
    (result : Bool) :
    AlikeReports R (tree.report suspend id result context)
      (tree.report suspend' id result other) := by
  unfold Tree.report
  split
  · exact ⟨rfl, h⟩
  · split
    · exact ⟨rfl, h⟩
    · split
      · exact h.reportLeaf hs _ _ result
      · exact ⟨rfl, h⟩

end Alike

/-- Hand a value to leaves, one after the other. Leaves that are suspended or decided are passed
over, and so are those on a repeated path whose predicate fails. -/
def Tree.serve (tree : Tree) (suspend : Nat → σ → σ) (suspended : σ → Nat → Bool)
    (value : Option Value) : List Nat → Context σ → Reported σ
  | [], context => (context, .ok none)
  | id :: ids, context =>
    if context.isDecided then (context, .ok none)
    else if suspended context.session id then tree.serve suspend suspended value ids context
    else match tree.leaf? id with
      | none => tree.serve suspend suspended value ids context
      | some leaf =>
        let success := leaf.predicate.accepts value
        if context.isDecidedAt id || (leaf.path.repeated && !success) then
          tree.serve suspend suspended value ids context
        else match tree.report suspend id success context with
          | (context, .ok none) => tree.serve suspend suspended value ids context
          | reported => reported

/-- An evaluation that is decided takes no values. -/
theorem Tree.serve_of_isDecided {tree : Tree} {context : Context σ} (h : context.isDecided = true)
    (suspend : Nat → σ → σ) (suspended : σ → Nat → Bool) (value : Option Value) (ids : List Nat) :
    tree.serve suspend suspended value ids context = (context, .ok none) := by
  cases ids with
  | nil => rfl
  | cons id ids => rw [serve, if_pos h]

/-- Handing a value to leaves answers the same in evaluations that are alike, and keeps them so. -/
theorem Alike.serve {context : Context σ} {other : Context τ} (h : Alike R context other)
    {tree : Tree} {suspend : Nat → σ → σ} {suspend' : Nat → τ → τ}
    (hs : tree.SuspendsAlike R suspend suspend') {suspended : σ → Nat → Bool}
    {suspended' : τ → Nat → Bool} {ids : List Nat}
    (hids : ∀ id ∈ ids, ∀ session other, R session other →
      suspended session id = suspended' other id) (value : Option Value) :
    AlikeReports R (tree.serve suspend suspended value ids context)
      (tree.serve suspend' suspended' value ids other) := by
  induction ids generalizing context other with
  | nil => exact ⟨rfl, h⟩
  | cons id ids ih =>
    have hrest := fun later hlater => hids later (List.mem_cons_of_mem _ hlater)
    rw [Tree.serve, Tree.serve, h.isDecided, hids id List.mem_cons_self _ _ h.session]
    split
    · exact ⟨rfl, h⟩
    · split
      · exact ih h hrest
      · split
        · exact ih h hrest
        · dsimp only
          rw [h.isDecidedAt]
          split
          · exact ih h hrest
          · rename_i leaf _ _
            obtain ⟨hanswer, hcontext⟩ := h.report hs id (leaf.predicate.accepts value)
            generalize tree.report suspend id _ context = reported at hanswer hcontext ⊢
            generalize tree.report suspend' id _ other = reported' at hanswer hcontext ⊢
            obtain ⟨next, answer⟩ := reported
            obtain ⟨next', answer'⟩ := reported'
            obtain rfl : answer = answer' := hanswer
            rcases answer with fault | _ | verdict
            · exact ⟨rfl, hcontext⟩
            · exact ih hcontext hrest
            · exact ⟨rfl, hcontext⟩

end Percolator
