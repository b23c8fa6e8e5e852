import Percolator.Proofs.Tree.Layout

/-!
# The filters that compile

A rule of the filter language looks at one part of a filter at a time: a constant is no part of a
filter, an operator has operands, a negation stands above a condition other than a comparison,
patterns are valid and attributes are known. Main statement: exactly the filters whose parts keep the
rules compile, besides the constants, and for any other filter the first part in preorder that breaks
a rule is reported.
-/

namespace Percolator

/-- The pattern of a condition is invalid, or too large. -/
inductive Condition.Invalid : Condition → String → Prop
  | like {pattern : String} {escape : Option Char} (h : Pattern.like? pattern escape = none) :
      Invalid (.like pattern escape) pattern
  | regex {pattern : String} (h : Pattern.regex? pattern = none) : Invalid (.regex pattern) pattern

namespace Expr

mutual

/-- The parts of an expression in preorder, the expression itself first. -/
def parts : Expr → List Expr
  | constant value => [constant value]
  | not operand => not operand :: operand.parts
  | test name condition => [test name condition]
  | join connective operands => join connective operands :: partsAll operands

/-- The parts of operands, one operand after the other. -/
def partsAll : List Expr → List Expr
  | [] => []
  | e :: es => e.parts ++ partsAll es

end

/-- A filter keeps the rules of the language. -/
structure Supported (resolve : String → Option Path) (e : Expr) : Prop where
  /-- No part is a constant. -/
  constants : ∀ value, constant value ∉ e.parts
  /-- Every operator has an operand. -/
  operands : ∀ connective operands, join connective operands ∈ e.parts → operands ≠ []
  /-- Every negation stands directly above a condition that is no comparison. -/
  negations : ∀ operand, not operand ∈ e.parts → ∃ name condition, operand = test name condition ∧
    ∀ comparison literal, condition ≠ .compare comparison literal
  /-- Every pattern is valid. -/
  patterns : ∀ name condition, test name condition ∈ e.parts → ∀ pattern, ¬ condition.Invalid pattern
  /-- The attributes are known. -/
  names : ∀ name condition, test name condition ∈ e.parts → (resolve name).isSome = true

end Expr

/-- A part of a filter breaks a rule by itself, and this is the error for it. -/
inductive Offends (resolve : String → Option Path) : Expr → CompileError → Prop
  | constant (value : Bool) :
      Offends resolve (.constant value) (.unsupportedExpression (Expr.constant value).render)
  | empty (connective : Connective) : Offends resolve (.join connective [])
      (.unsupportedExpression (Expr.join connective []).render)
  | negation {operand : Expr} (h : operand.isTest = false) :
      Offends resolve (.not operand) (.unsupportedExpression (Expr.not operand).render)
  | comparison (name : String) (comparison : Comparison) (literal : Value) :
      Offends resolve (.not (.test name (.compare comparison literal)))
        (.negatedInterval (Expr.test name (.compare comparison literal)).render)
  | pattern {name : String} {condition : Condition} {pattern : String}
      (h : condition.Invalid pattern) :
      Offends resolve (.test name condition) (.invalidPattern pattern)
  | name {name : String} {condition : Condition} (hvalid : ∀ pattern, ¬ condition.Invalid pattern)
      (h : resolve name = none) :
      Offends resolve (.test name condition) (.unknownProperty name)

/-- The error of a result that is refused. -/
def refusal? {α : Type} : Except CompileError α → Option CompileError
  | .error e => some e
  | .ok _ => none

/-- A result is refused with its error. -/
theorem refusal?_eq_some_iff {α : Type} {result : Except CompileError α} {e : CompileError} :
    refusal? result = some e ↔ result = .error e := by
  cases result <;> simp [refusal?]

/-- A result is accepted if it is not refused. -/
theorem refusal?_eq_none_iff {α : Type} {result : Except CompileError α} :
    refusal? result = none ↔ ∃ a, result = .ok a := by
  cases result <;> simp [refusal?]

/-- What is made of an accepted result does not matter for the refusal. -/
theorem refusal?_map {α β : Type} (f : α → β) (result : Except CompileError α) :
    refusal? (result.map f) = refusal? result := by
  cases result <;> rfl

variable {resolve : String → Option Path}

/-- What is wrong with a part of a filter by itself. -/
def offence? (resolve : String → Option Path) : Expr → Option CompileError
  | .constant value => some (.unsupportedExpression (Expr.constant value).render)
  | .join connective [] => some (.unsupportedExpression (Expr.join connective []).render)
  | .join _ (_ :: _) => none
  | .not (.test name (.compare comparison literal)) =>
    some (.negatedInterval (Expr.test name (.compare comparison literal)).render)
  | .not (.test _ _) => none
  | .not operand => some (.unsupportedExpression (Expr.not operand).render)
  | .test name condition => refusal? (compileLeaf resolve 0 false name condition)

/-- A condition is refused exactly if its pattern is invalid. -/
theorem refusal?_predicate {condition : Condition} {error : CompileError} :
    refusal? condition.predicate = some error ↔
      ∃ pattern, condition.Invalid pattern ∧ error = .invalidPattern pattern := by
  unfold Condition.predicate
  constructor
  · intro h
    cases condition with
    | compare comparison literal => simp only [refusal?, reduceCtorEq] at h
    | isNull => simp only [refusal?, reduceCtorEq] at h
    | like source escape =>
      cases hp : Pattern.like? source escape with
      | none =>
        simp only [hp, refusal?, Option.some.injEq] at h
        exact ⟨source, .like hp, h.symm⟩
      | some pattern => simp only [hp, refusal?, reduceCtorEq] at h
    | regex source =>
      cases hp : Pattern.regex? source with
      | none =>
        simp only [hp, refusal?, Option.some.injEq] at h
        exact ⟨source, .regex hp, h.symm⟩
      | some pattern => simp only [hp, refusal?, reduceCtorEq] at h
  · intro hparts
    rcases hparts with ⟨pattern, hinvalid, rfl⟩
    cases hinvalid with
    | like h => simp only [h, refusal?]
    | regex h => simp only [h, refusal?]

/-- A condition that is not negated is refused for its pattern, or else for its attribute. -/
theorem refusal?_compileLeaf {name : String} {condition : Condition} {error : CompileError} :
    refusal? (compileLeaf resolve 0 false name condition) = some error ↔
      Offends resolve (.test name condition) error := by
  have hpredicate := @refusal?_predicate condition
  unfold compileLeaf
  cases hp : condition.predicate with
  | error found =>
    obtain ⟨pattern, hinvalid, rfl⟩ := hpredicate.mp (congrArg refusal? hp)
    constructor
    · intro h
      rw [← Option.some.inj h]
      exact .pattern hinvalid
    · intro h
      cases h with
      | pattern h =>
        have hrefused := hpredicate.mpr ⟨_, h, rfl⟩
        rw [hp] at hrefused
        exact hrefused
      | name hvalid _ => exact absurd hinvalid (hvalid pattern)
  | ok predicate =>
    have hvalid : ∀ pattern, ¬ condition.Invalid pattern := by
      intro pattern hinvalid
      have hrefused := hpredicate.mpr ⟨pattern, hinvalid, rfl⟩
      simp [hp, refusal?] at hrefused
    simp only [Bool.false_and, Bool.false_eq_true, if_false]
    cases hname : resolve name with
    | none =>
      constructor
      · intro h
        rw [← Option.some.inj h]
        exact .name hvalid hname
      · intro h
        cases h with
        | pattern h => exact absurd h (hvalid _)
        | name _ _ => rfl
    | some path =>
      constructor
      · intro h
        simp [refusal?] at h
      · intro h
        cases h with
        | pattern h => exact absurd h (hvalid _)
        | name _ h => simp [hname] at h

/-- The function finds the error of a part that breaks a rule, and of no other. -/
theorem offence?_eq_some_iff {part : Expr} {error : CompileError} :
    offence? resolve part = some error ↔ Offends resolve part error := by
  constructor
  · intro h
    unfold offence? at h
    split at h
    · exact Option.some.inj h ▸ .constant _
    · exact Option.some.inj h ▸ .empty _
    · simp at h
    · exact Option.some.inj h ▸ .comparison _ _ _
    · simp at h
    · rename_i operand hcompare htest
      refine Option.some.inj h ▸ .negation ?_
      cases operand with
      | test name condition => exact absurd rfl (htest name condition)
      | _ => rfl
    · exact refusal?_compileLeaf.mp h
  · intro h
    cases h with
    | constant => rfl
    | empty => rfl
    | @negation operand hoperand =>
      cases operand with
      | test => simp [Expr.isTest] at hoperand
      | _ => rfl
    | comparison => rfl
    | pattern h => exact refusal?_compileLeaf.mpr (.pattern h)
    | name hvalid h => exact refusal?_compileLeaf.mpr (.name hvalid h)

/-- A negated condition is refused for the negation of a comparison, or else as the condition. -/
theorem refusal?_compileLeaf_negated (name : String) (condition : Condition) :
    refusal? (compileLeaf resolve 0 true name condition)
      = (offence? resolve (.not (.test name condition))).or
          (offence? resolve (.test name condition)) := by
  -- Whether a condition is negated shows in the leaf, but not in the refusal.
  have hresolve : ∀ predicate : Predicate, predicate.isInterval = false →
      condition.predicate = .ok predicate → refusal? (compileLeaf resolve 0 true name condition)
        = refusal? (compileLeaf resolve 0 false name condition) := by
    intro predicate hinterval hp
    simp only [compileLeaf, hp, hinterval, Bool.and_false]
    cases resolve name <;> rfl
  have hnone : ∀ condition : Condition, offence? resolve (.not (.test name condition)) = none →
      (offence? resolve (.not (.test name condition))).or (offence? resolve (.test name condition))
        = refusal? (compileLeaf resolve 0 false name condition) := by
    intro condition h
    rw [h, Option.none_or, offence?]
  cases condition with
  | compare comparison literal => rfl
  | isNull => exact (hresolve .isNull rfl rfl).trans (hnone .isNull rfl).symm
  | like source escape =>
    rw [hnone (.like source escape) rfl]
    cases hp : Pattern.like? source escape with
    | none => unfold compileLeaf Condition.predicate; simp only [hp]
    | some pattern =>
      refine hresolve (.pattern pattern) rfl ?_
      unfold Condition.predicate
      simp only [hp]
  | regex source =>
    rw [hnone (.regex source) rfl]
    cases hp : Pattern.regex? source with
    | none => unfold compileLeaf Condition.predicate; simp only [hp]
    | some pattern =>
      refine hresolve (.pattern pattern) rfl ?_
      unfold Condition.predicate
      simp only [hp]

namespace Expr

/-- The number of a leaf is only written into it. -/
theorem compileLeaf_eq_map (id : Nat) (negated : Bool) (name : String) (condition : Condition) :
    compileLeaf resolve id negated name condition
      = (compileLeaf resolve 0 negated name condition).map fun leaf => { leaf with id } := by
  unfold compileLeaf
  cases condition.predicate with
  | error found => rfl
  | ok predicate =>
    dsimp only
    split
    · rfl
    · cases resolve name <;> rfl

/-- The only node of a condition is refused with its leaf, whatever its number. -/
theorem refusal?_layoutLeaf (above : List Nat) (start : Nat) (negated : Bool) (name : String)
    (condition : Condition) :
    refusal? (layoutLeaf resolve above start negated name condition)
      = refusal? (compileLeaf resolve 0 negated name condition) := by
  rw [layoutLeaf, compileLeaf_eq_map]
  cases compileLeaf resolve 0 negated name condition <;> rfl

mutual

/-- A filter is refused for the first of its parts that breaks a rule. -/
theorem refusal?_layout (above : List Nat) (start : Nat) : (e : Expr) →
    refusal? (e.layout resolve above start) = e.parts.findSome? (offence? resolve)
  | constant _ => rfl
  | test name condition => by
    rw [layout, refusal?_layoutLeaf, parts, List.findSome?_singleton, offence?]
  | not (test name condition) => by
    rw [layout, refusal?_layoutLeaf, refusal?_compileLeaf_negated, parts, parts, List.findSome?_cons,
      List.findSome?_singleton]
    cases offence? resolve (not (test name condition)) <;> rfl
  | not (constant _) => rfl
  | not (not _) => rfl
  | not (join _ _) => rfl
  | join c [] => by
    rw [layout]
    rfl
  | join c (e :: es) => by
    have hoperands := refusal?_layoutAll (start :: above) (start + 1) (e :: es)
    rw [layout, if_neg (by simp), parts, List.findSome?_cons, offence?]
    dsimp only
    rw [← hoperands]
    cases layoutAll resolve (start :: above) (start + 1) (e :: es) <;> rfl

/-- Operands are refused for the first of their parts that breaks a rule. -/
theorem refusal?_layoutAll (above : List Nat) (start : Nat) : (es : List Expr) →
    refusal? (layoutAll resolve above start es) = (partsAll es).findSome? (offence? resolve)
  | [] => rfl
  | e :: es => by
    rw [layoutAll, partsAll, List.findSome?_append, ← refusal?_layout above start e]
    cases e.layout resolve above start with
    | error found => rfl
    | ok nodes =>
      rw [← refusal?_layoutAll above (start + nodes.length) es]
      dsimp only
      cases layoutAll resolve above (start + nodes.length) es <;> rfl

end

/-- Compiling refuses a filter that is no constant for the first of its parts that breaks a rule. -/
theorem refusal?_compile {e : Expr} (h : ∀ value, e ≠ constant value) :
    refusal? (e.compile resolve) = e.parts.findSome? (offence? resolve) := by
  rw [compile_eq_map_layout h, refusal?_map, refusal?_layout]

/-- A filter keeps the rules exactly if none of its parts breaks one. -/
theorem supported_iff {e : Expr} :
    e.Supported resolve ↔ ∀ part ∈ e.parts, ∀ error, ¬ Offends resolve part error := by
  constructor
  · intro h part hpart error hoffends
    cases hoffends with
    | constant value => exact h.constants value hpart
    | empty c => exact h.operands c [] hpart rfl
    | negation hoperand =>
      obtain ⟨name, condition, rfl, _⟩ := h.negations _ hpart
      simp [isTest] at hoperand
    | comparison name comparison literal =>
      obtain ⟨_, _, htest, hcompare⟩ := h.negations _ hpart
      obtain ⟨rfl, rfl⟩ := test.inj htest
      exact hcompare comparison literal rfl
    | pattern hinvalid => exact h.patterns _ _ hpart _ hinvalid
    | name _ hname =>
      have hknown := h.names _ _ hpart
      simp [hname] at hknown
  · intro h
    refine ⟨fun value hpart => h _ hpart _ (.constant value), fun c es hpart hes => ?_,
      fun operand hpart => ?_, fun name condition hpart pattern hinvalid =>
        h _ hpart _ (.pattern hinvalid), fun name condition hpart => ?_⟩
    · subst hes
      exact h _ hpart _ (.empty c)
    · cases operand with
      | test name condition =>
        refine ⟨name, condition, rfl, fun comparison literal hcompare => ?_⟩
        subst hcompare
        exact h _ hpart _ (.comparison name comparison literal)
      | _ => exact absurd (.negation rfl) (h _ hpart _)
    · cases hname : resolve name with
      | some path => rfl
      | none =>
        exact absurd (.name (fun pattern hinvalid => h _ hpart _ (.pattern hinvalid)) hname)
          (h _ hpart _)

/-- A filter compiles exactly if it is a constant or keeps the rules. If not, the error is that of the
first part, in preorder, that breaks a rule. -/
theorem compile_exact (resolve : String → Option Path) (e : Expr) :
    ((∃ tree, e.compile resolve = .ok tree) ↔ (∃ value, e = constant value) ∨ e.Supported resolve) ∧
    ∀ error, e.compile resolve = .error error ↔ (∀ value, e ≠ constant value) ∧
      ∃ before part after, e.parts = before ++ part :: after ∧ Offends resolve part error ∧
        ∀ other ∈ before, ∀ error', ¬ Offends resolve other error' := by
  by_cases hconstant : ∃ value, e = constant value
  · obtain ⟨value, rfl⟩ := hconstant
    refine ⟨⟨fun _ => .inl ⟨value, rfl⟩, fun _ => ⟨_, rfl⟩⟩, fun error => ⟨fun h => ?_, fun h => ?_⟩⟩
    · simp [compile] at h
    · exact absurd rfl (h.1 value)
  · have hne : ∀ value, e ≠ constant value := fun value heq => hconstant ⟨value, heq⟩
    have hcompile : refusal? (e.compile resolve) = e.parts.findSome? (offence? resolve) :=
      refusal?_compile hne
    have hsound : ∀ part, offence? resolve part = none ↔ ∀ error, ¬ Offends resolve part error := by
      intro part
      rw [Option.eq_none_iff_forall_ne_some]
      exact forall_congr' fun error => not_congr offence?_eq_some_iff
    constructor
    · rw [← refusal?_eq_none_iff, hcompile, List.findSome?_eq_none_iff, supported_iff]
      simp only [hsound, hconstant, false_or]
    · intro error
      rw [← refusal?_eq_some_iff, hcompile, List.findSome?_eq_some_iff]
      simp only [hsound, offence?_eq_some_iff]
      exact (and_iff_right hne).symm

/-- Of a negated comparison of an unknown attribute the negation is reported, and not the constant
behind it. -/
example : (join .or [not (test "a" (.compare .less (.integer 1))), constant true]).compile
    (fun _ => none) = .error (.negatedInterval "a < 1") := by
  rfl

end Expr

end Percolator
