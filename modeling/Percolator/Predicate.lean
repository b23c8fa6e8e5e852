import Percolator.Interval
import Percolator.Like
import Percolator.Regex.Matching
import Percolator.Regex.Size

/-!
# Predicates

A predicate is the test of a condition on a single value: the value lies in an interval, is absent,
or is text that a pattern matches. LIKE patterns and regular expressions are both read as regular
expressions; those written by the user are wrapped so that they are anchored at both ends.
-/

namespace Percolator

/-- A pattern for text. -/
structure Pattern where
  /-- The pattern as the user wrote it. -/
  source : String
  /-- The regular expression that it stands for, as text. -/
  text : String
  /-- The regular expression. -/
  regex : Regex Regex.Atom
  /-- The regular expression is the one read from the text. -/
  parsed : Regex.parse? text = some regex

namespace Pattern

/-- The text of the regular expression for a LIKE pattern. -/
def likeText (pattern : String) (escape : Option Char) : String :=
  Like.regexOf (Like.tokens escape pattern.toList)

/-- The text of the regular expression that anchors one by the user at both ends. -/
def anchoredText (pattern : String) : String := "^(?:" ++ pattern ++ ")$"

section Reading

variable [Regex.Compiler]

/-- The pattern whose regular expression has the given text, if that is valid and its automaton is not
too large. -/
def ofText? (source text : String) : Option Pattern :=
  match h : Regex.compile? text with
  | none => none
  | some regex => some ⟨source, text, regex, Regex.parse?_of_compile? h⟩

/-- A pattern is read exactly if its text is valid and not too large. -/
theorem isSome_ofText?_iff {source text : String} : (ofText? source text).isSome = true ↔
    (Regex.parse? text).isSome = true ∧ Regex.Compiler.size text ≤ Regex.sizeLimit := by
  rw [← Regex.isSome_compile?_iff]
  unfold ofText?
  split
  · rename_i h
    exact iff_of_false Bool.false_ne_true (by simp [h])
  · rename_i h
    exact iff_of_true rfl (Option.isSome_of_eq_some h)

/-- A pattern stands for the text from which it was read. -/
theorem text_of_ofText? {source text : String} {p : Pattern} (h : ofText? source text = some p) :
    p.text = text := by
  unfold ofText? at h
  split at h
  · cases h
  · cases h
    rfl

/-- Its expression is the one read from that text. -/
theorem parse?_of_ofText? {source text : String} {p : Pattern} (h : ofText? source text = some p) :
    Regex.parse? text = some p.regex := by
  rw [← text_of_ofText? h]
  exact p.parsed

/-- Read a LIKE pattern. -/
def like? (pattern : String) (escape : Option Char) : Option Pattern :=
  ofText? pattern (likeText pattern escape)

/-- Read a regular expression. -/
def regex? (pattern : String) : Option Pattern := ofText? pattern (anchoredText pattern)

end Reading

/-- Whether the pattern matches a text. -/
def isMatch (pattern : Pattern) (text : String) : Bool := pattern.regex.isMatch text

/-- Patterns are equal when they stand for the same text of a regular expression. -/
instance : BEq Pattern where
  beq p q := p.text == q.text

end Pattern

/-- A test of a single optional value. -/
inductive Predicate where
  | interval (interval : Interval)
  | isNull
  | pattern (pattern : Pattern)

namespace Predicate

/-- Whether the test succeeds. Only `isNull` does on an absent value, and patterns do on text alone.
-/
def accepts : Predicate → Option Value → Bool
  | isNull, value? => value?.isNone
  | _, none => false
  | interval i, some value => i.contains value
  | pattern p, some value => value.text?.any p.isMatch

/-- Whether the test is for an interval. -/
def isInterval : Predicate → Bool
  | interval _ => true
  | _ => false

/-- Predicates are equal when they are of one form around equal intervals or patterns. -/
instance : BEq Predicate where
  beq
    | interval i, interval j => i == j
    | isNull, isNull => true
    | pattern p, pattern q => p == q
    | _, _ => false

/-- The test as text; a pattern is shown as it was written. -/
def render : Predicate → String
  | interval i => "in " ++ i.render
  | isNull => "is null"
  | pattern p => "~ /" ++ p.source ++ "/"

end Predicate

end Percolator
