import Percolator.Predicate
import Percolator.Proofs.Regex.Enclosing
import Percolator.Proofs.Regex.Reach

/-!
# Regular expressions that match whole texts

A regular expression by the user is put between anchors, in a group of its own. It should be accepted
exactly if it is accepted alone, and then match exactly the texts that it takes as a whole. Putting its
text between other text breaks this in four ways: a closing parenthesis of the pattern may end the
group, a comment at its end may take the end of the group with it, the group may nest it too deeply,
and the anchors may make its automaton too large. Main statements: a pattern that is valid and accepted
matches whole texts and nothing else, and the law holds for a pattern if and only if it is broken in
none of these ways, however large the automata are.
-/

namespace Percolator

open Regex

namespace Regex

/-- A row of characters describes one part at most. -/
theorem Describes.unique {row : List Char} {piece piece' : Piece} (h : Describes row piece)
    (h' : Describes row piece') : piece = piece' := by
  obtain ⟨last, hreads, -, rfl⟩ := h
  obtain ⟨last', hreads', -, rfl⟩ := h'
  rw [hreads.unique hreads']

/-- A pattern is valid if its row describes a part within the depth. -/
theorem isSome_parse?_iff (pattern : String) :
    (parse? pattern).isSome = true ↔
      ∃ piece, Describes pattern.toList piece ∧ piece.depth ≤ depthLimit := by
  rw [Option.isSome_iff_exists]
  constructor
  · intro hparts
    rcases hparts with ⟨regex, h⟩
    obtain ⟨piece, hpiece, hdepth, -⟩ := (parse?_eq_some_iff pattern regex).1 h
    exact ⟨piece, hpiece, hdepth⟩
  · intro hparts
    rcases hparts with ⟨piece, hpiece, hdepth⟩
    exact ⟨_, (parse?_eq_some_iff pattern _).2 ⟨piece, hpiece, hdepth, rfl⟩⟩

/-- An expression between anchors takes a part of a text exactly if it takes the whole alone. -/
theorem matchesPart_anchored (regex : Regex Atom) (text : List Char) :
    MatchesPart (.cat (.atom (.look .textStart)) (.cat regex (.atom (.look .textEnd)))) text ↔
      regex.MatchesWhole text := by
  constructor
  · intro hparts
    rcases hparts with ⟨i, j, -, k, hk, l, hl, hend⟩
    obtain ⟨-, rfl⟩ := (spans_textStart text i k).1 hk
    obtain ⟨rfl, -⟩ := (spans_textEnd text l j).1 hend
    exact hl
  · intro h
    exact ⟨0, text.length, Nat.zero_le _, 0, (spans_textStart text 0 0).2 ⟨rfl, rfl⟩,
      text.length, h, (spans_textEnd text _ _).2 ⟨rfl, rfl⟩⟩

end Regex

namespace Pattern

/-- The characters of the text between anchors. -/
theorem toList_anchoredText (pattern : String) :
    (anchoredText pattern).toList = anchored pattern.toList := by
  rw [anchoredText, String.toList_append, String.toList_append, List.append_assoc]
  rfl

/-- The characters of a pattern with the end of the group behind it. -/
theorem toList_behind (pattern : String) :
    (pattern ++ ")$").toList = pattern.toList ++ closing := by
  rw [String.toList_append]
  rfl

/-- A pattern has no room for the levels of the group around it. -/
def Deep (pattern : String) : Prop :=
  ∃ piece, Describes pattern.toList piece ∧ depthLimit < piece.depth + 2

/-- What becomes of a valid pattern between the anchors, if anything does. -/
theorem describes_anchored_iff {row : List Char} {piece : Piece} (h : Describes row piece)
    (piece' : Piece) :
    Describes (anchored row) piece' ↔
      (∀ other, ¬ Describes (row ++ closing) other) ∧
        piece' = ⟨.cat (.atom (.look .textStart)) (.cat piece.regex (.atom (.look .textEnd))),
          piece.depth + 2, true⟩ := by
  constructor
  · intro hanchored
    have hcomment : ∀ other, ¬ Describes (row ++ closing) other := fun other hother =>
      h.not_anchored hother piece' hanchored
    exact ⟨hcomment, hanchored.unique (h.anchored hcomment)⟩
  · intro hparts
    rcases hparts with ⟨hcomment, rfl⟩
    exact h.anchored hcomment

/-- A valid pattern is valid between the anchors unless it ends in a comment or is too deep for them. -/
theorem isSome_parse?_anchored {pattern : String} (h : (parse? pattern).isSome = true) :
    (parse? (anchoredText pattern)).isSome = true ↔
      (parse? (pattern ++ ")$")).isSome = false ∧ ¬ Deep pattern := by
  obtain ⟨piece, hpiece, hdepth⟩ := (isSome_parse?_iff pattern).1 h
  have hcomment : (parse? (pattern ++ ")$")).isSome = false ↔
      ∀ other, ¬ Describes (pattern.toList ++ closing) other := by
    rw [Bool.eq_false_iff, ne_eq, isSome_parse?_iff, toList_behind, ← not_exists]
    refine not_congr ⟨fun hparts => ?_, fun hparts => ?_⟩
    · rcases hparts with ⟨other, hother, -⟩
      exact ⟨other, hother⟩
    · rcases hparts with ⟨other, hother⟩
      exact ⟨other, hother, hpiece.eq_of_comment hother ▸ hdepth⟩
  have hdeep : ¬ Deep pattern ↔ piece.depth + 2 ≤ depthLimit := by
    rw [← Nat.not_lt]
    refine not_congr ⟨fun hparts => ?_, fun hlt => ⟨piece, hpiece, hlt⟩⟩
    rcases hparts with ⟨piece', hpiece', hlt⟩
    rwa [hpiece.unique hpiece']
  rw [isSome_parse?_iff, toList_anchoredText, hcomment, hdeep]
  constructor
  · intro hparts
    rcases hparts with ⟨piece', hpiece', hle⟩
    obtain ⟨hnone, rfl⟩ := (describes_anchored_iff hpiece piece').1 hpiece'
    exact ⟨hnone, hle⟩
  · intro hparts
    rcases hparts with ⟨hnone, hle⟩
    exact ⟨_, (describes_anchored_iff hpiece _).2 ⟨hnone, rfl⟩, hle⟩

/-- A pattern that is not valid becomes so between the anchors only by ending the group around it. -/
theorem stray_of_parse?_anchored {pattern : String} (h : (parse? pattern).isSome = false)
    (hanchored : (parse? (anchoredText pattern)).isSome = true) :
    Reader.Stray .start pattern.toList := by
  rw [isSome_parse?_iff, toList_anchoredText] at hanchored
  obtain ⟨piece, hpiece, hle⟩ := hanchored
  refine stray_of_anchored (fun alone halone => ?_) hpiece
  -- The group makes a pattern deeper, so one that is too deep alone is not accepted either.
  obtain ⟨-, rfl⟩ := (describes_anchored_iff halone piece).1 hpiece
  have hvalid := (isSome_parse?_iff pattern).2 ⟨alone, halone, Nat.le_of_add_right_le hle⟩
  rw [h] at hvalid
  cases hvalid

/-- A pattern that ends the group around it is not valid. -/
theorem isSome_parse?_of_stray {pattern : String} (h : Reader.Stray .start pattern.toList) :
    (parse? pattern).isSome = false := by
  rw [Bool.eq_false_iff, ne_eq, isSome_parse?_iff]
  intro hparts
  rcases hparts with ⟨_, ⟨last, hreads, -⟩, -⟩
  exact h.not_reads hreads

section Law

variable [Compiler]

/-- The law for a regular expression by the user: it is accepted exactly if it is accepted alone, and
then matches exactly the texts that it takes as a whole. -/
structure Lawful (pattern : String) : Prop where
  accepted : (regex? pattern).isSome = (compile? pattern).isSome
  whole : ∀ p regex, regex? pattern = some p → parse? pattern = some regex →
    ∀ value : String, p.isMatch value = true ↔ regex.MatchesWhole value.toList

/-- A closing parenthesis of the pattern ends the group around it, and the pattern is accepted all
the same. -/
def EndsGroup (pattern : String) : Prop :=
  Reader.Stray .start pattern.toList ∧ (regex? pattern).isSome = true

/-- The pattern is accepted alone and ends in a comment, so that it stays valid with a parenthesis behind
it that has nothing to close. -/
def EndsInComment (pattern : String) : Prop :=
  (compile? pattern).isSome = true ∧ (parse? (pattern ++ ")$")).isSome = true

/-- The pattern is accepted alone, but has no room for the levels of the group around it. -/
def FillsDepth (pattern : String) : Prop := (compile? pattern).isSome = true ∧ Deep pattern

/-- The pattern is valid alone and between the anchors, but only one of the two automata is too
large. -/
def FillsSize (pattern : String) : Prop :=
  (parse? pattern).isSome = true ∧ (parse? (anchoredText pattern)).isSome = true ∧
    ¬ (Compiler.size pattern ≤ sizeLimit ↔ Compiler.size (anchoredText pattern) ≤ sizeLimit)

/-- A pattern that is valid and accepted matches the texts that it takes as a whole. -/
theorem isMatch_iff_matchesWhole {pattern : String} {p : Pattern} {regex : Regex Atom}
    (hp : regex? pattern = some p) (h : parse? pattern = some regex) (value : String) :
    p.isMatch value = true ↔ regex.MatchesWhole value.toList := by
  obtain ⟨piece, hpiece, -, rfl⟩ := (parse?_eq_some_iff pattern regex).1 h
  obtain ⟨piece', hpiece', -, hregex⟩ := (parse?_eq_some_iff _ p.regex).1 (parse?_of_ofText? hp)
  rw [toList_anchoredText] at hpiece'
  have hordered := hpiece'.ordered
  obtain ⟨-, rfl⟩ := (describes_anchored_iff hpiece piece').1 hpiece'
  rw [isMatch, isMatch_iff _ (hregex ▸ hordered), ← hregex]
  exact matchesPart_anchored piece.regex value.toList

/-- The law holds for a pattern if and only if the pattern does not end the group around it, end in
a comment, fill the depth that is allowed or fill the size that is. -/
theorem lawful_iff (pattern : String) :
    Lawful pattern ↔
      ¬ EndsGroup pattern ∧ ¬ EndsInComment pattern ∧ ¬ FillsDepth pattern ∧
        ¬ FillsSize pattern := by
  have hlaw : Lawful pattern ↔ ((regex? pattern).isSome = true ↔
      (compile? pattern).isSome = true) := by
    rw [← Bool.eq_iff_iff]
    exact ⟨Lawful.accepted, fun h => ⟨h, fun _ _ => isMatch_iff_matchesWhole⟩⟩
  rw [hlaw, EndsGroup, EndsInComment, FillsDepth, FillsSize, regex?, isSome_ofText?_iff,
    isSome_compile?_iff]
  cases hvalid : (parse? pattern).isSome with
  | true =>
    have hstray : ¬ Reader.Stray .start pattern.toList := fun hstray => by
      rw [isSome_parse?_of_stray hstray] at hvalid
      cases hvalid
    have hanchored := isSome_parse?_anchored hvalid
    rw [← Bool.not_eq_true] at hanchored
    grind
  | false =>
    have hstray := stray_of_parse?_anchored hvalid
    have hnever : ¬ (false = true) := Bool.false_ne_true
    grind

end Law

/-- The law does not hold for every pattern. A pattern that ends the group around it is accepted
without being valid, and matches texts that have only one end in common with it; a pattern that ends
in a comment is valid without being accepted. -/
theorem law_broken :
    (¬ Lawful "a)|(?:b" ∧ (compile? "a)|(?:b").isSome = false ∧
      (regex? "a)|(?:b").any (fun p => p.isMatch "ax" && p.isMatch "xb") = true) ∧
    (¬ Lawful "(?x)a # b" ∧ (compile? "(?x)a # b").isSome = true ∧
      (regex? "(?x)a # b").isSome = false) := by
  refine ⟨⟨fun h => ?_, by decide +kernel, by decide +kernel⟩,
    ⟨fun h => ?_, by decide +kernel, by decide +kernel⟩⟩
  · exact absurd h.accepted (by decide +kernel)
  · exact absurd h.accepted (by decide +kernel)

end Pattern

end Percolator
