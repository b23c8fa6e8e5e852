import Percolator.Regex.Matching

/-!
# What expressions match

An expression spans the part of a text between two places if it can take exactly that part. Unlike
the matcher, which follows all places at once, this says for each pair of places which choices and
which numbers of rounds make the expression fit.
-/

namespace Percolator.Regex

/-- What an atom can do on a text: go from one place to another. -/
def Atom.Spans (text : List Char) : Atom → Nat → Nat → Prop
  | one set, i, j => j = i + 1 ∧ ∃ c, text[i]? = some c ∧ set.contains c = true
  | look assertion, i, j =>
    j = i ∧ i ≤ text.length ∧
      assertion.holds (if i = 0 then none else text[i - 1]?) text[i]? = true

/-- Go from one place to another in a number of rounds. -/
def InRounds (round : Nat → Nat → Prop) : Nat → Nat → Nat → Prop
  | 0, i, j => i = j
  | n + 1, i, j => ∃ k, round i k ∧ InRounds round n k j

/-- An expression takes the part of a text between two places. -/
def Spans (text : List Char) : Regex Atom → Nat → Nat → Prop
  | empty, i, j => i = j
  | atom a, i, j => a.Spans text i j
  | cat first second, i, j => ∃ k, first.Spans text i k ∧ second.Spans text k j
  | alt left right, i, j => left.Spans text i j ∨ right.Spans text i j
  | rep body least most, i, j =>
    ∃ n, least ≤ n ∧ (∀ m, most = some m → n ≤ m) ∧ InRounds (body.Spans text) n i j

/-- No repetition asks for more rounds than it allows. -/
def Ordered {α : Type} : Regex α → Prop
  | empty => True
  | atom _ => True
  | cat first second => Ordered first ∧ Ordered second
  | alt left right => Ordered left ∧ Ordered right
  | rep body least most => Ordered body ∧ ∀ m, most = some m → least ≤ m

/-- An expression takes the whole of a text. -/
def MatchesWhole (regex : Regex Atom) (text : List Char) : Prop :=
  regex.Spans text 0 text.length

/-- An expression takes some part of a text. -/
def MatchesPart (regex : Regex Atom) (text : List Char) : Prop :=
  ∃ i j, i ≤ text.length ∧ regex.Spans text i j

end Percolator.Regex
