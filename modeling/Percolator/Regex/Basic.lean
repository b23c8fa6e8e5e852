import Percolator.Regex.CharSet

/-!
# Regular expressions

A regular expression is built from atoms by sequence, choice and repetition. An atom of a pattern
takes one character of a set, or takes none and looks at the characters around its place.
-/

namespace Percolator

open Unicode

/-- A regular expression over atoms. -/
inductive Regex (α : Type) where
  /-- Takes nothing. -/
  | empty
  | atom (a : α)
  /-- One expression after the other. -/
  | cat (first second : Regex α)
  /-- One of two expressions. -/
  | alt (left right : Regex α)
  /-- At least `least` and at most `most` times an expression; no limit if there is no `most`. -/
  | rep (body : Regex α) (least : Nat) (most : Option Nat)

namespace Regex

/-- What a place relative to words has to be like. -/
inductive WordPlace where
  /-- A word starts or ends here. -/
  | boundary
  /-- No word starts or ends here. -/
  | inside
  | start
  | finish
  /-- No word character is before the place. -/
  | startHalf
  /-- No word character is after the place. -/
  | finishHalf
  deriving DecidableEq

/-- A condition on the characters next to a place. -/
inductive Assertion where
  | textStart
  | textEnd
  | lineStart
  | lineEnd
  /-- Lines that may end in a carriage return, a line feed or both together. -/
  | anyLineStart
  | anyLineEnd
  /-- A place relative to words, whose characters are those of ASCII if `ascii`. -/
  | word (place : WordPlace) (ascii : Bool)

/-- Whether the characters before and after a place suit a word place, given which characters belong
to words. -/
def WordPlace.holds (place : WordPlace) (isWord : Char → Bool) (before after : Option Char) :
    Bool :=
  let wordBefore := before.any isWord
  let wordAfter := after.any isWord
  match place with
  | boundary => wordBefore != wordAfter
  | inside => wordBefore == wordAfter
  | start => !wordBefore && wordAfter
  | finish => wordBefore && !wordAfter
  | startHalf => !wordBefore
  | finishHalf => !wordAfter

/-- Whether an assertion holds between two characters, or at an end of the text. A line that may end
in two ways does not end between a carriage return and a line feed. -/
def Assertion.holds (assertion : Assertion) (before after : Option Char) : Bool :=
  match assertion with
  | textStart => before.isNone
  | textEnd => after.isNone
  | lineStart => before.isNone || before == some '\n'
  | lineEnd => after.isNone || after == some '\n'
  | anyLineStart =>
    before.isNone || before == some '\n' || (before == some '\r' && after != some '\n')
  | anyLineEnd =>
    after.isNone || after == some '\r' || (after == some '\n' && before != some '\r')
  | word place ascii =>
    place.holds (if ascii then CharSet.asciiWord.contains else isWord) before after

/-- What a pattern is built from. -/
inductive Atom where
  /-- Takes one character of the set. -/
  | one (set : CharSet)
  /-- Takes nothing, at a place where the assertion holds. -/
  | look (assertion : Assertion)

end Regex

end Percolator
