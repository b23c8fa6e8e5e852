import Percolator.Unicode.Query
import Percolator.Unicode.CaseFold

/-!
# Sets of characters

The sets that escapes and bracket expressions describe, built from ranges and tables. A set that
disregards case is built from parts that do: closing a union under case folding is the union of the
closed parts, and complements and intersections of closed sets are closed.
-/

namespace Percolator.Regex

open Unicode

/-- A description of a set of characters. -/
inductive CharSet where
  | empty
  /-- The characters from `first` up to `last`. -/
  | range (first last : Char)
  | table (table : CharTable)
  | union (a b : CharSet)
  | inter (a b : CharSet)
  /-- The characters in exactly one of two sets. -/
  | symmDiff (a b : CharSet)
  | compl (a : CharSet)
  /-- The characters that fold as one of the set does. -/
  | caseless (a : CharSet)
  /-- The same, where only the letters of ASCII fold. -/
  | asciiCaseless (a : CharSet)

namespace CharSet

/-- Whether a character belongs to a set. -/
def contains : CharSet → Char → Bool
  | empty, _ => false
  | range first last, c => first ≤ c && c ≤ last
  | table t, c => t.contains c
  | union a b, c => a.contains c || b.contains c
  | inter a b, c => a.contains c && b.contains c
  | symmDiff a b, c => a.contains c != b.contains c
  | compl a, c => !a.contains c
  | caseless a, c => a.contains c || (matesOf c).any a.contains
  | asciiCaseless a, c => a.contains c || (asciiMatesOf c).any a.contains

/-- The set of one character. -/
def single (c : Char) : CharSet := range c c

/-- The characters in one of some sets. -/
def unionAll (sets : List CharSet) : CharSet := sets.foldl union empty

/-- The complement, if it is wanted. -/
def complIf (negated : Bool) (a : CharSet) : CharSet := if negated then compl a else a

/-- The characters that a property stands for. -/
def ofSelection (selection : Selection) : CharSet :=
  complIf selection.outside (unionAll (selection.tables.map table))

/-- All characters. -/
def all : CharSet := compl empty

/-- All characters but the line feed. -/
def notNewline : CharSet := compl (single '\n')

/-- All characters but the carriage return and the line feed. -/
def notLineBreak : CharSet := compl (union (single '\r') (single '\n'))

/-- The digits of ASCII. -/
def asciiDigit : CharSet := range '0' '9'

/-- The letters of ASCII. -/
def asciiAlpha : CharSet := union (range 'A' 'Z') (range 'a' 'z')

/-- The letters and digits of ASCII, and the underscore. -/
def asciiWord : CharSet := union (union asciiDigit asciiAlpha) (single '_')

/-- The white space of ASCII. -/
def asciiSpace : CharSet := union (range '\t' '\r') (single ' ')

/-- The named classes that a bracket expression may hold, all of them within ASCII. -/
def posix? (name : List Char) : Option CharSet :=
  match String.ofList name with
  | "alnum" => some (union asciiDigit asciiAlpha)
  | "alpha" => some asciiAlpha
  | "ascii" => some (range '\x00' '\x7F')
  | "blank" => some (union (single '\t') (single ' '))
  | "cntrl" => some (union (range '\x00' '\x1F') (single '\x7F'))
  | "digit" => some asciiDigit
  | "graph" => some (range '!' '~')
  | "lower" => some (range 'a' 'z')
  | "print" => some (range ' ' '~')
  | "punct" =>
    some (union (union (range '!' '/') (range ':' '@'))
      (union (range '[' '\x60') (range '\x7B' '~')))
  | "space" => some asciiSpace
  | "upper" => some (range 'A' 'Z')
  | "word" => some asciiWord
  | "xdigit" => some (union asciiDigit (union (range 'A' 'F') (range 'a' 'f')))
  | _ => none

end CharSet

end Percolator.Regex
