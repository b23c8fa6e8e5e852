import Percolator.Regex.Basic

/-!
# Matching

Expressions are matched on all places of a text at once. A set of places is a number whose bit `i`
stands for the place before character `i`; the last place is the end of the text. Every atom of an
expression is first replaced by its move: the places where it may be applied, and whether it takes a
character. Then the set of places that an expression reaches from a set of places follows its shape.

A repetition reaches nothing new after as many rounds as the text has places, because a round either
takes a character or stays, and a round that stays can be left out.
-/

namespace Percolator.Regex

/-- What an atom does on a text. -/
structure Move where
  /-- The places where the atom may be applied. -/
  places : Nat
  /-- Whether it takes a character. -/
  takes : Bool

/-- The places of a text whose neighbours satisfy a condition. `before` is the character before the
first place. -/
def placesWhere (holds : Option Char → Option Char → Bool) : Option Char → List Char → Nat
  | before, [] => (holds before none).toNat
  | before, c :: rest => (holds before (some c)).toNat + 2 * placesWhere holds (some c) rest

/-- A text with the places of each character that occurs in it. -/
structure Text where
  /-- The characters of the text. -/
  row : List Char
  /-- The characters that occur, each with the places before it. -/
  occurrences : List (Char × Nat)

namespace Text

/-- Find the places of all characters of a text. -/
def ofList (row : List Char) : Text :=
  ⟨row, row.eraseDups.map fun c => (c, placesWhere (fun _ after => after == some c) none row)⟩

/-- The places of a text made from a row of characters hold that row. -/
@[simp] theorem row_ofList (row : List Char) : (ofList row).row = row := rfl

/-- The places before a character of a set. -/
def placesBefore (text : Text) (set : CharSet) : Nat :=
  text.occurrences.foldl (fun found (c, places) =>
    if set.contains c then found ||| places else found) 0

/-- The move of an atom on a text. -/
def move (text : Text) : Atom → Move
  | .one set => ⟨text.placesBefore set, true⟩
  | .look assertion => ⟨placesWhere assertion.holds none text.row, false⟩

end Text

/-- Replace every atom. -/
def map {α β : Type} (f : α → β) : Regex α → Regex β
  | empty => empty
  | atom a => atom (f a)
  | cat first second => cat (map f first) (map f second)
  | alt left right => alt (map f left) (map f right)
  | rep body least most => rep (map f body) least most

/-- The places after `n` rounds. -/
def rounds (reach : Nat → Nat) : Nat → Nat → Nat
  | 0, places => places
  | n + 1, places =>
    let next := reach places
    if next = places then places else rounds reach n next

/-- The places after at most `n` rounds. -/
def roundsUpTo (reach : Nat → Nat) : Nat → Nat → Nat
  | 0, places => places
  | n + 1, places =>
    let next := places ||| reach places
    if next = places then places else roundsUpTo reach n next

/-- The places that an expression reaches from a set of places. No repetition needs more than
`limit` rounds. -/
def reach (limit : Nat) : Regex Move → Nat → Nat
  | empty, places => places
  | atom move, places =>
    if move.takes then (places &&& move.places) <<< 1 else places &&& move.places
  | cat first second, places => second.reach limit (first.reach limit places)
  | alt left right, places => left.reach limit places ||| right.reach limit places
  | rep body least most, places =>
    let optional := match most with
      | some most => min (most - least) limit
      | none => limit
    roundsUpTo (body.reach limit) optional (rounds (body.reach limit) (min least limit) places)

/-- Whether an expression matches some part of a text. -/
def isMatch (regex : Regex Atom) (text : String) : Bool :=
  let text := Text.ofList text.toList
  let limit := text.row.length + 1
  (regex.map text.move).reach limit ((1 <<< limit) - 1) != 0

end Percolator.Regex
