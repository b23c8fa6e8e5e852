/-!
# Character tables

A character table is a set of characters, given by the ascending ranges of their codes. Tables are
written as text: each range as its ends in hexadecimal, or as its only code.
-/

namespace Percolator.Unicode

/-- How many of the first entries of an ascending array have a key of at most `code`: the search
halves the places from `low` up to `high` until none is left. -/
def countUpTo {α : Type} (key : α → Nat) (entries : Array α) (code : Nat) : Nat → Nat → Nat → Nat
  | 0, low, _ => low
  | fuel + 1, low, high =>
    if low < high then
      let middle := (low + high) / 2
      match entries[middle]? with
      | none => low
      | some entry =>
        if key entry ≤ code then countUpTo key entries code fuel (middle + 1) high
        else countUpTo key entries code fuel low middle
    else low

/-- The last entry of an ascending array whose key is at most `code`. -/
def lastUpTo? {α : Type} (key : α → Nat) (entries : Array α) (code : Nat) : Option α :=
  match countUpTo key entries code entries.size 0 entries.size with
  | 0 => none
  | count + 1 => entries[count]?

/-- A set of characters as ascending ranges of codes, both ends included. -/
structure CharTable where
  ranges : Array (Nat × Nat)

/-- The parts of a row of characters between separators, and before and after them. -/
def splitWhere (separates : Char → Bool) (row : List Char) : List (List Char) :=
  row.foldr (fun c parts => if separates c then [] :: parts else
    match parts with
    | [] => [[c]]
    | part :: parts => (c :: part) :: parts) [[]]

/-- The parts between occurrences of one separator. -/
def split (separator : Char) (row : List Char) : List (List Char) :=
  splitWhere (· == separator) row

/-- The parts of a text between blanks and line breaks. -/
def words (text : String) : List (List Char) :=
  (splitWhere (fun c => c == ' ' || c == '\n') text.toList).filter (!·.isEmpty)

/-- What is before and what is after the first occurrence of a separator. -/
def cut (separator : Char) (row : List Char) : List Char × List Char :=
  (row.takeWhile (· != separator), (row.dropWhile (· != separator)).drop 1)

/-- The value of a hexadecimal digit, in either case. -/
def hexDigit? (c : Char) : Option Nat :=
  if '0' ≤ c && c ≤ '9' then some (c.toNat - '0'.toNat)
  else if 'a' ≤ c && c ≤ 'f' then some (c.toNat - 'a'.toNat + 10)
  else if 'A' ≤ c && c ≤ 'F' then some (c.toNat - 'A'.toNat + 10)
  else none

/-- The value of a row of hexadecimal digits. -/
def hexValue (row : List Char) : Nat :=
  row.foldl (fun value c => 16 * value + (hexDigit? c).getD 0) 0

namespace CharTable

/-- Read one range of a table. -/
def readRange (entry : List Char) : Nat × Nat :=
  match cut '-' entry with
  | (first, []) => (hexValue first, hexValue first)
  | (first, last) => (hexValue first, hexValue last)

/-- Read a table. -/
def ofText (text : String) : CharTable := ⟨((words text).map readRange).toArray⟩

/-- Whether a character belongs to a table. -/
def contains (table : CharTable) (c : Char) : Bool :=
  match lastUpTo? Prod.fst table.ranges c.toNat with
  | some range => c.toNat ≤ range.2
  | none => false

end CharTable

end Percolator.Unicode
