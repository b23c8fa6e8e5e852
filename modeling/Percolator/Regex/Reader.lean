import Percolator.Regex.Bracket

/-!
# Reading patterns

A pattern is read from left to right by a machine that holds the groups opened so far. Each step
reads one item: a parenthesis, a bar, a repetition, a bracket expression, an escape or a character.
A pattern is refused when a step finds no item it knows, when groups do not close, or when the
pattern is nested more deeply than 250 levels.
-/

namespace Percolator.Regex

/-- A part of a pattern that was read. -/
structure Piece where
  regex : Regex Atom
  /-- How many levels of sequence, choice, repetition, group and bracket the part has. -/
  depth : Nat
  /-- Whether a repetition may follow. Flags on their own cannot be repeated. -/
  repeatable : Bool

namespace Piece

/-- A part without levels. -/
def ofAtom (atom : Atom) : Piece := ⟨.atom atom, 0, true⟩

/-- Flags on their own take nothing. -/
def flags : Piece := ⟨.empty, 0, false⟩

/-- The greatest depth of some parts. -/
def maxDepth (pieces : List Piece) : Nat := (pieces.map depth).foldl max 0

/-- Parts one after the other; `pieces` has the last part first. -/
def sequence (pieces : List Piece) : Piece :=
  match pieces with
  | [] => ⟨.empty, 0, true⟩
  | [piece] => piece
  | last :: before =>
    ⟨before.foldl (fun regex piece => .cat piece.regex regex) last.regex, 1 + maxDepth pieces, true⟩

/-- One of several parts; `pieces` has the last part first. -/
def choice (pieces : List Piece) : Piece :=
  match pieces with
  | [] => ⟨.empty, 0, true⟩
  | [piece] => piece
  | last :: before =>
    ⟨before.foldl (fun regex piece => .alt piece.regex regex) last.regex, 1 + maxDepth pieces, true⟩

end Piece

/-- A group that is not closed yet. The whole pattern is one, too. -/
structure OpenGroup where
  /-- The finished alternatives, last first. -/
  alternatives : List Piece
  /-- The parts of the unfinished alternative, last first. -/
  items : List Piece
  /-- The flags in force. -/
  flags : Flags

namespace OpenGroup

/-- A group without items. -/
def new (flags : Flags) : OpenGroup := ⟨[], [], flags⟩

/-- All that was read of the group as one part. -/
def close (group : OpenGroup) : Piece :=
  .choice (.sequence group.items :: group.alternatives)

end OpenGroup

/-- How far a pattern was read. -/
structure Reader where
  /-- The innermost open group. -/
  group : OpenGroup
  /-- The groups around it, nearest first. -/
  outer : List OpenGroup
  /-- The names that groups were given. -/
  names : List (List Char)

namespace Reader

/-- Before the first character of a pattern. -/
def start : Reader := ⟨.new {}, [], []⟩

/-- The flags in force. -/
def flags (reader : Reader) : Flags := reader.group.flags

/-- Add a part to the innermost group. -/
def push (reader : Reader) (piece : Piece) : Reader :=
  { reader with group.items := piece :: reader.group.items }

/-- Add an atom to the innermost group. -/
def pushAtom (reader : Reader) (atom : Atom) : Reader := reader.push (.ofAtom atom)

/-- Start the next alternative of the innermost group. -/
def alternate (reader : Reader) : Reader :=
  { reader with
    group.alternatives := .sequence reader.group.items :: reader.group.alternatives
    group.items := [] }

/-- Close the innermost group. -/
def close? (reader : Reader) : Option Reader :=
  match reader.outer with
  | [] => none
  | around :: outer =>
    let content := reader.group.close
    some ({ reader with group := around, outer }.push ⟨content.regex, content.depth + 1, true⟩)

/-- Open a group with flags of its own. -/
def openGroup (reader : Reader) (flags : Flags) : Reader :=
  { reader with group := .new flags, outer := reader.group :: reader.outer }

/-- Repeat the last part. -/
def repeat? (reader : Reader) (least : Nat) (most : Option Nat) : Option Reader :=
  match reader.group.items with
  | [] => none
  | piece :: items =>
    if piece.repeatable then
      some { reader with
        group.items := ⟨.rep piece.regex least most, piece.depth + 1, true⟩ :: items }
    else none

/-- Whether a character may stand in the name of a group; the first one is held to more. -/
def isNameChar (first : Bool) (c : Char) : Bool :=
  if first then c = '_' || Unicode.isAlphabetic c
  else c = '_' || c = '.' || c = '[' || c = ']' || Unicode.isAlphanumeric c

/-- Read the name of a group and its closing angle bracket. No two groups have one name. -/
def nameGroup? (reader : Reader) (row : List Char) : Option (Reader × List Char) :=
  let name := row.takeWhile (· != '>')
  match name, row.dropWhile (· != '>') with
  | c :: more, _ :: rest =>
    if isNameChar true c && more.all (isNameChar false) && !reader.names.contains name then
      some ({ reader with names := name :: reader.names }.openGroup reader.flags, rest)
    else none
  | _, _ => none

/-- Read what follows an opening parenthesis. -/
def readGroup? (reader : Reader) (row : List Char) : Option (Reader × List Char) :=
  match reader.flags.skip row with
  | '?' :: 'P' :: '<' :: rest => reader.nameGroup? rest
  | '?' :: '<' :: rest => reader.nameGroup? rest
  | '?' :: rest =>
    match readFlags [] false false reader.flags rest with
    | none => none
    | some found =>
      if found.opens then some (reader.openGroup found.flags, found.rest)
      else if found.isEmpty then none
      else some ({ reader with group.flags := found.flags }.push .flags, found.rest)
  | row => some (reader.openGroup reader.flags, row)

/-- Drop the sign that makes a repetition take as little as it can: whether there is a match does
not depend on it. -/
def dropLazy : List Char → List Char
  | '?' :: rest => rest
  | row => row

/-- All counts of repetitions are below this limit, which is two to the power 32. -/
def countLimit : Nat := 4294967296

/-- Read a count, with white space around it. No digits are no count. -/
def readCount (flags : Flags) (row : List Char) : Option Nat × List Char :=
  let (digits, rest) := flags.collect Char.isDigit row.length (row.dropWhile Unicode.isSpace)
  let value := digits.foldl (fun n c => 10 * n + (c.toNat - '0'.toNat)) 0
  (if digits.isEmpty || value ≥ countLimit then none else some value,
    flags.skip (rest.dropWhile Unicode.isSpace))

/-- Read the counts of a repetition, after its opening brace: one count, a least count and a comma,
or two counts in order. -/
def readCounts? (flags : Flags) (row : List Char) :
    Option (Nat × Option Nat × List Char) := do
  let (least, row) := readCount flags (flags.skip row)
  let least ← least
  match row with
  | ',' :: rest =>
    match flags.skip rest with
    | '\x7d' :: rest => return (least, none, rest)
    | row =>
      let (most, row) := readCount flags row
      let most ← most
      match row with
      | '\x7d' :: rest => if least ≤ most then return (least, some most, rest) else none
      | _ => none
  | '\x7d' :: rest => return (least, some least, rest)
  | _ => none

/-- The atom of an escape outside brackets. -/
def atomOf? (flags : Flags) : Escape → Option Atom
  | .literal c byte => (literalSet? flags c byte).map .one
  | .set set => some (.one set)
  | .look assertion => some (.look assertion)

/-- Read one item, whose first character is `c`. -/
def step (reader : Reader) (c : Char) (rest : List Char) : Option (Reader × List Char) :=
  match c with
  | '(' => reader.readGroup? rest
  | ')' => reader.close?.map (·, rest)
  | '|' => some (reader.alternate, rest)
  | '[' =>
    (readBracket reader.flags rest).map fun (described, rest) =>
      (reader.push ⟨.atom (.one described.set), described.depth, true⟩, rest)
  | '?' => (reader.repeat? 0 (some 1)).map (·, dropLazy rest)
  | '*' => (reader.repeat? 0 none).map (·, dropLazy rest)
  | '+' => (reader.repeat? 1 none).map (·, dropLazy rest)
  | '\x7b' => do
    let (least, most, rest) ← readCounts? reader.flags rest
    let reader ← reader.repeat? least most
    return (reader, dropLazy (reader.flags.skip rest))
  | '\\' => do
    let (escape, rest) ← readEscape reader.flags rest
    let atom ← atomOf? reader.flags escape
    return (reader.pushAtom atom, rest)
  | '.' => reader.flags.dot?.map fun atom => (reader.pushAtom atom, rest)
  | '^' => some (reader.pushAtom (.look reader.flags.caret), rest)
  | '$' => some (reader.pushAtom (.look reader.flags.dollar), rest)
  | c => (literalSet? reader.flags c false).map fun set => (reader.pushAtom (.one set), rest)

/-- Read items to the end of a pattern. Every step takes a character at least. -/
def run : Nat → Reader → List Char → Option Reader
  | 0, _, _ => none
  | fuel + 1, reader, row =>
    match reader.flags.skip row with
    | [] => some reader
    | c :: rest =>
      match reader.step c rest with
      | none => none
      | some (reader, rest) => run fuel reader rest

end Reader

/-- How deeply a pattern may be nested. -/
def depthLimit : Nat := 250

/-- Read a pattern. -/
def parse? (pattern : String) : Option (Regex Atom) :=
  let row := pattern.toList
  match Reader.run (row.length + 1) .start row with
  | none => none
  | some reader =>
    let piece := reader.group.close
    if reader.outer.isEmpty && piece.depth ≤ depthLimit then some piece.regex else none

end Percolator.Regex
