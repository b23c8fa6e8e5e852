import Percolator.Regex.Escape

/-!
# Bracket expressions

A bracket expression describes a set of characters by its members: characters, ranges, escapes,
named classes and nested bracket expressions. Three signs combine what stands before them with what
stands after them: `&&` intersects, `--` subtracts and `~~` takes the members of exactly one side.
All three bind alike, and to the left.
-/

namespace Percolator.Regex

/-- A set, and how deeply the part of the pattern that describes it is nested. -/
structure Described where
  set : CharSet
  depth : Nat

/-- How two parts of a bracket expression are combined. -/
inductive SetOperator where
  | intersection
  | difference
  | symmetricDifference

/-- Combine two sets. -/
def SetOperator.apply : SetOperator → CharSet → CharSet → CharSet
  | intersection, a, b => .inter a b
  | difference, a, b => .inter a (.compl b)
  | symmetricDifference, a, b => .symmDiff a b

/-- A bracket expression that is not closed yet. -/
structure OpenBracket where
  /-- Whether the complement is described. -/
  negated : Bool
  /-- What stands before the last operator sign. -/
  left : Option (Described × SetOperator)
  /-- The members since then, last first. -/
  members : List Described

namespace OpenBracket

/-- Add a member. -/
def add (bracket : OpenBracket) (member : Described) : OpenBracket :=
  { bracket with members := member :: bracket.members }

/-- The members since the last operator sign as one set. -/
def operand (bracket : OpenBracket) : Described :=
  match bracket.members with
  | [] => ⟨.empty, 0⟩
  | [member] => member
  | members =>
    ⟨.unionAll (members.reverse.map Described.set), 1 + (members.map Described.depth).foldl max 0⟩

/-- All that was read so far as one set. -/
def combined (bracket : OpenBracket) : Described :=
  let right := bracket.operand
  match bracket.left with
  | none => right
  | some (left, operator) =>
    ⟨operator.apply left.set right.set, 1 + max left.depth right.depth⟩

/-- Go on behind an operator sign. -/
def operate (bracket : OpenBracket) (operator : SetOperator) : OpenBracket :=
  { bracket with left := some (bracket.combined, operator), members := [] }

/-- The set of the whole expression. A complement reaches beyond ASCII. -/
def close? (flags : Flags) (bracket : OpenBracket) : Option Described :=
  if bracket.negated && !flags.unicode then none
  else
    let content := bracket.combined
    some ⟨.complIf bracket.negated content.set, content.depth + 1⟩

end OpenBracket

/-- The characters from `first` to `last` as a member. Without Unicode both must be of ASCII. -/
def memberSet? (flags : Flags) (first last : Char) : Option CharSet :=
  if !flags.unicode && (first.toNat ≥ 128 || last.toNat ≥ 128) then none
  else some (flags.fold (.range first last))

/-- Read the start of a bracket expression, after its bracket: a caret, any number of hyphens that
stand for themselves, and if there are none of these a closing bracket that stands for itself. -/
def openBracket? (flags : Flags) (row : List Char) : Option (OpenBracket × List Char) := do
  let row := flags.skip row
  let (negated, row) := match row with
    | '^' :: rest => (true, flags.skip rest)
    | _ => (false, row)
  let (hyphens, row) := flags.collect (· = '-') row.length row
  let (brackets, row) := if hyphens.isEmpty then flags.collect (· = ']') 1 row else ([], row)
  if row.isEmpty then none
  let members ← (hyphens ++ brackets).mapM fun c => memberSet? flags c c
  return (⟨negated, none, members.map (⟨·, 0⟩)⟩, row)

/-- Read a named class, after its bracket; nothing if what follows is not of that form. -/
def namedClass? (flags : Flags) (row : List Char) : Option (Option CharSet × List Char) := do
  let (negated, row) ← match row with
    | ':' :: '^' :: rest => some (true, rest)
    | ':' :: rest => some (false, rest)
    | _ => none
  match row.dropWhile (· != ':') with
  | ':' :: ']' :: rest =>
    let set ← CharSet.posix? (row.takeWhile (· != ':'))
    return (if negated && !flags.unicode then none else some (.complIf negated (flags.fold set)),
      rest)
  | _ => none

/-- Read a character or an escape inside brackets. -/
def readMember (flags : Flags) (c : Char) (rest : List Char) : Option (Escape × List Char) :=
  if c = '\\' then readEscape flags rest else some (.literal c false, rest)

/-- The first character behind a hyphen that tells whether the hyphen makes a range. A number sign
among the blanks is passed over, and what follows it is looked at as it stands. -/
def peekRange (flags : Flags) (row : List Char) : Option Char :=
  if flags.verbose then
    match row.dropWhile Unicode.isSpace with
    | '#' :: rest => (rest.dropWhile Unicode.isSpace).head?
    | row => row.head?
  else row.head?

/-- Read a member that starts with `c`: one character or escape, or a range. Both ends of a range
are characters, the first not after the last. -/
def readRange (flags : Flags) (c : Char) (rest : List Char) : Option (CharSet × List Char) := do
  let (first, row) ← readMember flags c rest
  let alone := match first with
    | .literal c _ => memberSet? flags c c
    | .set set => some set
    | .look _ => none
  match flags.skip row with
  | [] => none
  | '-' :: rest =>
    let next := peekRange flags rest
    if next = some ']' || next = some '-' then alone.map (·, '-' :: rest)
    else match flags.skip rest with
      | [] => none
      | d :: rest =>
        let (last, row) ← readMember flags d rest
        match first, last with
        | .literal first _, .literal last _ =>
          if first ≤ last then (memberSet? flags first last).map (·, row) else none
        | _, _ => none
  | row => alone.map (·, row)

/-- Read bracket expressions up to the end of the outermost one. `outer` are the ones around the
innermost open one, nearest first. -/
def readBrackets (flags : Flags) :
    Nat → OpenBracket → List OpenBracket → List Char → Option (Described × List Char)
  | 0, _, _, _ => none
  | fuel + 1, bracket, outer, row =>
    match flags.skip row with
    | [] => none
    | '[' :: rest =>
      match namedClass? flags rest with
      | some (none, _) => none
      | some (some set, rest) => readBrackets flags fuel (bracket.add ⟨set, 0⟩) outer rest
      | none =>
        match openBracket? flags rest with
        | none => none
        | some (inner, rest) => readBrackets flags fuel inner (bracket :: outer) rest
    | ']' :: rest =>
      match bracket.close? flags, outer with
      | none, _ => none
      | some described, [] => some (described, rest)
      | some described, around :: outer => readBrackets flags fuel (around.add described) outer rest
    | '&' :: '&' :: rest => readBrackets flags fuel (bracket.operate .intersection) outer rest
    | '-' :: '-' :: rest => readBrackets flags fuel (bracket.operate .difference) outer rest
    | '~' :: '~' :: rest =>
      readBrackets flags fuel (bracket.operate .symmetricDifference) outer rest
    | c :: rest =>
      match readRange flags c rest with
      | none => none
      | some (set, rest) => readBrackets flags fuel (bracket.add ⟨set, 0⟩) outer rest

/-- Read a bracket expression, after its opening bracket. -/
def readBracket (flags : Flags) (row : List Char) : Option (Described × List Char) :=
  match openBracket? flags row with
  | none => none
  | some (bracket, rest) => readBrackets flags (rest.length + 1) bracket [] rest

end Percolator.Regex
