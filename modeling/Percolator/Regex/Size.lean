import Percolator.Regex.Reader

/-!
# The size of compiled expressions

An expression is compiled into an automaton before it is used. So that a short pattern with large
counts cannot take all memory, an expression is refused if its automaton takes too many bytes. How
many bytes it takes is up to the compiler and a parameter here. Unless another compiler is named, the
automaton is one of Thompson's kind that reads the bytes of a text in UTF-8 from right to left: every
part of the expression has states of its own, which are counted here as nearly as the parts show them.
-/

namespace Percolator.Regex

/-- A compiler of expressions, as far as it can be told from outside. -/
class Compiler where
  /-- The number of bytes that the automaton for the expression with a given text takes. -/
  size : String → Nat

/-- No automaton may take more bytes than this, which are ten mebibytes. -/
def sizeLimit : Nat := 10485760

/-- Read a pattern whose automaton is not too large. -/
def compile? [Compiler] (pattern : String) : Option (Regex Atom) :=
  (parse? pattern).filter fun _ => Compiler.size pattern ≤ sizeLimit

/-- The expression of a pattern that is accepted is the one read from it. -/
theorem parse?_of_compile? [Compiler] {pattern : String} {regex : Regex Atom}
    (h : compile? pattern = some regex) : parse? pattern = some regex :=
  (Option.filter_eq_some_iff.mp h).1

/-- A pattern is accepted exactly if it is valid and not too large. -/
theorem isSome_compile?_iff [Compiler] {pattern : String} : (compile? pattern).isSome = true ↔
    (parse? pattern).isSome = true ∧ Compiler.size pattern ≤ sizeLimit := by
  unfold compile?
  cases parse? pattern with
  | none => simp
  | some regex => simp [Option.filter]

/-- The number of bytes that a state takes, apart from its choices. -/
def stateSize : Nat := 32

/-- The number of bytes that a choice among the next states takes. -/
def choiceSize : Nat := 4

/-- The ways to spell the codes from `first` to `last` in bytes, of which `n` follow the first one. A
way gives the least and the greatest value of each byte, without the bits that every such byte has. -/
def spellings : Nat → Nat → Nat → List (List (Nat × Nat))
  | 0, first, last => [[(first, last)]]
  | n + 1, first, last =>
    let block := 64 ^ (n + 1)
    let low := first / block
    let high := last / block
    if low = high then (spellings n (first % block) (last % block)).map ((low, low) :: ·)
    else
      -- The codes at both ends that do not fill a block are spelled apart from the blocks between.
      let before := if first % block = 0 then [] else
        (spellings n (first % block) (block - 1)).map ((low, low) :: ·)
      let after := if (last + 1) % block = 0 then [] else
        (spellings n 0 (last % block)).map ((high, high) :: ·)
      let least := if before.isEmpty then low else low + 1
      let most := if after.isEmpty then high else high - 1
      before ++ (if least ≤ most then [(least, most) :: List.replicate (n + 1) (0, 63)] else [])
        ++ after

/-- The number of states that a way to spell codes needs when those of the way before it are there: the
ways share what is alike at their start. -/
def newStates : List (Nat × Nat) → List (Nat × Nat) → Nat
  | step :: before, next :: after =>
    if step = next then newStates before after else (next :: after).length
  | _, after => after.length

/-- The number of states that some ways need, one after the other. -/
def statesFor : List (Nat × Nat) → List (List (Nat × Nat)) → Nat
  | _, [] => 0
  | before, way :: ways => newStates before way + statesFor way ways

namespace CharSet

/-- The codes at which membership in a set may change. -/
def cuts : CharSet → List Nat
  | empty => []
  | range first last => [first.toNat, last.toNat + 1]
  | table t => t.ranges.toList.flatMap fun run => [run.1, run.2 + 1]
  | union a b => a.cuts ++ b.cuts
  | inter a b => a.cuts ++ b.cuts
  | symmDiff a b => a.cuts ++ b.cuts
  | compl a => a.cuts
  | caseless a => a.cuts ++ mateCuts a
  | asciiCaseless a => a.cuts ++ mateCuts a
where
  /-- The codes around the characters that fold as one of the set does. -/
  mateCuts (a : CharSet) : List Nat :=
    (Unicode.caseMates.toList.filter fun entry => entry.2.any a.contains).flatMap fun entry =>
      [entry.1, entry.1 + 1]

/-- Put a code into an ascending row, if it is not there. -/
def insertCut (code : Nat) : List Nat → List Nat
  | [] => [code]
  | other :: rest =>
    if code < other then code :: other :: rest
    else if code = other then other :: rest
    else other :: insertCut code rest

/-- Join runs of codes that follow each other without a gap. -/
def joinRuns : List (Nat × Nat) → List (Nat × Nat)
  | [] => []
  | run :: rest =>
    match joinRuns rest with
    | [] => [run]
    | next :: more =>
      if run.2 + 1 = next.1 then (run.1, next.2) :: more else run :: next :: more

/-- The codes of a set as ascending runs, both ends included. Codes that no character has are cut
out. -/
def runs (set : CharSet) : List (Nat × Nat) :=
  let cuts := (0 :: 0xD800 :: 0xE000 :: set.cuts).foldr insertCut [0x110000]
  joinRuns ((cuts.zipWith (fun first next => (first, next - 1)) cuts.tail).filter fun run =>
    (charOfCode? run.1).any set.contains)

/-- The least and the greatest code spelled with a number of bytes after the first. -/
def spelledCodes : List (Nat × Nat × Nat) :=
  [(0, 0, 0x7F), (1, 0x80, 0x7FF), (2, 0x800, 0xFFFF), (3, 0x10000, 0x10FFFF)]

/-- The number of bytes of the part that takes one of some runs of codes, between two states. -/
def runsSize (runs : List (Nat × Nat)) : Nat :=
  spelledCodes.foldl (fun total (n, least, most) =>
    let ways := runs.flatMap fun (first, last) =>
      if max first least ≤ min last most then spellings n (max first least) (min last most) else []
    total + stateSize * statesFor [] ways + choiceSize * ways.length) (2 * stateSize)

/-- The number of bytes of the part of an automaton that takes a character of a set. A character is
spelled byte by byte, and the choice among characters of ASCII is a single state. -/
def size : CharSet → Nat
  | range first last =>
    if first = last then stateSize * first.utf8Size else runsSize [(first.toNat, last.toNat)]
  | set =>
    match set.runs with
    | [] => stateSize
    | runs =>
      if runs.all fun run => run.2 ≤ 0x7F then 2 * stateSize + 2 * choiceSize * runs.length
      else runsSize runs

end CharSet

/-- Whether an expression takes no character, whatever the text. -/
def takesNothing : Regex Atom → Bool
  | empty => true
  | atom (.one _) => false
  | atom (.look _) => true
  | cat first second => first.takesNothing && second.takesNothing
  | alt left right => left.takesNothing && right.takesNothing
  | rep body _ most => body.takesNothing || most == some 0

/-- The number of bytes of the part of an automaton for an expression. A repetition has a part for each
of its rounds, up to the least number if there is no most. What takes nothing is repeated once only. -/
def bytes : Regex Atom → Nat
  | empty => 0
  | atom (.one set) => set.size
  | atom (.look _) => stateSize
  | cat first second => first.bytes + second.bytes
  | alt left right => left.bytes + right.bytes + choiceSize
  | rep body least most =>
    let round := body.bytes
    let jump := stateSize + 2 * choiceSize
    if body.takesNothing then round + jump
    else
      match most with
      | none => max least 1 * round + jump
      | some most => least * round + (most - least) * (round + jump) + stateSize

/-- The automaton of a valid expression has a last state behind its parts. -/
instance : Compiler where
  size text := (parse? text).elim 0 fun regex => regex.bytes + stateSize

end Percolator.Regex
