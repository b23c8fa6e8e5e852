import Percolator.Regex.Basic

/-!
# Flags

Flags change how the rest of a group is read: whether case matters, what the anchors and the dot
mean, whether classes go beyond ASCII, and whether white space and comments in the pattern are
skipped.
-/

namespace Percolator.Regex

open Unicode

/-- The flags in force at a place of a pattern. -/
structure Flags where
  /-- Letters match in either case. -/
  caseless : Bool := false
  /-- Anchors match at the ends of lines. -/
  multiline : Bool := false
  /-- The dot matches line breaks, too. -/
  dotAll : Bool := false
  /-- A carriage return ends a line, too. -/
  carriageReturn : Bool := false
  /-- Characters are those of Unicode and not those of ASCII alone. -/
  unicode : Bool := true
  /-- Blanks and comments of the pattern are skipped. -/
  verbose : Bool := false

namespace Flags

/-- Turn a flag on or off by its letter. The greed flag changes which match is preferred, and so
nothing here. -/
def set? (flags : Flags) (on : Bool) : Char → Option Flags
  | 'i' => some { flags with caseless := on }
  | 'm' => some { flags with multiline := on }
  | 's' => some { flags with dotAll := on }
  | 'R' => some { flags with carriageReturn := on }
  | 'u' => some { flags with unicode := on }
  | 'x' => some { flags with verbose := on }
  | 'U' => some flags
  | _ => none

/-- Drop blanks, and comments from a number sign to the end of the line. -/
def skipBlanks : (comment : Bool) → List Char → List Char
  | _, [] => []
  | true, c :: rest => skipBlanks (c != '\n') rest
  | false, c :: rest =>
    if isSpace c then skipBlanks false rest
    else if c = '#' then skipBlanks true rest
    else c :: rest

/-- Drop what the flags let a pattern hold between its parts. -/
def skip (flags : Flags) (row : List Char) : List Char :=
  if flags.verbose then skipBlanks false row else row

/-- Split off characters of a kind, at most `limit` of them, skipping what may be skipped after
each. -/
def collect (flags : Flags) (ofKind : Char → Bool) : Nat → List Char → List Char × List Char
  | 0, row => ([], row)
  | _, [] => ([], [])
  | limit + 1, c :: rest =>
    if ofKind c then
      let (found, rest) := flags.collect ofKind limit (flags.skip rest)
      (c :: found, rest)
    else ([], c :: rest)

/-- Disregard case if the flags say so. -/
def fold (flags : Flags) (set : CharSet) : CharSet :=
  if flags.caseless then
    if flags.unicode then .caseless set else .asciiCaseless set
  else set

/-- What the dot takes. It would take half characters if characters were those of ASCII. -/
def dot? (flags : Flags) : Option Atom :=
  if !flags.unicode then none
  else if flags.dotAll then some (.one .all)
  else if flags.carriageReturn then some (.one .notLineBreak)
  else some (.one .notNewline)

/-- What a caret asserts. -/
def caret (flags : Flags) : Assertion :=
  if !flags.multiline then .textStart
  else if flags.carriageReturn then .anyLineStart
  else .lineStart

/-- What a dollar sign asserts. -/
def dollar (flags : Flags) : Assertion :=
  if !flags.multiline then .textEnd
  else if flags.carriageReturn then .anyLineEnd
  else .lineEnd

end Flags

/-- What is read from the letters of a flag group. -/
structure FlagGroup where
  /-- The flags with the changes made. -/
  flags : Flags
  /-- Whether there were no letters. -/
  isEmpty : Bool
  /-- Whether a colon ended the letters, so that a group follows. -/
  opens : Bool
  /-- The text after the letters. -/
  rest : List Char

/-- Read flag letters up to a colon or a closing parenthesis. Letters after a hyphen turn flags off;
no letter may occur twice, and one hyphen at most, which must be followed by a letter. `seen` holds
the letters read, `negated` whether a hyphen was read, and `dangling` whether it came last. -/
def readFlags (seen : List Char) (negated dangling : Bool) (flags : Flags) :
    List Char → Option FlagGroup
  | [] => none
  | c :: rest =>
    if c = ':' || c = ')' then
      if dangling then none else some ⟨flags, seen.isEmpty, c = ':', rest⟩
    else if c = '-' then
      if negated then none else readFlags seen true true flags rest
    else if seen.contains c then none
    else match flags.set? (!negated) c with
      | none => none
      | some flags => readFlags (c :: seen) negated false flags rest

end Percolator.Regex
