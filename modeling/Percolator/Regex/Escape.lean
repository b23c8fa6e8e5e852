import Percolator.Regex.Flags

/-!
# Escapes

What a backslash and the characters after it mean: a character, a set of characters, or an
assertion. Without Unicode, sets that reach beyond ASCII are refused, because they would take half
characters.
-/

namespace Percolator.Regex

open Unicode

/-- The meaning of an escape. -/
inductive Escape where
  /-- A character. `byte` tells that it was written as a byte of two hexadecimal digits. -/
  | literal (c : Char) (byte : Bool)
  | set (set : CharSet)
  | look (assertion : Assertion)

/-- The characters with a meaning of their own, all of which may be escaped. -/
def isMeta (c : Char) : Bool := "\\.+*?()|[]\x7b\x7d^$#&-~".toList.contains c

/-- Whether a backslash before the character is allowed and changes nothing. -/
def isEscapable (c : Char) : Bool :=
  isMeta c || (c.toNat < 128 && !c.isAlphanum && c != '<' && c != '>')

/-- The character with a code, if it is the code of a character. -/
def charOfCode? (code : Nat) : Option Char :=
  if h : code.isValidChar then some (Char.ofNatAux code h) else none

/-- Whether a character is a hexadecimal digit. -/
def isHexDigit (c : Char) : Bool := (hexDigit? c).isSome

/-- The number of hexadecimal digits after the letter of an escape. -/
def hexWidth : Char → Nat
  | 'x' => 2
  | 'u' => 4
  | _ => 8

/-- Read the code of a character, in braces or with a fixed number of digits. -/
def readHex (flags : Flags) (letter : Char) (row : List Char) : Option (Escape × List Char) :=
  match flags.skip row with
  | '\x7b' :: rest =>
    match flags.collect isHexDigit rest.length (flags.skip rest) with
    | (digits, '\x7d' :: rest) =>
      if digits.isEmpty then none
      else (charOfCode? (hexValue digits)).map fun c => (.literal c false, rest)
    | _ => none
  | row =>
    let (digits, rest) := flags.collect isHexDigit (hexWidth letter) row
    if digits.length = hexWidth letter then
      (charOfCode? (hexValue digits)).map fun c => (.literal c (letter = 'x'), rest)
    else none

/-- Look up what stands in the braces of a property: a name, or a name and a value with a sign
between them. The sign `!=` asks for the characters with any other value, which the second part of
the result tells. -/
def findProperty (name : List Char) : Option (Selection × Bool) :=
  let rec unequal : List Char → Option (List Char × List Char)
    | '!' :: '=' :: value => some ([], value)
    | c :: rest => (unequal rest).map fun (name, value) => (c :: name, value)
    | [] => none
  let splitAt (sign : Char) : Option (List Char × List Char) :=
    match name.dropWhile (· != sign) with
    | _ :: value => some (name.takeWhile (· != sign), value)
    | [] => none
  match unequal name with
  | some (property, value) => (findValue property value).map (·, true)
  | none =>
    match (splitAt ':').or (splitAt '=') with
    | some (property, value) => (findValue property value).map (·, false)
    | none => (findNamed name).map (·, false)

/-- Read a property: one letter, or anything in braces. Case is folded before the characters outside
are taken, and they are taken when `negated` and the sign in the braces do not cancel out. -/
def readProperty (flags : Flags) (negated : Bool) (row : List Char) :
    Option (Escape × List Char) := do
  let ((selection, unequal), rest) ← match flags.skip row with
    | '\x7b' :: rest =>
      match flags.collect (· != '\x7d') rest.length (flags.skip rest) with
      | (name, '\x7d' :: rest) => (findProperty name).map (·, rest)
      | _ => none
    | '\\' :: _ => none
    | c :: rest => (findNamed [c]).map fun selection => ((selection, false), rest)
    | [] => none
  if flags.unicode then
    let set := flags.fold (.ofSelection selection)
    return (.set (.complIf (negated != unequal) set), rest)
  else none

/-- The set of a class letter. -/
def classSet? (flags : Flags) (letter : Char) : Option CharSet :=
  let negated := letter.isUpper
  let set := match letter.toLower with
    | 'd' => if flags.unicode then CharSet.table decimalNumber else .asciiDigit
    | 's' => if flags.unicode then .table whiteSpace else .asciiSpace
    | _ => if flags.unicode then .unionAll (wordTables.map .table) else .asciiWord
  if negated && !flags.unicode then none else some (.complIf negated set)

/-- The word places that have names. -/
def wordPlace? (name : List Char) : Option WordPlace :=
  match String.ofList name with
  | "start" => some .start
  | "end" => some .finish
  | "start-half" => some .startHalf
  | "end-half" => some .finishHalf
  | _ => none

/-- Read what follows a word boundary: the name of a word place in braces, or something else, which
is left alone. -/
def readBoundary (flags : Flags) (row : List Char) : Option (Assertion × List Char) :=
  let plain := some (Assertion.word .boundary (!flags.unicode), row)
  let isNamePart (c : Char) : Bool := c.isAlpha || c = '-'
  match row with
  | '\x7b' :: rest =>
    match flags.skip rest with
    | [] => none
    | c :: _ =>
      if isNamePart c then
        match flags.collect isNamePart rest.length (flags.skip rest) with
        | (name, '\x7d' :: rest) =>
          (wordPlace? name).map fun place => (.word place (!flags.unicode), rest)
        | _ => none
      else plain
  | _ => plain

/-- Read the rest of an escape, after its backslash. -/
def readEscape (flags : Flags) : List Char → Option (Escape × List Char)
  | [] => none
  | c :: rest =>
    let look (assertion : Assertion) : Option (Escape × List Char) := some (.look assertion, rest)
    let literal (c : Char) : Option (Escape × List Char) := some (.literal c false, rest)
    if isEscapable c then literal c
    else match c with
      | 'x' | 'u' | 'U' => readHex flags c rest
      | 'p' => readProperty flags false rest
      | 'P' => readProperty flags true rest
      | 'd' | 's' | 'w' | 'D' | 'S' | 'W' => (classSet? flags c).map fun set => (.set set, rest)
      | 'a' => literal '\x07'
      | 'f' => literal '\x0C'
      | 't' => literal '\t'
      | 'n' => literal '\n'
      | 'r' => literal '\r'
      | 'v' => literal '\x0B'
      | 'A' => look .textStart
      | 'z' => look .textEnd
      | 'b' => (readBoundary flags rest).map fun (assertion, rest) => (.look assertion, rest)
      | 'B' => look (.word .inside (!flags.unicode))
      | '<' => look (.word .start (!flags.unicode))
      | '>' => look (.word .finish (!flags.unicode))
      | _ => none

/-- The set of a literal character. A byte beyond ASCII is no character without Unicode; other
characters beyond ASCII have no case then. -/
def literalSet? (flags : Flags) (c : Char) (byte : Bool) : Option CharSet :=
  if !flags.unicode && byte && c.toNat ≥ 128 then none
  else some (flags.fold (.single c))

end Percolator.Regex
