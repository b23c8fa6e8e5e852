import Percolator.Regex.Escape

/-!
# LIKE patterns

A LIKE pattern is read as a row of tokens: any run of characters, any one character, or a character
that stands for itself. The row is written as a regular expression that takes the whole text, line
breaks included.
-/

namespace Percolator.Like

/-- A part of a LIKE pattern. -/
inductive Token where
  /-- Any run of characters, even an empty one. -/
  | anyRun
  /-- Any one character. -/
  | anyOne
  /-- The character itself. -/
  | literal (c : Char)
  deriving DecidableEq

/-- The token of a character that no escape character precedes. -/
def tokenOf : Char → Token
  | '%' => .anyRun
  | '_' => .anyOne
  | c => .literal c

/-- Read a pattern. The escape character makes the next character a literal, and is one itself at
the end of the pattern. -/
def tokens (escape : Option Char) : List Char → List Token
  | [] => []
  | c :: rest =>
    if some c = escape then
      match rest with
      | [] => [.literal c]
      | d :: rest => .literal d :: tokens escape rest
    else tokenOf c :: tokens escape rest

/-- A row of tokens takes the whole of a text. -/
inductive Accepts : List Token → List Char → Prop where
  | nil : Accepts [] []
  | anyRun {row : List Token} {rest : List Char} (run : List Char) :
    Accepts row rest → Accepts (.anyRun :: row) (run ++ rest)
  | anyOne {row : List Token} {rest : List Char} (c : Char) :
    Accepts row rest → Accepts (.anyOne :: row) (c :: rest)
  | literal {row : List Token} {rest : List Char} (c : Char) :
    Accepts row rest → Accepts (.literal c :: row) (c :: rest)

/-- A character that stands for itself in a regular expression: characters with a meaning of their
own are escaped. -/
def quote (c : Char) : List Char := if Regex.isMeta c then ['\\', c] else [c]

/-- A token as a regular expression. -/
def Token.regex : Token → List Char
  | anyRun => ['.', '*']
  | anyOne => ['.']
  | literal c => quote c

/-- The regular expression for a row of tokens, anchored at both ends. -/
def regexOf (row : List Token) : String :=
  String.ofList (['(', '?', 's', ')', '^'] ++ row.flatMap Token.regex ++ ['$'])

end Percolator.Like
