import Percolator.Unicode.Category
import Percolator.Unicode.Script
import Percolator.Unicode.ScriptExtension
import Percolator.Unicode.Property
import Percolator.Unicode.Age
import Percolator.Unicode.Segmentation

/-!
# Looking up character properties by name

Properties are asked for by name, as in `Greek`, `Lu` or `script=Greek`. Names are compared in a
loose way: case, blanks, underscores, hyphens and a leading `is` make no difference. A name alone is
a yes-or-no property, a general category or a script, in this order.
-/

namespace Percolator.Unicode

/-- The loose form of a name. Characters outside ASCII are dropped. The name `isc` does not lose its
`is`: its loose form is no name of a category. -/
def looseName (name : List Char) : List Char :=
  let strip (cs : List Char) : List Char :=
    (cs.filter fun c => c.toNat < 128 && c != ' ' && c != '_' && c != '-').map Char.toLower
  match name with
  | i :: s :: rest =>
    if i.toLower = 'i' && s.toLower = 's' then
      if strip rest = ['c'] then ['i', 's', 'c'] else strip rest
    else strip name
  | _ => strip name

/-- The tables of the entry with this loose name. -/
def findTables {α : Type} (entries : List (List String × α)) (name : List Char) : Option α :=
  (entries.find? fun entry => entry.1.contains (String.ofList name)).map Prod.snd

/-- The categories of assigned characters, each with its tables. -/
def assignedCategories : List (List String × List CharTable) := [
  (["lc", "casedletter"], [uppercaseLetter, lowercaseLetter, titlecaseLetter]),
  (["l", "letter"], [uppercaseLetter, lowercaseLetter, titlecaseLetter, modifierLetter,
    otherLetter]),
  (["m", "mark", "combiningmark"], [nonspacingMark, spacingMark, enclosingMark]),
  (["n", "number"], [decimalNumber, letterNumber, otherNumber]),
  (["p", "punctuation", "punct"], [connectorPunctuation, dashPunctuation, openPunctuation,
    closePunctuation, initialPunctuation, finalPunctuation, otherPunctuation]),
  (["s", "symbol"], [mathSymbol, currencySymbol, modifierSymbol, otherSymbol]),
  (["z", "separator"], [spaceSeparator, lineSeparator, paragraphSeparator]),
  (["lu", "uppercaseletter"], [uppercaseLetter]),
  (["ll", "lowercaseletter"], [lowercaseLetter]),
  (["lt", "titlecaseletter"], [titlecaseLetter]),
  (["lm", "modifierletter"], [modifierLetter]),
  (["lo", "otherletter"], [otherLetter]),
  (["mn", "nonspacingmark"], [nonspacingMark]),
  (["mc", "spacingmark"], [spacingMark]),
  (["me", "enclosingmark"], [enclosingMark]),
  (["nd", "decimalnumber", "digit"], [decimalNumber]),
  (["nl", "letternumber"], [letterNumber]),
  (["no", "othernumber"], [otherNumber]),
  (["pc", "connectorpunctuation"], [connectorPunctuation]),
  (["pd", "dashpunctuation"], [dashPunctuation]),
  (["ps", "openpunctuation"], [openPunctuation]),
  (["pe", "closepunctuation"], [closePunctuation]),
  (["pi", "initialpunctuation"], [initialPunctuation]),
  (["pf", "finalpunctuation"], [finalPunctuation]),
  (["po", "otherpunctuation"], [otherPunctuation]),
  (["sm", "mathsymbol"], [mathSymbol]),
  (["sc", "currencysymbol"], [currencySymbol]),
  (["sk", "modifiersymbol"], [modifierSymbol]),
  (["so", "othersymbol"], [otherSymbol]),
  (["zs", "spaceseparator"], [spaceSeparator]),
  (["zl", "lineseparator"], [lineSeparator]),
  (["zp", "paragraphseparator"], [paragraphSeparator]),
  (["cc", "control", "cntrl"], [control]),
  (["cf", "format"], [format]),
  (["co", "privateuse"], [privateUse])]

/-- The tables of the letters, marks, numbers, punctuation, symbols and separators. -/
def printable : List CharTable := [
  uppercaseLetter, lowercaseLetter, titlecaseLetter, modifierLetter, otherLetter, nonspacingMark,
  spacingMark, enclosingMark, decimalNumber, letterNumber, otherNumber, connectorPunctuation,
  dashPunctuation, openPunctuation, closePunctuation, initialPunctuation, finalPunctuation,
  otherPunctuation, mathSymbol, currencySymbol, modifierSymbol, otherSymbol, spaceSeparator,
  lineSeparator, paragraphSeparator]

/-- The tables of all assigned characters. -/
def assigned : List CharTable := printable ++ [control, format, privateUse]

/-- The characters that a property stands for: those in one of the tables, or, when `outside`, those
in none. -/
structure Selection where
  tables : List CharTable
  outside : Bool

/-- The characters in one of some tables. -/
def Selection.inside (tables : List CharTable) : Selection := ⟨tables, false⟩

/-- The characters of a general category, or of one of the three sets that are asked for in the same
way: all characters, the assigned ones, and ASCII. The category of other characters holds the
control characters, those for private use, and all that is unassigned. -/
def findCategory (name : List Char) : Option Selection :=
  match String.ofList name with
  | "any" => some ⟨[], true⟩
  | "assigned" => some (.inside assigned)
  | "ascii" => some (.inside [⟨#[(0, 127)]⟩])
  | "cn" | "unassigned" => some ⟨assigned, true⟩
  | "c" | "other" => some ⟨printable, true⟩
  | _ => (findTables assignedCategories name).map .inside

/-- The characters of a script. -/
def findScript (name : List Char) : Option Selection :=
  (findTables scripts name).map fun table => .inside [table]

/-- The characters that one name stands for. Three short names of categories are names of properties
as well, and mean the category. -/
def findNamed (name : List Char) : Option Selection :=
  let loose := looseName name
  let category := (findCategory loose).or (findScript loose)
  if [['c', 'f'], ['s', 'c'], ['l', 'c']].contains loose then category
  else match findTables binaryProperties loose with
    | some table => some (.inside [table])
    | none => category

/-- The characters of an edition of the character database: those added by it or by an earlier one.
-/
def findAge (name : List Char) : Option Selection :=
  let later := ages.dropWhile fun entry => !entry.1.contains (String.ofList name)
  if later.isEmpty then none
  else some (.inside ((ages.take (ages.length - later.length + 1)).map Prod.snd))

/-- The characters for which a property has a value. -/
def findValue (property value : List Char) : Option Selection :=
  let name := looseName value
  let one (entries : List (List String × CharTable)) : Option Selection :=
    (findTables entries name).map fun table => .inside [table]
  match String.ofList (looseName property) with
  | "gc" | "generalcategory" => findCategory name
  | "sc" | "script" => findScript name
  | "scx" | "scriptextensions" => one scriptExtensions
  | "age" => findAge name
  | "gcb" | "graphemeclusterbreak" => one graphemeBreaks
  | "wb" | "wordbreak" => one wordBreaks
  | "sb" | "sentencebreak" => one sentenceBreaks
  | _ => none

/-- The characters that belong to words: letters, marks, decimal digits, connecting punctuation and
the two joining controls. -/
def wordTables : List CharTable :=
  [alphabetic, nonspacingMark, spacingMark, enclosingMark, decimalNumber, connectorPunctuation,
    ⟨#[(0x200C, 0x200D)]⟩]

/-- Whether a character belongs to words. -/
def isWord (c : Char) : Bool := wordTables.any (·.contains c)

/-- Whether a character is white space. -/
def isSpace (c : Char) : Bool := whiteSpace.contains c

/-- The letters of the edition that follows the last of `ages`. Properties leave them out, but names
may hold them. -/
def nextLetters : CharTable := .ofText "
  88F C5C CDC A7CE-A7CF A7D2 A7D4 A7F1 10940-10959 10EC5-10EC7 10EFA-10EFB 11B60-11B67 11DB0-11DDB
  16EA0-16EB8 16EBB-16ED3 16FF2-16FF6 187F8-187FF 18D09-18D1E 18D80-18DF2 1E6C0-1E6DE 1E6E0-1E6F5
  1E6FE-1E6FF 2B73A-2B73F 2CEA2-2CEAD 323B0-33479"

/-- The decimal digits of that edition. -/
def nextDigits : CharTable := .ofText "11DE0-11DE9"

/-- Whether a character is a letter. -/
def isAlphabetic (c : Char) : Bool := alphabetic.contains c || nextLetters.contains c

/-- Whether a character is a letter or belongs to a number. -/
def isAlphanumeric (c : Char) : Bool :=
  isAlphabetic c ||
    [decimalNumber, letterNumber, otherNumber, nextDigits].any (·.contains c)

end Percolator.Unicode
