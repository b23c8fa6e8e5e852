import Percolator.Regex.Reader

/-!
# The readers in other words

Each reader of a part of a pattern is put in a form that proofs can take apart: a character that is
asked for is a reader of its own, what follows a letter or a sign is told by a value for that letter
or sign, and a bracket expression is read in rounds. Every statement here says that a reader is equal
to its other form.
-/

namespace Percolator.Regex

open Unicode

/-- What follows a character, if a row starts with it. -/
def expect (c : Char) : List Char → Option (List Char)
  | [] => none
  | d :: rest => if d = c then some rest else none

/-- The expected character is there. -/
theorem expect_cons_self (c : Char) (rest : List Char) : expect c (c :: rest) = some rest :=
  if_pos rfl

/-- Another character is there, or none. -/
theorem expect_eq_none {c : Char} {row : List Char} (h : ∀ rest, row = c :: rest → False) :
    expect c row = none := by
  cases row with
  | nil => rfl
  | cons d rest => exact if_neg fun hd => h rest (by rw [hd])

/-- Where the expected character was found, the row starts with it. -/
theorem eq_cons_of_expect {c : Char} {row rest : List Char} (h : expect c row = some rest) :
    row = c :: rest := by
  cases row with
  | nil => cases h
  | cons d row =>
    rw [expect] at h
    split at h
    · rename_i hd
      rw [hd, Option.some.inj h]
    · cases h

/-- A number stands between braces, or has as many digits as its letter asks for. -/
theorem readHex_eq (flags : Flags) (letter : Char) (row : List Char) :
    readHex flags letter row =
      match expect '\x7b' (flags.skip row) with
      | some rest =>
        let digits := flags.collect isHexDigit rest.length (flags.skip rest)
        match expect '\x7d' digits.2 with
        | some rest =>
          if digits.1.isEmpty then none
          else (charOfCode? (hexValue digits.1)).map fun c => (.literal c false, rest)
        | none => none
      | none =>
        let digits := flags.collect isHexDigit (hexWidth letter) (flags.skip row)
        if digits.1.length = hexWidth letter then
          (charOfCode? (hexValue digits.1)).map fun c => (.literal c (letter = 'x'), digits.2)
        else none := by
  unfold readHex
  split
  · rename_i rest hbrace
    rw [hbrace, expect_cons_self]
    dsimp only
    generalize flags.collect isHexDigit rest.length (flags.skip rest) = digits
    obtain ⟨digits, after⟩ := digits
    split
    · rename_i heq
      cases heq
      rw [expect_cons_self]
    · rename_i hno
      rw [expect_eq_none fun rest heq => hno digits rest (Prod.ext rfl heq)]
  · rename_i hno
    rw [expect_eq_none hno]

/-- What a property is looked up for, and the rest of the row. -/
def lookUp? (flags : Flags) (row : List Char) : Option ((Selection × Bool) × List Char) :=
  match expect '\x7b' (flags.skip row) with
  | some rest =>
    let name := flags.collect (· != '\x7d') rest.length (flags.skip rest)
    match expect '\x7d' name.2 with
    | some rest => (findProperty name.1).map (·, rest)
    | none => none
  | none =>
    match flags.skip row with
    | [] => none
    | c :: rest =>
      if c = '\\' then none
      else (findNamed [c]).map fun selection => ((selection, false), rest)

/-- A property selects characters if the flags allow for it. -/
theorem readProperty_eq (flags : Flags) (negated : Bool) (row : List Char) :
    readProperty flags negated row = (lookUp? flags row).bind fun found =>
      if flags.unicode then
        some (.set (.complIf (negated != found.1.2) (flags.fold (.ofSelection found.1.1))), found.2)
      else none := by
  unfold readProperty lookUp?
  extract_lets finish
  have hfinish : finish = fun found => if flags.unicode then
      some (.set (.complIf (negated != found.1.2) (flags.fold (.ofSelection found.1.1))), found.2)
    else none := rfl
  rw [← hfinish]
  split
  · rename_i rest hbrace
    rw [hbrace, expect_cons_self]
    dsimp only
    generalize flags.collect (· != '\x7d') rest.length (flags.skip rest) = name
    obtain ⟨name, after⟩ := name
    split
    · rename_i heq
      cases heq
      rw [expect_cons_self]
      rfl
    · rename_i hno
      rw [expect_eq_none fun rest heq => hno name rest (Prod.ext rfl heq)]
      rfl
  · rename_i hslash
    rw [hslash]
    rfl
  · rename_i c rest hbrace hslash hc
    rw [hc, expect_eq_none fun _ heq => hbrace (List.cons.inj heq).1]
    dsimp only
    rw [if_neg hslash]
    rfl
  · rename_i hnil
    rw [hnil]
    rfl

/-- Whether a character may stand in the name of a word place. -/
def isNamePart (c : Char) : Bool := c.isAlpha || c = '-'

/-- A name between braces tells the side of the word; an open brace without a name belongs to what
comes next. -/
theorem readBoundary_eq (flags : Flags) (row : List Char) :
    readBoundary flags row =
      match expect '\x7b' row with
      | some rest =>
        match flags.skip rest with
        | [] => none
        | c :: _ =>
          if isNamePart c then
            let name := flags.collect isNamePart rest.length (flags.skip rest)
            match expect '\x7d' name.2 with
            | some rest =>
              (wordPlace? name.1).map fun place => (.word place (!flags.unicode), rest)
            | none => none
          else some (.word .boundary (!flags.unicode), row)
      | none => some (.word .boundary (!flags.unicode), row) := by
  unfold readBoundary
  extract_lets plain isPart
  have hpart : isPart = isNamePart := rfl
  rw [hpart]
  split
  · rename_i rest
    rw [expect_cons_self]
    dsimp only
    cases flags.skip rest with
    | nil => rfl
    | cons c more =>
      dsimp only
      by_cases hc : isNamePart c = true
      · rw [if_pos hc, if_pos hc]
        generalize flags.collect isNamePart rest.length (c :: more) = name
        obtain ⟨name, after⟩ := name
        split
        · rename_i heq
          cases heq
          rw [expect_cons_self]
        · rename_i hno
          rw [expect_eq_none fun rest heq => hno name rest (Prod.ext rfl heq)]
      · rw [if_neg hc, if_neg hc]
  · rename_i hno
    rw [expect_eq_none hno]

/-- What the letter of an escape asks for. -/
inductive EscapeLetter where
  | hex (letter : Char)
  | property (negated : Bool)
  | boundary
  /-- Nothing more; the letter alone has a meaning, or none. -/
  | alone (meaning : Option Escape)

/-- What a letter behind a backslash asks for. -/
def escapeLetter (flags : Flags) (c : Char) : EscapeLetter :=
  if isEscapable c then .alone (some (.literal c false))
  else match c with
    | 'x' | 'u' | 'U' => .hex c
    | 'p' => .property false
    | 'P' => .property true
    | 'd' | 's' | 'w' | 'D' | 'S' | 'W' => .alone ((classSet? flags c).map .set)
    | 'a' => .alone (some (.literal '\x07' false))
    | 'f' => .alone (some (.literal '\x0C' false))
    | 't' => .alone (some (.literal '\t' false))
    | 'n' => .alone (some (.literal '\n' false))
    | 'r' => .alone (some (.literal '\r' false))
    | 'v' => .alone (some (.literal '\x0B' false))
    | 'A' => .alone (some (.look .textStart))
    | 'z' => .alone (some (.look .textEnd))
    | 'b' => .boundary
    | 'B' => .alone (some (.look (.word .inside (!flags.unicode))))
    | '<' => .alone (some (.look (.word .start (!flags.unicode))))
    | '>' => .alone (some (.look (.word .finish (!flags.unicode))))
    | _ => .alone none

/-- An escape is read by what its letter asks for. -/
theorem readEscape_cons (flags : Flags) (c : Char) (rest : List Char) :
    readEscape flags (c :: rest) =
      match escapeLetter flags c with
      | .hex letter => readHex flags letter rest
      | .property negated => readProperty flags negated rest
      | .boundary => (readBoundary flags rest).map fun (assertion, rest) => (.look assertion, rest)
      | .alone meaning => meaning.map (·, rest) := by
  unfold readEscape escapeLetter
  dsimp only
  split
  · rfl
  · split
    case h_24 => simp only [*, Option.map_none]
    all_goals first
      | rfl
      | cases classSet? flags _ <;> rfl

/-- The caret at the start of a bracket expression, if there is one. -/
def splitCaret (flags : Flags) (row : List Char) : Bool × List Char :=
  match expect '^' row with
  | some rest => (true, flags.skip rest)
  | none => (false, row)

/-- A caret at the start negates a bracket expression. -/
theorem splitCaret_eq (flags : Flags) (row : List Char) :
    splitCaret flags row =
      match row with
      | '^' :: rest => (true, flags.skip rest)
      | _ => (false, row) := by
  unfold splitCaret
  split
  · rename_i hsign
    rw [eq_cons_of_expect hsign]
    rfl
  · rename_i hno
    split
    · rw [expect_cons_self] at hno
      cases hno
    · rfl

/-- The hyphens at the start of a bracket expression, or else a closing bracket. -/
def splitSigns (flags : Flags) (row : List Char) : List Char × List Char :=
  let hyphens := flags.collect (· = '-') row.length row
  if hyphens.1.isEmpty then flags.collect (· = ']') 1 hyphens.2 else hyphens

/-- A bracket expression starts with a caret, hyphens or a closing bracket, each of which may be
missing. -/
theorem openBracket?_eq (flags : Flags) (row : List Char) :
    openBracket? flags row =
      (let caret := splitCaret flags (flags.skip row)
      let signs := splitSigns flags caret.2
      if signs.2.isEmpty then none
      else (signs.1.mapM fun c => memberSet? flags c c).map fun members =>
        (⟨caret.1, none, members.map (⟨·, 0⟩)⟩, signs.2)) := by
  unfold openBracket?
  extract_lets start caret signs
  split
  rename_i negated row' heq
  have hcaret : caret = (negated, row') := (splitCaret_eq flags start).trans heq
  simp only [signs, hcaret, splitSigns]
  generalize flags.collect (fun x => decide (x = '-')) row'.length row' = hyphens
  by_cases h : hyphens.1.isEmpty = true
  · rw [if_pos h, if_pos h, List.isEmpty_iff.1 h, List.nil_append]
    generalize flags.collect (fun x => decide (x = ']')) 1 hyphens.2 = brackets
    split
    · rfl
    · exact (Option.map_eq_bind ..).symm
  · rw [if_neg h, if_neg h, List.append_nil]
    split
    · rfl
    · exact (Option.map_eq_bind ..).symm
/-- The name of a named class and the signs behind it. -/
def readClassName? (flags : Flags) (negated : Bool) (row : List Char) :
    Option (Option CharSet × List Char) :=
  ((expect ':' (row.dropWhile (· != ':'))).bind (expect ']')).bind fun rest =>
    (CharSet.posix? (row.takeWhile (· != ':'))).map fun set =>
      (if negated && !flags.unicode then none else some (.complIf negated (flags.fold set)), rest)

/-- A named class stands between colons, perhaps with a caret before the name. -/
theorem namedClass?_eq (flags : Flags) (row : List Char) :
    namedClass? flags row =
      (expect ':' row).bind fun rest =>
        match expect '^' rest with
        | some rest => readClassName? flags true rest
        | none => readClassName? flags false rest := by
  unfold namedClass?
  extract_lets finish
  have hfinish : ∀ negated rest, finish (negated, rest) = readClassName? flags negated rest := by
    intro negated rest
    simp only [finish, readClassName?]
    split
    · rename_i hdrop
      rw [hdrop, expect_cons_self, Option.bind_some, expect_cons_self]
      exact (Option.map_eq_bind ..).symm
    · rename_i hno
      cases hcolon : expect ':' (rest.dropWhile (· != ':')) with
      | none => rfl
      | some after =>
        have hdrop := eq_cons_of_expect hcolon
        rw [Option.bind_some, expect_eq_none fun _ heq => hno _ (by rw [hdrop, heq])]
        rfl
  split
  · rw [expect_cons_self, Option.bind_some, expect_cons_self]
    exact hfinish _ _
  · rename_i rest hno
    rw [expect_cons_self, Option.bind_some, expect_eq_none hno]
    exact hfinish _ _
  · rename_i hno
    rw [expect_eq_none hno]
    rfl

/-- Looking past a hyphen passes over blanks and over the sign of one comment. -/
theorem peekRange_eq (flags : Flags) (row : List Char) :
    peekRange flags row =
      if flags.verbose then
        match expect '#' (row.dropWhile isSpace) with
        | some rest => (rest.dropWhile isSpace).head?
        | none => (row.dropWhile isSpace).head?
      else row.head? := by
  unfold peekRange
  split
  · split
    · rename_i hsign
      rw [hsign, expect_cons_self]
    · rename_i hno
      rw [expect_eq_none hno]
  · rfl

/-- A member that starts with a character, up to the sign that would make it a range. -/
def memberAlone? (flags : Flags) : Escape → Option CharSet
  | .literal c _ => memberSet? flags c c
  | .set set => some set
  | .look _ => none

/-- The range from one member to another. -/
def rangeTo? (flags : Flags) : Escape → Escape → Option CharSet
  | .literal first _, .literal last _ => if first ≤ last then memberSet? flags first last else none
  | _, _ => none

/-- What follows the first member of a possible range. -/
def readRangeEnd (flags : Flags) (first : Escape) (row : List Char) :
    Option (CharSet × List Char) :=
  match flags.skip row with
  | [] => none
  | c :: rest =>
    if c = '-' then
      if peekRange flags rest = some ']' || peekRange flags rest = some '-' then
        (memberAlone? flags first).map (·, '-' :: rest)
      else match flags.skip rest with
        | [] => none
        | d :: rest => (readMember flags d rest).bind fun last =>
            (rangeTo? flags first last.1).map (·, last.2)
    else (memberAlone? flags first).map (·, c :: rest)

/-- A range is a member with an end behind it. -/
theorem readRange_eq (flags : Flags) (c : Char) (rest : List Char) :
    readRange flags c rest =
      (readMember flags c rest).bind fun first => readRangeEnd flags first.1 first.2 := by
  unfold readRange
  congr 1
  funext found
  obtain ⟨first, row⟩ := found
  unfold readRangeEnd
  dsimp only
  split
  · rename_i hnil
    rw [hnil]
  · rename_i rest hminus
    rw [hminus]
    dsimp only
    rw [if_pos rfl]
    split
    · cases first <;> rfl
    · cases flags.skip rest with
      | nil => rfl
      | cons d rest =>
        dsimp only
        cases readMember flags d rest with
        | none => rfl
        | some found =>
          obtain ⟨last, row⟩ := found
          cases first with
          | literal first byte =>
            cases last with
            | literal last byte =>
              show (if first ≤ last then (memberSet? flags first last).map (·, row) else none) =
                (if first ≤ last then memberSet? flags first last else none).map (·, row)
              split <;> rfl
            | set set => rfl
            | look assertion => rfl
          | set set => cases last <;> rfl
          | look assertion => cases last <;> rfl
  · rename_i hno hnil
    cases hrow : flags.skip row with
    | nil => exact absurd hrow hno
    | cons d rest =>
      dsimp only
      rw [if_neg fun hd => hnil rest (by rw [hrow, hd])]
      cases first <;> rfl

/-- What one round of reading bracket expressions leads to. -/
inductive BracketRound where
  /-- The outermost expression is closed. -/
  | closed (described : Described)
  /-- There is more to read in the innermost open expression and those around it. -/
  | open (bracket : OpenBracket) (outer : List OpenBracket)

/-- The operator sign that a character starts, if it does. -/
def operatorSign? (c : Char) (rest : List Char) : Option (SetOperator × List Char) :=
  if c = '&' then (expect '&' rest).map (.intersection, ·)
  else if c = '-' then (expect '-' rest).map (.difference, ·)
  else if c = '~' then (expect '~' rest).map (.symmetricDifference, ·)
  else none

/-- One round of reading bracket expressions, from a character that is not skipped. -/
def bracketRound? (flags : Flags) (bracket : OpenBracket) (outer : List OpenBracket) (c : Char)
    (rest : List Char) : Option (BracketRound × List Char) :=
  if c = '[' then
    match namedClass? flags rest with
    | some (none, _) => none
    | some (some set, rest) => some (.open (bracket.add ⟨set, 0⟩) outer, rest)
    | none =>
      (openBracket? flags rest).map fun (inner, rest) => (.open inner (bracket :: outer), rest)
  else if c = ']' then
    (bracket.close? flags).map fun described =>
      match outer with
      | [] => (.closed described, rest)
      | around :: outer => (.open (around.add described) outer, rest)
  else
    match operatorSign? c rest with
    | some (operator, rest) => some (.open (bracket.operate operator) outer, rest)
    | none =>
      (readRange flags c rest).map fun (set, rest) => (.open (bracket.add ⟨set, 0⟩) outer, rest)

/-- Brackets are read round by round until the outermost is closed. -/
theorem readBrackets_succ (flags : Flags) (fuel : Nat) (bracket : OpenBracket)
    (outer : List OpenBracket) (row : List Char) :
    readBrackets flags (fuel + 1) bracket outer row =
      match flags.skip row with
      | [] => none
      | c :: rest =>
        match bracketRound? flags bracket outer c rest with
        | none => none
        | some (.closed described, rest) => some (described, rest)
        | some (.open bracket outer, rest) => readBrackets flags fuel bracket outer rest := by
  rw [readBrackets]
  cases flags.skip row with
  | nil => rfl
  | cons c rest =>
    dsimp only
    split
    · rename_i heq
      cases heq
    · rename_i heq
      cases heq
      rw [bracketRound?, if_pos rfl]
      cases namedClass? flags rest with
      | none => cases openBracket? flags rest <;> rfl
      | some found =>
        obtain ⟨set, rest⟩ := found
        cases set <;> rfl
    · rename_i heq
      cases heq
      rw [bracketRound?, if_neg (by decide), if_pos rfl]
      cases bracket.close? flags with
      | none => rfl
      | some described => cases outer <;> rfl
    · rename_i heq
      cases heq
      rfl
    · rename_i heq
      cases heq
      rfl
    · rename_i heq
      cases heq
      rfl
    · rename_i hopen hclose hand hminus htilde heq
      cases heq
      have hsign : operatorSign? c rest = none := by
        unfold operatorSign?
        split
        · rename_i hc
          rw [expect_eq_none fun _ heq => hand _ hc heq]
          rfl
        · split
          · rename_i hc
            rw [expect_eq_none fun _ heq => hminus _ hc heq]
            rfl
          · split
            · rename_i hc
              rw [expect_eq_none fun _ heq => htilde _ hc heq]
              rfl
            · rfl
      rw [bracketRound?, if_neg hopen, if_neg hclose, hsign]
      cases readRange flags c rest <;> rfl

namespace Reader

/-- What follows the sign of a named group, if a row starts with it. -/
def nameSign? (row : List Char) : Option (List Char) :=
  match expect '<' row with
  | some rest => some rest
  | none => (expect 'P' row).bind (expect '<')

/-- The letters of a flag group, and what they make of a reader. -/
def readFlagGroup? (reader : Reader) (row : List Char) : Option (Reader × List Char) :=
  match readFlags [] false false reader.flags row with
  | none => none
  | some found =>
    if found.opens then some (reader.openGroup found.flags, found.rest)
    else if found.isEmpty then none
    else some ({ reader with group.flags := found.flags }.push .flags, found.rest)

/-- A question mark tells the kind of a group. -/
theorem readGroup?_eq (reader : Reader) (row : List Char) :
    reader.readGroup? row =
      match expect '?' (reader.flags.skip row) with
      | none => some (reader.openGroup reader.flags, reader.flags.skip row)
      | some rest =>
        match nameSign? rest with
        | some rest => reader.nameGroup? rest
        | none => reader.readFlagGroup? rest := by
  unfold readGroup? nameSign?
  split
  · rename_i hsign
    rw [hsign, expect_cons_self]
    rfl
  · rename_i hsign
    rw [hsign, expect_cons_self]
    rfl
  · rename_i rest hlong hshort hsign
    rw [hsign, expect_cons_self]
    dsimp only
    rw [expect_eq_none hshort]
    cases hp : expect 'P' rest with
    | none => rfl
    | some after =>
      have hname := eq_cons_of_expect hp
      rw [Option.bind_some, expect_eq_none fun _ heq => hlong _ (by rw [hname, heq])]
      rfl
  · rename_i hno
    rw [expect_eq_none hno]

/-- A question mark behind a repetition makes it lazy. -/
theorem dropLazy_eq (row : List Char) : dropLazy row = (expect '?' row).getD row := by
  unfold dropLazy
  split
  · rw [expect_cons_self]
    rfl
  · rename_i hno
    rw [expect_eq_none hno]
    rfl

/-- Two counts, or the first with a comma, or the first alone. -/
theorem readCounts?_eq (flags : Flags) (row : List Char) :
    readCounts? flags row =
      (readCount flags (flags.skip row)).1.bind fun least =>
        match expect ',' (readCount flags (flags.skip row)).2 with
        | some rest =>
          match expect '\x7d' (flags.skip rest) with
          | some rest => some (least, none, rest)
          | none =>
            (readCount flags (flags.skip rest)).1.bind fun most =>
              match expect '\x7d' (readCount flags (flags.skip rest)).2 with
              | some rest => if least ≤ most then some (least, some most, rest) else none
              | none => none
        | none =>
          (expect '\x7d' (readCount flags (flags.skip row)).2).map fun rest =>
            (least, some least, rest) := by
  unfold readCounts?
  dsimp only
  congr 1
  funext least
  generalize (readCount flags (flags.skip row)).2 = behind
  split
  · rename_i rest
    rw [expect_cons_self]
    dsimp only
    split
    · rename_i hbrace
      rw [hbrace, expect_cons_self]
      rfl
    · rename_i hno
      rw [expect_eq_none hno]
      dsimp only
      congr 1
      funext most
      generalize (readCount flags (flags.skip rest)).2 = behind
      split
      · rw [expect_cons_self]
        rfl
      · rename_i hno
        rw [expect_eq_none hno]
  · rw [expect_eq_none fun _ heq => absurd (List.cons.inj heq).1 (by decide), expect_cons_self]
    rfl
  · rename_i hcomma hbrace
    rw [expect_eq_none hcomma, expect_eq_none hbrace]
    rfl

/-- What the first character of an item starts. -/
inductive ItemStart where
  | opening
  | closing
  | bar
  | bracket
  /-- A sign that repeats the last part. -/
  | sign (least : Nat) (most : Option Nat)
  /-- The counts of a repetition. -/
  | counts
  | escape
  /-- Nothing more; the character alone is an item, or none. -/
  | alone (atom : Option Atom)

/-- What a character starts. -/
def itemStart (flags : Flags) (c : Char) : ItemStart :=
  match c with
  | '(' => .opening
  | ')' => .closing
  | '|' => .bar
  | '[' => .bracket
  | '?' => .sign 0 (some 1)
  | '*' => .sign 0 none
  | '+' => .sign 1 none
  | '\x7b' => .counts
  | '\\' => .escape
  | '.' => .alone flags.dot?
  | '^' => .alone (some (.look flags.caret))
  | '$' => .alone (some (.look flags.dollar))
  | c => .alone ((literalSet? flags c false).map .one)

/-- The signs that repeat a part ask for no more rounds than they allow. -/
theorem itemStart_sign {flags : Flags} {c : Char} {least : Nat} {most : Option Nat}
    (h : itemStart flags c = .sign least most) : ∀ m, most = some m → least ≤ m := by
  unfold itemStart at h
  split at h
  all_goals cases h
  · intro m hm
    cases hm
    exact Nat.zero_le 1
  · nofun
  · nofun

/-- The counts of a repetition, and the reader that repeats its last part as often. -/
def readRepetition? (reader : Reader) (rest : List Char) : Option (Reader × List Char) :=
  do
    let (least, most, rest) ← readCounts? reader.flags rest
    let repeated ← reader.repeat? least most
    return (repeated, dropLazy (repeated.flags.skip rest))

/-- The meaning of an escape as a part. -/
def readEscaped? (reader : Reader) (rest : List Char) : Option (Reader × List Char) :=
  do
    let (escape, rest) ← readEscape reader.flags rest
    let one ← atomOf? reader.flags escape
    return (reader.pushAtom one, rest)

/-- A step is taken by what its character starts. -/
theorem step_eq (reader : Reader) (c : Char) (rest : List Char) :
    reader.step c rest =
      match itemStart reader.flags c with
      | .opening => reader.readGroup? rest
      | .closing => reader.close?.map (·, rest)
      | .bar => some (reader.alternate, rest)
      | .bracket => (readBracket reader.flags rest).map fun (described, rest) =>
          (reader.push ⟨.atom (.one described.set), described.depth, true⟩, rest)
      | .sign least most => (reader.repeat? least most).map (·, dropLazy rest)
      | .counts => reader.readRepetition? rest
      | .escape => reader.readEscaped? rest
      | .alone found => found.map fun one => (reader.pushAtom one, rest) := by
  unfold step itemStart
  split
  case h_13 => simp only [*, Option.map_map, Function.comp_def]
  all_goals rfl

end Reader

end Percolator.Regex
