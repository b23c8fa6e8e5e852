import Percolator.Proofs.Regex.Reading

/-!
# What stands behind a pattern

A pattern that is anchored has a closing parenthesis and a dollar sign behind it. Each reader of a
part does the same with them behind the row as without them, but for two cases: a comment at the end
of the row takes them with it, and a part that is not complete at the end of the row may go on with
them. In the second case the reader is refused without them. Main statement: a step of the machine
that reads patterns has one of these outcomes.
-/

namespace Percolator.Regex

open Unicode

/-- The characters behind an anchored pattern. -/
def closing : List Char := [')', '$']

/-- The second row is the first one with the closing characters behind it, unless both have ended
in a comment. -/
def Behind (row row' : List Char) : Prop := row' = row ++ closing ∨ row = [] ∧ row' = []

/-- What a reader makes of a row, and of the row with the closing characters behind it: the same, or
nothing at all, or something only with the closing characters, of which it leaves no more than
`most`. -/
inductive Extends {α : Type} (most : List Char) :
    Option (α × List Char) → Option (α × List Char) → Prop where
  | read (a : α) {row row' : List Char} (h : Behind row row') :
    Extends most (some (a, row)) (some (a, row'))
  | refused : Extends most none none
  | across (a : α) {rest : List Char} (h : rest <:+ most) : Extends most none (some (a, rest))

/-- Before the closing characters. -/
theorem Behind.append (row : List Char) : Behind row (row ++ closing) := .inl rfl

/-- In a comment that goes to the end. -/
theorem Behind.ended : Behind [] [] := .inr ⟨rfl, rfl⟩

/-- Two rows have ended, or are at the closing characters, or have more before these. -/
theorem Behind.cases {row row' : List Char} (h : Behind row row') :
    (row = [] ∧ row' = []) ∨ (row = [] ∧ row' = closing) ∨
      ∃ c rest, row = c :: rest ∧ row' = c :: (rest ++ closing) := by
  rcases h with rfl | h
  · cases row with
    | nil => exact .inr (.inl ⟨rfl, rfl⟩)
    | cons c rest => exact .inr (.inr ⟨c, rest, rfl, rfl⟩)
  · exact .inl h

namespace Extends

variable {α β : Type} {most : List Char} {found found' : Option (α × List Char)}

/-- A value that does not depend on the row, before a rest. -/
theorem value {value : Option α} (f : α → β) {row row' : List Char} (h : Behind row row') :
    Extends most (value.map fun a => (f a, row)) (value.map fun a => (f a, row')) := by
  cases value with
  | none => exact .refused
  | some a => exact .read _ h

/-- Something else is made of what was found. -/
theorem map (h : Extends most found found') (f : α → β) :
    Extends most (found.map fun (a, rest) => (f a, rest))
      (found'.map fun (a, rest) => (f a, rest)) := by
  cases h with
  | read a h => exact .read _ h
  | refused => exact .refused
  | across a h => exact .across _ h

/-- One reader after another. -/
theorem bind {next : α × List Char → Option (β × List Char)} (h : Extends most found found')
    (hnext : ∀ a row row', Behind row row' → Extends most (next (a, row)) (next (a, row')))
    (hleaves : ∀ a rest, Leaves rest (next (a, rest))) :
    Extends most (found.bind next) (found'.bind next) := by
  cases h with
  | read a h => exact hnext a _ _ h
  | refused => exact .refused
  | across a h =>
    rename_i rest
    show Extends most none (next (a, rest))
    cases hfound : next (a, rest) with
    | none => exact .refused
    | some pair => exact .across _ ((hleaves a rest _ _ hfound).trans h)

/-- A weaker bound on what is left. -/
theorem mono {more : List Char} (h : Extends most found found') (hmore : most <:+ more) :
    Extends more found found' := by
  cases h with
  | read a h => exact .read a h
  | refused => exact .refused
  | across a h => exact .across a (h.trans hmore)

/-- A reader that is refused without the closing characters. -/
theorem of_leaves {rest : List Char} (h : Leaves rest found') (hrest : rest <:+ most) :
    Extends most none found' := by
  cases found' with
  | none => exact .refused
  | some pair => exact .across _ ((h _ _ rfl).trans hrest)

end Extends

/-- Blanks and comments are passed over alike; a comment at the end takes the closing characters
with it. -/
theorem behind_skipBlanks (comment : Bool) (row : List Char) :
    Behind (Flags.skipBlanks comment row) (Flags.skipBlanks comment (row ++ closing)) := by
  induction row generalizing comment with
  | nil =>
    cases comment with
    | true => exact .ended
    | false => exact .append []
  | cons c rest ih =>
    cases comment with
    | true => exact ih _
    | false =>
      rw [List.cons_append, Flags.skipBlanks, Flags.skipBlanks]
      split
      · exact ih _
      · split
        · exact ih _
        · exact .append (c :: rest)

/-- What the flags make a blank is passed over alike. -/
theorem Behind.skip {row row' : List Char} (h : Behind row row') (flags : Flags) :
    Behind (flags.skip row) (flags.skip row') := by
  unfold Flags.skip
  rcases h with rfl | ⟨rfl, rfl⟩
  · split
    · exact behind_skipBlanks false row
    · exact .append row
  · split <;> exact .ended

/-- Characters of a kind are passed over alike, if the parenthesis is not of the kind. -/
theorem Behind.dropWhile {row row' : List Char} (h : Behind row row') {ofKind : Char → Bool}
    (hkind : ofKind ')' = false) : Behind (row.dropWhile ofKind) (row'.dropWhile ofKind) := by
  rcases h with rfl | ⟨rfl, rfl⟩
  · rw [List.dropWhile_append]
    split
    · rename_i hempty
      rw [List.isEmpty_iff.1 hempty, closing, List.dropWhile_cons_of_neg]
      · exact .append []
      · rw [hkind]
        exact Bool.false_ne_true
    · exact .append _
  · exact .ended

/-- A limit that is not below the length of a row changes nothing. -/
theorem collect_limit (flags : Flags) (ofKind : Char → Bool) {limit limit' : Nat} {row : List Char}
    (h : row.length ≤ limit) (h' : row.length ≤ limit') :
    flags.collect ofKind limit row = flags.collect ofKind limit' row := by
  induction limit generalizing limit' row with
  | zero =>
    rw [List.length_eq_zero_iff.1 (Nat.le_zero.1 h)]
    cases limit' <;> rfl
  | succ limit ih =>
    cases row with
    | nil => cases limit' <;> rfl
    | cons c rest =>
      obtain ⟨limit', rfl⟩ : ∃ n, limit' = n + 1 := ⟨limit' - 1, by simp at h'; omega⟩
      have hlength := (skip_suffix flags rest).length_le
      rw [List.length_cons] at h h'
      rw [Flags.collect, Flags.collect, ih (by omega) (by omega : _ ≤ limit')]

/-- Characters of a kind without the closing parenthesis are collected alike. -/
theorem Behind.collect {row row' : List Char} (h : Behind row row') (flags : Flags)
    (ofKind : Char → Bool) (hkind : ofKind ')' = false) (limit : Nat) :
    (flags.collect ofKind limit row').1 = (flags.collect ofKind limit row).1 ∧
      Behind (flags.collect ofKind limit row).2 (flags.collect ofKind limit row').2 := by
  induction limit generalizing row row' with
  | zero => exact ⟨rfl, h⟩
  | succ limit ih =>
    rcases h.cases with ⟨rfl, rfl⟩ | ⟨rfl, rfl⟩ | ⟨c, rest, rfl, rfl⟩
    · exact ⟨rfl, .ended⟩
    · have hstop : flags.collect ofKind (limit + 1) closing = ([], closing) := by
        rw [closing, Flags.collect, if_neg (by rw [hkind]; exact Bool.false_ne_true)]
      rw [hstop]
      exact ⟨rfl, .append []⟩
    · rw [Flags.collect, Flags.collect]
      split
      · obtain ⟨hfound, hrest⟩ := ih ((Behind.append rest).skip flags)
        exact ⟨congrArg (c :: ·) hfound, hrest⟩
      · exact ⟨rfl, .append (c :: rest)⟩

/-- The same, where the limits are the lengths of the rows. -/
theorem Behind.collectAll {row row' : List Char} (h : Behind row row') (flags : Flags)
    (ofKind : Char → Bool) (hkind : ofKind ')' = false) {limit limit' : Nat}
    (hl : row.length ≤ limit) (hl' : row'.length ≤ limit') :
    (flags.collect ofKind limit' row').1 = (flags.collect ofKind limit row).1 ∧
      Behind (flags.collect ofKind limit row).2 (flags.collect ofKind limit' row').2 := by
  have hmax : flags.collect ofKind limit row = flags.collect ofKind (max limit limit') row :=
    collect_limit flags ofKind hl (Nat.le_trans hl (Nat.le_max_left _ _))
  have hmax' : flags.collect ofKind limit' row' = flags.collect ofKind (max limit limit') row' :=
    collect_limit flags ofKind hl' (Nat.le_trans hl' (Nat.le_max_right _ _))
  rw [hmax, hmax']
  exact h.collect flags ofKind hkind _

/-- Where the closing characters are of the kind, they are collected with all the rest, unless
another character stops the collection before them. -/
theorem Behind.collectTo {row row' : List Char} (h : Behind row row') (flags : Flags)
    (ofKind : Char → Bool) (hkind : ofKind ')' = true ∧ ofKind '$' = true) {limit : Nat}
    (hl : row'.length ≤ limit) :
    (∃ c rest, (flags.collect ofKind limit row).2 = c :: rest ∧
        flags.collect ofKind limit row' =
          ((flags.collect ofKind limit row).1, c :: (rest ++ closing))) ∨
      ((flags.collect ofKind limit row).2 = [] ∧ (flags.collect ofKind limit row').2 = []) := by
  induction limit generalizing row row' with
  | zero =>
    obtain rfl := List.length_eq_zero_iff.1 (Nat.le_zero.1 hl)
    rcases h.cases with ⟨rfl, -⟩ | ⟨-, heq⟩ | ⟨c, rest, -, heq⟩
    · exact .inr ⟨rfl, rfl⟩
    · cases heq
    · cases heq
  | succ limit ih =>
    rcases h.cases with ⟨rfl, rfl⟩ | ⟨rfl, rfl⟩ | ⟨c, rest, rfl, rfl⟩
    · exact .inr ⟨rfl, rfl⟩
    · refine .inr ⟨rfl, ?_⟩
      obtain ⟨limit, rfl⟩ : ∃ n, limit = n + 1 := ⟨limit - 1, by simp [closing] at hl; omega⟩
      rw [closing, Flags.collect, if_pos hkind.1, skip_of_solid rfl (by decide), Flags.collect,
        if_pos hkind.2, skip_nil]
      cases limit <;> rfl
    · have hlength := (skip_suffix flags (rest ++ closing)).length_le
      rw [List.length_cons] at hl
      rw [Flags.collect, Flags.collect]
      split
      · rcases ih ((Behind.append rest).skip flags) (by omega) with ⟨d, rest', hd, hd'⟩ | hnone
        · exact .inl ⟨d, rest', hd, by rw [hd']⟩
        · exact .inr hnone
      · exact .inl ⟨c, rest, rfl, rfl⟩

/-- A character other than the closing parenthesis is found in both rows or in none. -/
theorem Behind.expect {row row' : List Char} (h : Behind row row') {c : Char} (hc : c ≠ ')') :
    (∃ rest, expect c row = some rest ∧ expect c row' = some (rest ++ closing)) ∨
      (expect c row = none ∧ expect c row' = none) := by
  rcases h.cases with ⟨rfl, rfl⟩ | ⟨rfl, rfl⟩ | ⟨d, rest, rfl, rfl⟩
  · exact .inr ⟨rfl, rfl⟩
  · exact .inr ⟨rfl, if_neg (Ne.symm hc)⟩
  · by_cases hd : d = c
    · exact .inl ⟨rest, if_pos hd, if_pos hd⟩
    · exact .inr ⟨if_neg hd, if_neg hd⟩

/-- A number may lack its digits or its closing brace. -/
theorem extends_readHex {row row' : List Char} (h : Behind row row') (flags : Flags)
    (letter : Char) : Extends ['$'] (readHex flags letter row) (readHex flags letter row') := by
  have hskip := h.skip flags
  have hkind : isHexDigit ')' = false := by decide
  rw [readHex_eq, readHex_eq]
  rcases hskip.expect (by decide : '\x7b' ≠ ')') with ⟨rest, hrest, hrest'⟩ | ⟨hno, hno'⟩
  · obtain ⟨hdigits, hafter⟩ := ((Behind.append rest).skip flags).collectAll flags _ hkind
      (skip_suffix flags rest).length_le (skip_suffix flags (rest ++ closing)).length_le
    rw [hrest, hrest']
    dsimp only
    rw [hdigits]
    rcases hafter.expect (by decide : '\x7d' ≠ ')') with ⟨after, hend, hend'⟩ | ⟨hend, hend'⟩
    · rw [hend, hend']
      dsimp only
      split
      · exact .refused
      · exact .value _ (.append after)
    · rw [hend, hend']
      exact .refused
  · obtain ⟨hdigits, hafter⟩ := hskip.collect flags isHexDigit hkind (hexWidth letter)
    rw [hno, hno']
    dsimp only
    rw [hdigits]
    split
    · exact .value _ hafter
    · exact .refused

/-- The name of a property may lack its letter or its closing brace. -/
theorem extends_lookUp? {row row' : List Char} (h : Behind row row') (flags : Flags) :
    Extends ['$'] (lookUp? flags row) (lookUp? flags row') := by
  have hskip := h.skip flags
  unfold lookUp?
  rcases hskip.expect (by decide : '\x7b' ≠ ')') with ⟨rest, hrest, hrest'⟩ | ⟨hno, hno'⟩
  · have hname := (Behind.append rest).skip flags
    have hlength : (flags.skip rest).length ≤ (rest ++ closing).length :=
      Nat.le_trans (skip_suffix flags rest).length_le (by simp)
    rw [hrest, hrest']
    dsimp only
    rw [collect_limit flags _ (skip_suffix flags rest).length_le hlength]
    rcases hname.collectTo flags (· != '\x7d') (by decide)
        (skip_suffix flags (rest ++ closing)).length_le with ⟨c, after, hc, hc'⟩ | ⟨hnil, hnil'⟩
    · rw [hc, hc']
      by_cases hd : c = '\x7d'
      · rw [hd, expect_cons_self, expect_cons_self]
        exact .value _ (.append after)
      · rw [expect_eq_none fun _ heq => hd (List.cons.inj heq).1,
          expect_eq_none fun _ heq => hd (List.cons.inj heq).1]
        exact .refused
    · rw [hnil, hnil']
      exact .refused
  · rw [hno, hno']
    dsimp only
    rcases hskip.cases with ⟨hnil, hnil'⟩ | ⟨hnil, hclosing⟩ | ⟨c, rest, hc, hc'⟩
    · rw [hnil, hnil']
      exact .refused
    · rw [hnil, hclosing]
      show Extends _ none ((findNamed [')']).map fun selection => ((selection, false), ['$']))
      exact .of_leaves (Leaves.map_of_suffix (fun _ => rfl) (List.suffix_refl _))
        (List.suffix_refl _)
    · rw [hc, hc']
      dsimp only
      split
      · exact .refused
      · exact .value _ (.append rest)

/-- So may the property that it selects. -/
theorem extends_readProperty {row row' : List Char} (h : Behind row row') (flags : Flags)
    (negated : Bool) :
    Extends ['$'] (readProperty flags negated row) (readProperty flags negated row') := by
  rw [readProperty_eq, readProperty_eq]
  refine (extends_lookUp? h flags).bind (fun found rest rest' hrest => ?_) fun found rest => ?_
  · dsimp only
    split
    · exact .read _ hrest
    · exact .refused
  · dsimp only
    split
    · exact .some (List.suffix_refl _)
    · exact .none

/-- A reader stops before a brace with nothing but the closing characters behind it, and would be
refused without these. -/
def Stranded {α : Type} (flags : Flags) (found found' : Option (α × List Char)) (a : α) : Prop :=
  found = none ∧ ∃ rest, found' = some (a, '\x7b' :: rest) ∧ flags.skip rest = closing

/-- A boundary of words may also be stranded before an open brace. -/
theorem extends_readBoundary {row row' : List Char} (h : Behind row row') (flags : Flags) :
    Extends ['$'] (readBoundary flags row) (readBoundary flags row') ∨
      ∃ a, Stranded flags (readBoundary flags row) (readBoundary flags row') a := by
  have hkind : isNamePart ')' = false := by decide
  rw [readBoundary_eq, readBoundary_eq]
  rcases h.expect (by decide : '\x7b' ≠ ')') with ⟨rest, hrest, hrest'⟩ | ⟨hno, hno'⟩
  · have hname := (Behind.append rest).skip flags
    rw [hrest, hrest']
    dsimp only
    rcases hname.cases with ⟨hnil, hnil'⟩ | ⟨hnil, hclosing⟩ | ⟨c, after, hc, hc'⟩
    · rw [hnil, hnil']
      exact .inl .refused
    · rw [hnil, hclosing]
      refine .inr ⟨.word .boundary (!flags.unicode), rfl, rest ++ closing, ?_, hclosing⟩
      rw [eq_cons_of_expect hrest']
      rfl
    · obtain ⟨hfound, hafter⟩ := hname.collectAll flags _ hkind
        (skip_suffix flags rest).length_le (skip_suffix flags (rest ++ closing)).length_le
      rw [hfound, hc, hc']
      dsimp only
      left
      split
      · rw [← hc, ← hc']
        rcases hafter.expect (by decide : '\x7d' ≠ ')') with ⟨end_, hend, hend'⟩ | ⟨hend, hend'⟩
        · rw [hend, hend']
          exact .value _ (.append end_)
        · rw [hend, hend']
          exact .refused
      · exact .read _ h
  · rw [hno, hno']
    exact .inl (.read _ h)

/-- What stands behind a backslash may be missing, and a boundary may be stranded. -/
theorem extends_readEscape {row row' : List Char} (h : Behind row row') (flags : Flags) :
    Extends ['$'] (readEscape flags row) (readEscape flags row') ∨
      ∃ a, Stranded flags (readEscape flags row) (readEscape flags row') (.look a) := by
  rcases h.cases with ⟨rfl, rfl⟩ | ⟨rfl, rfl⟩ | ⟨c, rest, rfl, rfl⟩
  · exact .inl .refused
  · exact .inl (.across _ (List.suffix_refl _))
  · have hrest := Behind.append rest
    rw [readEscape_cons, readEscape_cons]
    cases escapeLetter flags c with
    | hex letter => exact .inl (extends_readHex hrest flags letter)
    | property negated => exact .inl (extends_readProperty hrest flags negated)
    | boundary =>
      rcases extends_readBoundary hrest flags with hread | ⟨a, hnone, after, hafter, hskip⟩
      · exact .inl (hread.map Escape.look)
      · refine .inr ⟨a, ?_, after, ?_, hskip⟩
        · dsimp only
          rw [hnone]
          rfl
        · dsimp only
          rw [hafter]
          rfl
    | alone meaning => exact .inl (.value id hrest)

/-- So may a member of a bracket expression. -/
theorem extends_readMember {rest rest' : List Char} (h : Behind rest rest') (flags : Flags)
    (c : Char) : Extends ['$'] (readMember flags c rest) (readMember flags c rest') ∨
      ∃ a, Stranded flags (readMember flags c rest) (readMember flags c rest') (.look a) := by
  unfold readMember
  split
  · exact extends_readEscape h flags
  · exact .inl (.read _ h)

/-- The first characters are the same unless the first row has ended. -/
theorem Behind.head? {row row' : List Char} (h : Behind row row') :
    row'.head? = row.head? ∨ row.head? = none ∧ row'.head? = some ')' := by
  rcases h.cases with ⟨rfl, rfl⟩ | ⟨rfl, rfl⟩ | ⟨c, rest, rfl, rfl⟩
  · exact .inl rfl
  · exact .inr ⟨rfl, rfl⟩
  · exact .inl rfl

/-- What is looked at behind a hyphen is the same in both rows, or the closing parenthesis. -/
theorem Behind.peekRange {row row' : List Char} (h : Behind row row') (flags : Flags) :
    peekRange flags row' = peekRange flags row ∨
      peekRange flags row = none ∧ peekRange flags row' = some ')' := by
  have hblank : isSpace ')' = false := by decide
  rw [peekRange_eq, peekRange_eq]
  split
  · have hdrop := h.dropWhile hblank
    rcases hdrop.expect (by decide : '#' ≠ ')') with ⟨rest, hrest, hrest'⟩ | ⟨hno, hno'⟩
    · rw [hrest, hrest']
      exact ((Behind.append rest).dropWhile hblank).head?
    · rw [hno, hno']
      exact hdrop.head?
  · exact h.head?

/-- A range may lack its end. -/
theorem extends_readRangeEnd {row row' : List Char} (h : Behind row row') (flags : Flags)
    (first : Escape) :
    Extends closing (readRangeEnd flags first row) (readRangeEnd flags first row') := by
  have hskip := h.skip flags
  unfold readRangeEnd
  rcases hskip.cases with ⟨hnil, hnil'⟩ | ⟨hnil, hclosing⟩ | ⟨c, rest, hc, hc'⟩
  · rw [hnil, hnil']
    exact .refused
  · rw [hnil, hclosing]
    exact .of_leaves (Leaves.map_of_suffix (fun _ => rfl) (List.suffix_refl _))
      (List.suffix_refl _)
  · rw [hc, hc']
    dsimp only
    split
    · have hpeek : (decide (peekRange flags (rest ++ closing) = some ']') ||
          decide (peekRange flags (rest ++ closing) = some '-')) =
          (decide (peekRange flags rest = some ']') ||
            decide (peekRange flags rest = some '-')) := by
        rcases (Behind.append rest).peekRange flags with heq | ⟨hnone, hsome⟩
        · rw [heq]
        · rw [hnone, hsome]
          rfl
      rw [hpeek]
      split
      · exact .value _ (.append ('-' :: rest))
      · rcases ((Behind.append rest).skip flags).cases with
          ⟨hnil, hnil'⟩ | ⟨hnil, hclosing⟩ | ⟨d, after, hd, hd'⟩
        · rw [hnil, hnil']
          exact .refused
        · rw [hnil, hclosing]
          refine .of_leaves ?_ (List.suffix_cons ')' ['$'])
          exact (leaves_readMember flags ')' ['$']).bind fun last rest _ =>
            Leaves.map_of_suffix (fun _ => rfl) (List.suffix_refl _)
        · rw [hd, hd']
          dsimp only
          rcases extends_readMember (Behind.append after) flags d with
            hread | ⟨a, hnone, behind, hbehind, -⟩
          · exact (hread.mono (List.suffix_cons _ _)).bind
              (fun last row row' hrow => .value _ hrow)
              fun last row => Leaves.map_of_suffix (fun _ => rfl) (List.suffix_refl _)
          · rw [hnone, hbehind]
            cases first <;> exact .refused
    · exact .value _ (.append (c :: rest))

/-- A member of a bracket expression or a range is not stranded: a boundary is no member. -/
theorem extends_readRange {rest rest' : List Char} (h : Behind rest rest') (flags : Flags)
    (c : Char) : Extends closing (readRange flags c rest) (readRange flags c rest') := by
  rw [readRange_eq, readRange_eq]
  rcases extends_readMember h flags c with hread | ⟨a, hnone, after, hafter, -⟩
  · exact (hread.mono (List.suffix_cons _ _)).bind
      (fun first row row' hrow => extends_readRangeEnd hrow flags first)
      fun first row => leaves_readRangeEnd flags first row
  · -- An assertion is no member, and a brace behind it makes it no range.
    have hbrace : flags.skip ('\x7b' :: after) = '\x7b' :: after := skip_of_solid rfl (by decide)
    rw [hnone, hafter, Option.bind_some]
    unfold readRangeEnd
    dsimp only
    rw [hbrace]
    exact .refused

/-- A caret is found alike. -/
theorem Behind.splitCaret {row row' : List Char} (h : Behind row row') (flags : Flags) :
    (splitCaret flags row').1 = (splitCaret flags row).1 ∧
      Behind (splitCaret flags row).2 (splitCaret flags row').2 := by
  unfold Regex.splitCaret
  rcases h.expect (by decide : '^' ≠ ')') with ⟨rest, hrest, hrest'⟩ | ⟨hno, hno'⟩
  · rw [hrest, hrest']
    exact ⟨rfl, (Behind.append rest).skip flags⟩
  · rw [hno, hno']
    exact ⟨rfl, h⟩

/-- So are the hyphens or the bracket that come first. -/
theorem Behind.splitSigns {row row' : List Char} (h : Behind row row') (flags : Flags) :
    (splitSigns flags row').1 = (splitSigns flags row).1 ∧
      Behind (splitSigns flags row).2 (splitSigns flags row').2 := by
  have hhyphen : decide (')' = '-') = false := by decide
  have hbracket : decide (')' = ']') = false := by decide
  obtain ⟨hhyphens, hrest⟩ := h.collectAll flags (· = '-') hhyphen (Nat.le_refl _)
    (Nat.le_refl _)
  dsimp only [Regex.splitSigns]
  rw [hhyphens]
  split
  · exact hrest.collect flags (· = ']') hbracket 1
  · exact ⟨hhyphens, hrest⟩

/-- The start of a bracket expression may lack what comes first in it. -/
theorem extends_openBracket? {row row' : List Char} (h : Behind row row') (flags : Flags) :
    Extends closing (openBracket? flags row) (openBracket? flags row') := by
  obtain ⟨hcaret, hrow⟩ := (h.skip flags).splitCaret flags
  obtain ⟨hsigns, hrest⟩ := hrow.splitSigns flags
  rw [openBracket?_eq, openBracket?_eq]
  dsimp only
  rw [hcaret, hsigns]
  rcases hrest.cases with ⟨hnil, hnil'⟩ | ⟨hnil, hclosing⟩ | ⟨c, after, hc, hc'⟩
  · rw [hnil, hnil']
    exact .refused
  · rw [hnil, hclosing]
    exact .of_leaves (Leaves.map_of_suffix (fun _ => rfl) (List.suffix_refl _))
      (List.suffix_refl _)
  · rw [hc, hc']
    exact .value _ (.append (c :: after))

/-- Where the closing characters are of the kind, dropping the kind stops before them, or goes on to
the end. -/
theorem dropWhile_closing (ofKind : Char → Bool) (hkind : ofKind ')' = true ∧ ofKind '$' = true)
    (row : List Char) :
    (∃ c rest, row.dropWhile ofKind = c :: rest ∧
        (row ++ closing).dropWhile ofKind = c :: (rest ++ closing) ∧
        (row ++ closing).takeWhile ofKind = row.takeWhile ofKind) ∨
      (row.dropWhile ofKind = [] ∧ (row ++ closing).dropWhile ofKind = []) := by
  induction row with
  | nil =>
    refine .inr ⟨rfl, ?_⟩
    rw [List.nil_append, closing, List.dropWhile_cons_of_pos hkind.1,
      List.dropWhile_cons_of_pos hkind.2, List.dropWhile_nil]
  | cons c rest ih =>
    by_cases hc : ofKind c = true
    · rw [List.cons_append, List.dropWhile_cons_of_pos hc, List.dropWhile_cons_of_pos hc,
        List.takeWhile_cons_of_pos hc, List.takeWhile_cons_of_pos hc]
      rcases ih with ⟨d, after, hd, hd', htake⟩ | hnone
      · exact .inl ⟨d, after, hd, hd', by rw [htake]⟩
      · exact .inr hnone
    · rw [List.cons_append, List.dropWhile_cons_of_neg hc, List.dropWhile_cons_of_neg hc,
        List.takeWhile_cons_of_neg hc, List.takeWhile_cons_of_neg hc]
      exact .inl ⟨c, rest, rfl, rfl, rfl⟩

/-- A named class is found in both rows or in none. -/
theorem namedClass?_closing (flags : Flags) (row : List Char) :
    namedClass? flags (row ++ closing) =
      (namedClass? flags row).map fun (set, rest) => (set, rest ++ closing) := by
  have hname : ∀ negated row, readClassName? flags negated (row ++ closing) =
      (readClassName? flags negated row).map fun (set, rest) => (set, rest ++ closing) := by
    intro negated row
    unfold readClassName?
    rcases dropWhile_closing (· != ':') (by decide) row with
      ⟨c, rest, hc, hc', htake⟩ | ⟨hnil, hnil'⟩
    · rw [hc, hc', htake]
      by_cases hcolon : c = ':'
      · rw [hcolon, expect_cons_self, expect_cons_self, Option.bind_some, Option.bind_some]
        rcases (Behind.append rest).expect (by decide : ']' ≠ ')') with
          ⟨after, hend, hend'⟩ | ⟨hno, hno'⟩
        · rw [hend, hend', Option.bind_some, Option.bind_some, Option.map_map]
          rfl
        · rw [hno, hno']
          rfl
      · rw [expect_eq_none fun _ heq => hcolon (List.cons.inj heq).1,
          expect_eq_none fun _ heq => hcolon (List.cons.inj heq).1]
        rfl
    · rw [hnil, hnil']
      rfl
  rw [namedClass?_eq, namedClass?_eq]
  rcases (Behind.append row).expect (by decide : ':' ≠ ')') with ⟨rest, hrest, hrest'⟩ | ⟨hno, hno'⟩
  · rw [hrest, hrest', Option.bind_some, Option.bind_some]
    rcases (Behind.append rest).expect (by decide : '^' ≠ ')') with
      ⟨after, hsign, hsign'⟩ | ⟨hno, hno'⟩
    · rw [hsign, hsign']
      exact hname true after
    · rw [hno, hno']
      exact hname false rest
  · rw [hno, hno']
    rfl

/-- An operator sign is found in both rows or in none. -/
theorem operatorSign?_closing (c : Char) (rest : List Char) :
    operatorSign? c (rest ++ closing) =
      (operatorSign? c rest).map fun (operator, rest) => (operator, rest ++ closing) := by
  have hsign : ∀ (sign : Char) (operator : SetOperator), sign ≠ ')' →
      (expect sign (rest ++ closing)).map (operator, ·) =
        ((expect sign rest).map (operator, ·)).map fun (operator, rest) =>
          (operator, rest ++ closing) := by
    intro sign operator hne
    rcases (Behind.append rest).expect hne with ⟨after, hafter, hafter'⟩ | ⟨hno, hno'⟩
    · rw [hafter, hafter']
      rfl
    · rw [hno, hno']
      rfl
  unfold operatorSign?
  split
  · exact hsign _ _ (by decide)
  · split
    · exact hsign _ _ (by decide)
    · split
      · exact hsign _ _ (by decide)
      · rfl

/-- So may a round of reading it. -/
theorem extends_bracketRound? (flags : Flags) (bracket : OpenBracket) (outer : List OpenBracket)
    (c : Char) (rest : List Char) :
    Extends closing (bracketRound? flags bracket outer c rest)
      (bracketRound? flags bracket outer c (rest ++ closing)) := by
  have hrest := Behind.append rest
  unfold bracketRound?
  split
  · rw [namedClass?_closing]
    cases namedClass? flags rest with
    | none => exact (extends_openBracket? hrest flags).map (BracketRound.open · (bracket :: outer))
    | some found =>
      obtain ⟨set, after⟩ := found
      cases set with
      | none => exact .refused
      | some set => exact .read _ (.append after)
  · split
    · cases outer with
      | nil => exact .value _ hrest
      | cons around outer => exact .value _ hrest
    · rw [operatorSign?_closing]
      cases operatorSign? c rest with
      | none =>
        exact (extends_readRange hrest flags c).map fun set =>
          BracketRound.open (bracket.add ⟨set, 0⟩) outer
      | some found => exact .read _ (.append found.2)

/-- Only a closing bracket closes the outermost bracket expression. -/
theorem bracketRound?_closed {flags : Flags} {bracket : OpenBracket} {outer : List OpenBracket}
    {c : Char} {rest after : List Char} {described : Described}
    (h : bracketRound? flags bracket outer c rest = some (.closed described, after)) : c = ']' := by
  unfold bracketRound? at h
  split at h
  · split at h
    · cases h
    · cases h
    · obtain ⟨_, -, h⟩ := Option.map_eq_some_iff.1 h
      cases h
  · split at h
    · assumption
    · split at h
      · cases h
      · obtain ⟨_, -, h⟩ := Option.map_eq_some_iff.1 h
        cases h

/-- A bracket expression does not end without a closing bracket. -/
theorem readBrackets_eq_none (flags : Flags) (fuel : Nat) (bracket : OpenBracket)
    (outer : List OpenBracket) {row : List Char} (h : ']' ∉ row) :
    readBrackets flags fuel bracket outer row = none := by
  induction fuel generalizing bracket outer row with
  | zero => rfl
  | succ fuel ih =>
    rw [readBrackets_succ]
    split
    · rfl
    · rename_i c rest hskip
      have hrow : c :: rest <:+ row := hskip ▸ skip_suffix flags row
      have hround := leaves_bracketRound? flags bracket outer c rest
      split
      · rfl
      · rename_i hclosed
        exact absurd (hrow.subset (bracketRound?_closed hclosed ▸ List.mem_cons_self)) h
      · rename_i hopen
        have hrest := (hround _ _ hopen).trans ((List.suffix_cons c rest).trans hrow)
        exact ih _ _ fun hmem => h (hrest.subset hmem)

/-- Brackets are closed in both rows or in neither. -/
theorem extends_readBrackets (flags : Flags) {fuel fuel' : Nat} {row row' : List Char}
    (h : Behind row row') (hf : row.length < fuel) (hf' : row'.length < fuel')
    (bracket : OpenBracket) (outer : List OpenBracket) (most : List Char) :
    Extends most (readBrackets flags fuel bracket outer row)
      (readBrackets flags fuel' bracket outer row') := by
  induction fuel generalizing fuel' row row' bracket outer with
  | zero => omega
  | succ fuel ih =>
    obtain ⟨fuel', rfl⟩ : ∃ n, fuel' = n + 1 := ⟨fuel' - 1, by omega⟩
    have hlength := (skip_suffix flags row).length_le
    have hlength' := (skip_suffix flags row').length_le
    have hclosing : ']' ∉ closing := by decide
    rw [readBrackets_succ, readBrackets_succ]
    rcases (h.skip flags).cases with ⟨hnil, hnil'⟩ | ⟨hnil, heq⟩ | ⟨c, rest, hc, hc'⟩
    · rw [hnil, hnil']
      exact .refused
    · have hskip : flags.skip closing = closing := skip_of_solid rfl (by decide)
      have hnone := readBrackets_eq_none flags (fuel' + 1) bracket outer hclosing
      rw [readBrackets_succ, hskip] at hnone
      rw [hnil, heq, hnone]
      exact .refused
    · rw [hc, List.length_cons] at hlength
      rw [hc', List.length_cons] at hlength'
      rw [hc, hc']
      dsimp only
      by_cases hbracket : c = ']'
      · have hround : ∀ rest, bracketRound? flags bracket outer c rest = _ := fun rest => by
          rw [bracketRound?, if_neg (by rw [hbracket]; decide), if_pos hbracket]
        rw [hround, hround]
        cases bracket.close? flags with
        | none => exact .refused
        | some described =>
          cases outer with
          | nil => exact .read _ (.append rest)
          | cons around outer => exact ih (.append rest) (by omega) (by omega) _ _
      · have hround := extends_bracketRound? flags bracket outer c rest
        have hleaves := leaves_bracketRound? flags bracket outer c rest
        have hleaves' := leaves_bracketRound? flags bracket outer c (rest ++ closing)
        generalize hfound : bracketRound? flags bracket outer c rest = found at hround hleaves
        generalize hfound' : bracketRound? flags bracket outer c (rest ++ closing) = found'
          at hround hleaves'
        cases hround with
        | read a hq =>
          have hq₁ := (hleaves _ _ rfl).length_le
          have hq₂ := (hleaves' _ _ rfl).length_le
          cases a with
          | closed described => exact absurd (bracketRound?_closed hfound) hbracket
          | «open» inner around => exact ih hq (by omega) (by omega) _ _
        | refused => exact .refused
        | across a hq =>
          cases a with
          | closed described => exact absurd (bracketRound?_closed hfound') hbracket
          | «open» inner around =>
            dsimp only
            rw [readBrackets_eq_none flags fuel' inner around fun hmem =>
              hclosing (hq.subset hmem)]
            exact .refused

/-- A whole bracket expression is read in both rows or in neither. -/
theorem extends_readBracket {row row' : List Char} (h : Behind row row') (flags : Flags)
    (most : List Char) : Extends most (readBracket flags row) (readBracket flags row') := by
  have hopen := extends_openBracket? h flags
  unfold readBracket
  generalize openBracket? flags row = found at hopen
  generalize openBracket? flags row' = found' at hopen
  cases hopen with
  | read bracket hrest =>
    exact extends_readBrackets flags hrest (Nat.lt_succ_self _) (Nat.lt_succ_self _) bracket [] most
  | refused => exact .refused
  | across bracket hrest =>
    dsimp only
    rw [readBrackets_eq_none flags _ bracket [] fun hmem =>
      absurd (hrest.subset hmem) (by decide)]
    exact .refused

/-- Flag letters that do not end in the row may end at the closing parenthesis, but open no group
there. -/
theorem readFlags_closing (seen : List Char) (negated dangling : Bool) (flags : Flags)
    (row : List Char) :
    (∃ found, readFlags seen negated dangling flags row = some found ∧
        readFlags seen negated dangling flags (row ++ closing) =
          some { found with rest := found.rest ++ closing }) ∨
      (readFlags seen negated dangling flags row = none ∧
        ∀ found, readFlags seen negated dangling flags (row ++ closing) = some found →
          found.rest <:+ ['$']) := by
  induction row generalizing seen negated dangling flags with
  | nil =>
    refine .inr ⟨rfl, fun found h => ?_⟩
    rw [List.nil_append, closing, readFlags, if_pos (by decide)] at h
    split at h
    · cases h
    · cases h
      exact List.suffix_refl _
  | cons c rest ih =>
    rw [List.cons_append, readFlags, readFlags]
    split
    · split
      · exact .inr ⟨rfl, fun _ h => by cases h⟩
      · exact .inl ⟨_, rfl, rfl⟩
    · split
      · split
        · exact .inr ⟨rfl, fun _ h => by cases h⟩
        · exact ih _ _ _ _
      · split
        · exact .inr ⟨rfl, fun _ h => by cases h⟩
        · cases flags.set? (!negated) c with
          | none => exact .inr ⟨rfl, fun _ h => by cases h⟩
          | some flags => exact ih _ _ _ _

namespace Reader

variable (reader : Reader)

/-- The flags of a group may lack the parenthesis behind them. -/
theorem extends_readFlagGroup? (row : List Char) :
    Extends ['$'] (reader.readFlagGroup? row) (reader.readFlagGroup? (row ++ closing)) := by
  unfold readFlagGroup?
  rcases readFlags_closing [] false false reader.flags row with ⟨found, h, h'⟩ | ⟨h, h'⟩
  · rw [h, h']
    dsimp only
    split
    · exact .read _ (.append found.rest)
    · split
      · exact .refused
      · exact .read _ (.append found.rest)
  · rw [h]
    dsimp only
    split
    · exact .refused
    · rename_i found hfound
      have hrest := h' found hfound
      split
      · exact .across _ hrest
      · split
        · exact .refused
        · exact .across _ hrest

/-- The sign before a name is found alike. -/
theorem nameSign?_closing (row : List Char) :
    nameSign? (row ++ closing) = (nameSign? row).map (· ++ closing) := by
  unfold nameSign?
  rcases (Behind.append row).expect (by decide : '<' ≠ ')') with ⟨rest, h, h'⟩ | ⟨h, h'⟩
  · rw [h, h']
    rfl
  · rw [h, h']
    rcases (Behind.append row).expect (by decide : 'P' ≠ ')') with ⟨rest, hp, hp'⟩ | ⟨hp, hp'⟩
    · rw [hp, hp', Option.bind_some, Option.bind_some]
      rcases (Behind.append rest).expect (by decide : '<' ≠ ')') with ⟨after, h, h'⟩ | ⟨h, h'⟩
      · rw [h, h']
        rfl
      · rw [h, h']
        rfl
    · rw [hp, hp']
      rfl

/-- The name of a group is read in both rows or in neither. -/
theorem extends_nameGroup? (row : List Char) (most : List Char) :
    Extends most (reader.nameGroup? row) (reader.nameGroup? (row ++ closing)) := by
  unfold nameGroup?
  dsimp only
  rcases dropWhile_closing (· != '>') (by decide) row with
    ⟨c, rest, hc, hc', htake⟩ | ⟨hnil, hnil'⟩
  · rw [hc, hc', htake]
    cases row.takeWhile (· != '>') with
    | nil => exact .refused
    | cons first more =>
      dsimp only
      split
      · exact .read _ (.append rest)
      · exact .refused
  · rw [hnil, hnil']
    cases row.takeWhile (· != '>') <;> cases (row ++ closing).takeWhile (· != '>') <;>
      exact .refused

/-- The start of a group may lack what tells its kind. -/
theorem extends_readGroup? {row row' : List Char} (h : Behind row row') :
    Extends ['$'] (reader.readGroup? row) (reader.readGroup? row') := by
  have hskip := h.skip reader.flags
  rw [readGroup?_eq, readGroup?_eq]
  rcases hskip.expect (by decide : '?' ≠ ')') with ⟨rest, hsign, hsign'⟩ | ⟨hno, hno'⟩
  · rw [hsign, hsign']
    dsimp only
    rw [nameSign?_closing]
    cases nameSign? rest with
    | none => exact reader.extends_readFlagGroup? rest
    | some after => exact reader.extends_nameGroup? after ['$']
  · rw [hno, hno']
    exact .read _ hskip

/-- The sign of a lazy repetition is passed over alike. -/
theorem behind_dropLazy {row row' : List Char} (h : Behind row row') :
    Behind (dropLazy row) (dropLazy row') := by
  rw [dropLazy_eq, dropLazy_eq]
  rcases h.expect (by decide : '?' ≠ ')') with ⟨rest, hrest, hrest'⟩ | ⟨hno, hno'⟩
  · rw [hrest, hrest']
    exact .append rest
  · rw [hno, hno']
    exact h

/-- A count of rounds is read alike. -/
theorem behind_readCount {row row' : List Char} (h : Behind row row') (flags : Flags) :
    (readCount flags row').1 = (readCount flags row).1 ∧
      Behind (readCount flags row).2 (readCount flags row').2 := by
  have hblank : Unicode.isSpace ')' = false := by decide
  obtain ⟨hdigits, hrest⟩ := (h.dropWhile hblank).collectAll flags Char.isDigit
    (by decide) (List.dropWhile_suffix _).length_le (List.dropWhile_suffix _).length_le
  dsimp only [readCount]
  rw [hdigits]
  exact ⟨rfl, (hrest.dropWhile hblank).skip flags⟩

/-- Counts are complete in both rows or in none. -/
theorem readCounts?_behind {row row' : List Char} (h : Behind row row') (flags : Flags) :
    (readCounts? flags row = none ∧ readCounts? flags row' = none) ∨
      ∃ least most rest rest', readCounts? flags row = some (least, most, rest) ∧
        readCounts? flags row' = some (least, most, rest') ∧ Behind rest rest' := by
  obtain ⟨hleast, hrest⟩ := behind_readCount (h.skip flags) flags
  rw [readCounts?_eq, readCounts?_eq, hleast]
  cases (readCount flags (flags.skip row)).1 with
  | none => exact .inl ⟨rfl, rfl⟩
  | some least =>
    rw [Option.bind_some, Option.bind_some]
    rcases hrest.expect (by decide : ',' ≠ ')') with ⟨after, hcomma, hcomma'⟩ | ⟨hno, hno'⟩
    · have hafter := (Behind.append after).skip flags
      rw [hcomma, hcomma']
      dsimp only
      rcases hafter.expect (by decide : '\x7d' ≠ ')') with ⟨last, hend, hend'⟩ | ⟨hno, hno'⟩
      · rw [hend, hend']
        exact .inr ⟨least, none, last, _, rfl, rfl, .append last⟩
      · obtain ⟨hmost, hbehind⟩ := behind_readCount hafter flags
        rw [hno, hno', hmost]
        dsimp only
        cases (readCount flags (flags.skip after)).1 with
        | none => exact .inl ⟨rfl, rfl⟩
        | some most =>
          rw [Option.bind_some, Option.bind_some]
          rcases hbehind.expect (by decide : '\x7d' ≠ ')') with ⟨last, hend, hend'⟩ | ⟨hno, hno'⟩
          · rw [hend, hend']
            dsimp only
            split
            · exact .inr ⟨least, some most, last, _, rfl, rfl, .append last⟩
            · exact .inl ⟨rfl, rfl⟩
          · rw [hno, hno']
            exact .inl ⟨rfl, rfl⟩
    · rw [hno, hno']
      dsimp only
      rcases hrest.expect (by decide : '\x7d' ≠ ')') with ⟨last, hend, hend'⟩ | ⟨hno, hno'⟩
      · rw [hend, hend']
        exact .inr ⟨least, some least, last, _, rfl, rfl, .append last⟩
      · rw [hno, hno']
        exact .inl ⟨rfl, rfl⟩

/-- A repetition in braces is read in both rows or in neither. -/
theorem extends_readRepetition? {rest rest' : List Char} (h : Behind rest rest')
    (most : List Char) :
    Extends most (reader.readRepetition? rest) (reader.readRepetition? rest') := by
  unfold readRepetition?
  rcases readCounts?_behind h reader.flags with
    ⟨hnone, hnone'⟩ | ⟨least, most, q, q', hq, hq', hrest⟩
  · rw [hnone, hnone']
    exact .refused
  · rw [hq, hq']
    show Extends _ ((reader.repeat? least most).bind _) ((reader.repeat? least most).bind _)
    cases reader.repeat? least most with
    | none => exact .refused
    | some repeated => exact .read _ (behind_dropLazy (hrest.skip repeated.flags))

/-- An escape outside of bracket expressions may lack its end, or be a stranded boundary. -/
theorem extends_readEscaped? {rest rest' : List Char} (h : Behind rest rest') :
    Extends ['$'] (reader.readEscaped? rest) (reader.readEscaped? rest') ∨
      ∃ a, Stranded reader.flags (reader.readEscaped? rest) (reader.readEscaped? rest')
        (reader.pushAtom (.look a)) := by
  unfold readEscaped?
  rcases extends_readEscape h reader.flags with hread | ⟨a, hnone, after, hafter, hskip⟩
  · left
    refine hread.bind (fun escape row row' hrow => ?_) fun escape row => ?_
    · dsimp only
      cases atomOf? reader.flags escape with
      | none => exact .refused
      | some one => exact .read _ hrow
    · dsimp only
      cases atomOf? reader.flags escape with
      | none => exact .none
      | some one => exact .some (List.suffix_refl _)
  · refine .inr ⟨a, ?_, after, ?_, hskip⟩
    · rw [hnone]
      rfl
    · rw [hafter]
      rfl

/-- What a step makes of the rest of a row, and of the rest with closing characters behind it. -/
theorem extends_step {rest rest' : List Char} (h : Behind rest rest') (c : Char) :
    Extends ['$'] (reader.step c rest) (reader.step c rest') ∨
      ∃ a, Stranded reader.flags (reader.step c rest) (reader.step c rest')
        (reader.pushAtom (.look a)) := by
  rw [step_eq, step_eq]
  cases itemStart reader.flags c with
  | opening => exact .inl (reader.extends_readGroup? h)
  | closing => exact .inl (.value _ h)
  | bar => exact .inl (.read _ h)
  | bracket =>
    exact .inl ((extends_readBracket h reader.flags _).map fun described =>
      reader.push ⟨.atom (.one described.set), described.depth, true⟩)
  | sign least most => exact .inl (.value _ (behind_dropLazy h))
  | counts => exact .inl (reader.extends_readRepetition? h _)
  | escape => exact reader.extends_readEscaped? h
  | alone found => exact .inl (.value _ h)

end Reader

end Percolator.Regex
