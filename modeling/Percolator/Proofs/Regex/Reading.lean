import Percolator.Regex.Language
import Percolator.Proofs.Regex.Readers

/-!
# What the readers leave

Every reader of a part of a pattern, if it succeeds, leaves an end of the row it was given. So each
step of the machine that reads patterns makes the row shorter, its bound on steps is never met, and
reading a pattern to its end can be taken as a row of steps. Main statements: reading is a row of
steps, and no repetition of a pattern that was read asks for more rounds than it allows.
-/

namespace Percolator.Regex

/-- What is left after a part was found is an end of the row. -/
def Leaves {α : Type} (row : List Char) (found : Option (α × List Char)) : Prop :=
  ∀ a rest, found = some (a, rest) → rest <:+ row

namespace Leaves

variable {α β : Type} {row : List Char}

/-- Nothing was found. -/
theorem none : Leaves row (none : Option (α × List Char)) := by
  intro a rest h
  cases h

/-- Something was found, before an end of the row. -/
theorem some {a : α} {rest : List Char} (h : rest <:+ row) : Leaves row (some (a, rest)) := by
  intro a' rest' h'
  cases h'
  exact h

/-- An end of an end of a row is an end of the row. -/
theorem trans {found : Option (α × List Char)} {longer : List Char} (h : Leaves row found)
    (hrow : row <:+ longer) : Leaves longer found :=
  fun a rest hf => (h a rest hf).trans hrow

/-- One reader after another. -/
theorem bind {found : Option (α × List Char)} {next : α × List Char → Option (β × List Char)}
    (h : Leaves row found) (hnext : ∀ a rest, rest <:+ row → Leaves rest (next (a, rest))) :
    Leaves row (found.bind next) := by
  cases found with
  | none => exact Leaves.none
  | some pair => exact (hnext pair.1 pair.2 (h _ _ rfl)).trans (h _ _ rfl)

/-- Something else is made of what was found. -/
theorem map {found : Option (α × List Char)} {f : α × List Char → β × List Char}
    (h : Leaves row found) (hf : ∀ a rest, (f (a, rest)).2 = rest) :
    Leaves row (found.map f) := by
  cases found with
  | none => exact Leaves.none
  | some pair => exact Leaves.some ((hf pair.1 pair.2).symm ▸ h _ _ rfl)

/-- A value that may be absent, put before a rest. -/
theorem map_of_suffix {value : Option α} {rest : List Char} {f : α → β × List Char}
    (h : ∀ a, (f a).2 = rest) (hrest : rest <:+ row) : Leaves row (value.map f) := by
  cases value with
  | none => exact Leaves.none
  | some a => exact Leaves.some ((h a).symm ▸ hrest)

end Leaves

/-- Passing over blanks and comments leaves an end of the row. -/
theorem skipBlanks_suffix (comment : Bool) (row : List Char) :
    Flags.skipBlanks comment row <:+ row := by
  fun_induction Flags.skipBlanks comment row with
  | case1 => exact List.suffix_refl _
  | case2 c rest ih => exact ih.trans (List.suffix_cons c rest)
  | case3 c rest hc ih => exact ih.trans (List.suffix_cons c rest)
  | case4 rest hc ih => exact ih.trans (List.suffix_cons '#' rest)
  | case5 => exact List.suffix_refl _

/-- So does passing over what the flags make a blank. -/
theorem skip_suffix (flags : Flags) (row : List Char) : flags.skip row <:+ row := by
  unfold Flags.skip
  split
  · exact skipBlanks_suffix false row
  · exact List.suffix_refl _

/-- There is nothing to pass over at the end of a pattern. -/
theorem skip_nil (flags : Flags) : flags.skip [] = [] := by
  unfold Flags.skip
  split <;> rfl

/-- Nothing is skipped before a character that is no blank and begins no comment. -/
theorem skip_of_solid {flags : Flags} {c : Char} {rest : List Char}
    (hblank : Unicode.isSpace c = false) (hcomment : c ≠ '#') :
    flags.skip (c :: rest) = c :: rest := by
  unfold Flags.skip
  split
  · rw [Flags.skipBlanks, hblank, if_neg Bool.false_ne_true, if_neg hcomment]
  · rfl

/-- What follows a character behind the blanks of a row is an end of the row. -/
theorem suffix_of_skip {flags : Flags} {row rest : List Char} {c : Char}
    (h : flags.skip row = c :: rest) : rest <:+ row :=
  (List.suffix_cons c rest).trans (h ▸ skip_suffix flags row)

/-- An expected character is passed over alone. -/
theorem suffix_of_expect {c : Char} {row rest : List Char} (h : expect c row = some rest) :
    rest <:+ row := by
  rw [eq_cons_of_expect h]
  exact List.suffix_cons c rest

/-- Characters of a kind are collected from the start of the row. -/
theorem collect_suffix (flags : Flags) (ofKind : Char → Bool) (limit : Nat) (row : List Char) :
    (flags.collect ofKind limit row).2 <:+ row := by
  fun_induction Flags.collect flags ofKind limit row with
  | case1 => exact List.suffix_refl _
  | case2 => exact List.suffix_refl _
  | case3 limit c rest hc found rest' heq ih =>
    rw [heq] at ih
    exact (ih.trans (skip_suffix flags rest)).trans (List.suffix_cons c rest)
  | case4 => exact List.suffix_refl _

/-- Flags are read from the start of the row. -/
theorem readFlags_suffix {seen : List Char} {negated dangling : Bool} {flags : Flags}
    {row : List Char} {found : FlagGroup}
    (h : readFlags seen negated dangling flags row = some found) : found.rest <:+ row := by
  induction row generalizing seen negated dangling flags with
  | nil => cases h
  | cons c rest ih =>
    rw [readFlags] at h
    split at h
    · split at h
      · cases h
      · cases h
        exact List.suffix_cons c rest
    · split at h
      · split at h
        · cases h
        · exact (ih h).trans (List.suffix_cons c rest)
      · split at h
        · cases h
        · split at h
          · cases h
          · exact (ih h).trans (List.suffix_cons c rest)

/-- Reading a number leaves an end of the row, with braces around its digits or without. -/
theorem leaves_readHex (flags : Flags) (letter : Char) (row : List Char) :
    Leaves row (readHex flags letter row) := by
  have hrow := skip_suffix flags row
  rw [readHex_eq]
  split
  · rename_i rest hbrace
    have hrest := (suffix_of_expect hbrace).trans hrow
    have hdigits := ((collect_suffix flags isHexDigit rest.length (flags.skip rest)).trans
      (skip_suffix flags rest)).trans hrest
    dsimp only
    split
    · rename_i after hend
      split
      · exact Leaves.none
      · exact Leaves.map_of_suffix (fun _ => rfl) ((suffix_of_expect hend).trans hdigits)
    · exact Leaves.none
  · dsimp only
    split
    · exact Leaves.map_of_suffix (fun _ => rfl) ((collect_suffix flags _ _ _).trans hrow)
    · exact Leaves.none

/-- So does reading the name of a property. -/
theorem leaves_lookUp? (flags : Flags) (row : List Char) : Leaves row (lookUp? flags row) := by
  have hrow := skip_suffix flags row
  unfold lookUp?
  split
  · rename_i rest hbrace
    have hname := ((collect_suffix flags (· != '\x7d') rest.length (flags.skip rest)).trans
      (skip_suffix flags rest)).trans ((suffix_of_expect hbrace).trans hrow)
    dsimp only
    split
    · rename_i after hend
      exact Leaves.map_of_suffix (fun _ => rfl) ((suffix_of_expect hend).trans hname)
    · exact Leaves.none
  · split
    · exact Leaves.none
    · rename_i c rest hc
      split
      · exact Leaves.none
      · exact Leaves.map_of_suffix (fun _ => rfl) (suffix_of_skip hc)

/-- So does reading a property. -/
theorem leaves_readProperty (flags : Flags) (negated : Bool) (row : List Char) :
    Leaves row (readProperty flags negated row) := by
  rw [readProperty_eq]
  refine (leaves_lookUp? flags row).bind fun found rest _ => ?_
  dsimp only
  split
  · exact Leaves.some (List.suffix_refl _)
  · exact Leaves.none

/-- So does reading a boundary of words. -/
theorem leaves_readBoundary (flags : Flags) (row : List Char) :
    Leaves row (readBoundary flags row) := by
  rw [readBoundary_eq]
  split
  · rename_i rest hbrace
    have hname := ((collect_suffix flags isNamePart rest.length (flags.skip rest)).trans
      (skip_suffix flags rest)).trans (suffix_of_expect hbrace)
    split
    · exact Leaves.none
    · split
      · dsimp only
        split
        · rename_i hend
          exact Leaves.map_of_suffix (fun _ => rfl) ((suffix_of_expect hend).trans hname)
        · exact Leaves.none
      · exact Leaves.some (List.suffix_refl _)
  · exact Leaves.some (List.suffix_refl _)

/-- So does reading an escape of any kind. -/
theorem leaves_readEscape (flags : Flags) (row : List Char) :
    Leaves row (readEscape flags row) := by
  cases row with
  | nil => exact Leaves.none
  | cons c rest =>
    have hrest : rest <:+ c :: rest := List.suffix_cons c rest
    rw [readEscape_cons]
    cases escapeLetter flags c with
    | hex letter => exact (leaves_readHex flags letter rest).trans hrest
    | property negated => exact (leaves_readProperty flags negated rest).trans hrest
    | boundary => exact ((leaves_readBoundary flags rest).map fun _ _ => rfl).trans hrest
    | alone meaning => exact Leaves.map_of_suffix (fun _ => rfl) hrest

/-- Opening a bracket expression leaves an end of the row. -/
theorem leaves_openBracket? (flags : Flags) (row : List Char) :
    Leaves row (openBracket? flags row) := by
  have hcaret : (splitCaret flags (flags.skip row)).2 <:+ row := by
    have hrow := skip_suffix flags row
    unfold splitCaret
    split
    · rename_i rest hsign
      exact (skip_suffix flags rest).trans ((suffix_of_expect hsign).trans hrow)
    · exact hrow
  have hsigns : ∀ row, (splitSigns flags row).2 <:+ row := by
    intro row
    have hhyphens := collect_suffix flags (· = '-') row.length row
    dsimp only [splitSigns]
    split
    · exact (collect_suffix flags (· = ']') 1 _).trans hhyphens
    · exact hhyphens
  rw [openBracket?_eq]
  dsimp only
  split
  · exact Leaves.none
  · exact Leaves.map_of_suffix (fun _ => rfl) ((hsigns _).trans hcaret)

/-- So does reading the name of a class. -/
theorem leaves_readClassName? (flags : Flags) (negated : Bool) (row : List Char) :
    Leaves row (readClassName? flags negated row) := by
  intro set rest h
  obtain ⟨after, hafter, h⟩ := Option.bind_eq_some_iff.1 h
  obtain ⟨behind, hbehind, hafter⟩ := Option.bind_eq_some_iff.1 hafter
  obtain ⟨_, -, h⟩ := Option.map_eq_some_iff.1 h
  cases h
  exact (suffix_of_expect hafter).trans ((suffix_of_expect hbehind).trans (List.dropWhile_suffix _))

/-- So does reading a named class. -/
theorem leaves_namedClass? (flags : Flags) (row : List Char) :
    Leaves row (namedClass? flags row) := by
  rw [namedClass?_eq]
  cases hcolon : expect ':' row with
  | none => exact Leaves.none
  | some rest =>
    rw [Option.bind_some]
    refine Leaves.trans ?_ (suffix_of_expect hcolon)
    split
    · rename_i hsign
      exact (leaves_readClassName? flags true _).trans (suffix_of_expect hsign)
    · exact leaves_readClassName? flags false rest

/-- So does reading a single member. -/
theorem leaves_readMember (flags : Flags) (c : Char) (rest : List Char) :
    Leaves rest (readMember flags c rest) := by
  unfold readMember
  split
  · exact leaves_readEscape flags rest
  · exact Leaves.some (List.suffix_refl _)

/-- So does reading the end of a range. -/
theorem leaves_readRangeEnd (flags : Flags) (first : Escape) (row : List Char) :
    Leaves row (readRangeEnd flags first row) := by
  have hrow := skip_suffix flags row
  unfold readRangeEnd
  split
  · exact Leaves.none
  · rename_i c rest hc
    rw [hc] at hrow
    split
    · rename_i hminus
      split
      · exact Leaves.map_of_suffix (fun _ => rfl) (hminus ▸ hrow)
      · split
        · exact Leaves.none
        · rename_i d after hd
          refine Leaves.trans (Leaves.bind (leaves_readMember flags d after) fun last rest _ => ?_)
            ((suffix_of_skip hd).trans (suffix_of_skip hc))
          exact Leaves.map_of_suffix (fun _ => rfl) (List.suffix_refl _)
    · exact Leaves.map_of_suffix (fun _ => rfl) hrow

/-- So does reading a member or a range. -/
theorem leaves_readRange (flags : Flags) (c : Char) (rest : List Char) :
    Leaves rest (readRange flags c rest) := by
  rw [readRange_eq]
  exact (leaves_readMember flags c rest).bind fun first row _ => leaves_readRangeEnd flags first row

/-- So does reading a sign between two parts. -/
theorem leaves_operatorSign? (c : Char) (rest : List Char) :
    Leaves rest (operatorSign? c rest) := by
  have hsign : ∀ (sign : Char) (operator : SetOperator),
      Leaves rest ((expect sign rest).map (operator, ·)) := by
    intro sign operator found after h
    obtain ⟨_, hafter, h⟩ := Option.map_eq_some_iff.1 h
    cases h
    exact suffix_of_expect hafter
  unfold operatorSign?
  split
  · exact hsign _ _
  · split
    · exact hsign _ _
    · split
      · exact hsign _ _
      · exact Leaves.none

/-- So does one round of reading. -/
theorem leaves_bracketRound? (flags : Flags) (bracket : OpenBracket) (outer : List OpenBracket)
    (c : Char) (rest : List Char) : Leaves rest (bracketRound? flags bracket outer c rest) := by
  unfold bracketRound?
  split
  · split
    · exact Leaves.none
    · rename_i after h
      exact Leaves.some (leaves_namedClass? flags rest _ _ h)
    · exact (leaves_openBracket? flags rest).map fun _ _ => rfl
  · split
    · refine Leaves.map_of_suffix (fun described => ?_) (List.suffix_refl _)
      cases outer <;> rfl
    · split
      · rename_i hsign
        exact Leaves.some (leaves_operatorSign? c rest _ _ hsign)
      · exact (leaves_readRange flags c rest).map fun _ _ => rfl

/-- So do all rounds of reading. -/
theorem leaves_readBrackets (flags : Flags) (fuel : Nat) (bracket : OpenBracket)
    (outer : List OpenBracket) (row : List Char) :
    Leaves row (readBrackets flags fuel bracket outer row) := by
  induction fuel generalizing bracket outer row with
  | zero => exact Leaves.none
  | succ fuel ih =>
    rw [readBrackets_succ]
    split
    · exact Leaves.none
    · rename_i c rest hskip
      have hround := leaves_bracketRound? flags bracket outer c rest
      split
      · exact Leaves.none
      · rename_i h
        exact Leaves.some ((hround _ _ h).trans (suffix_of_skip hskip))
      · rename_i h
        exact (ih _ _ _).trans ((hround _ _ h).trans (suffix_of_skip hskip))

/-- So does reading a whole bracket expression. -/
theorem leaves_readBracket (flags : Flags) (row : List Char) :
    Leaves row (readBracket flags row) := by
  unfold readBracket
  split
  · exact Leaves.none
  · rename_i bracket rest h
    exact (leaves_readBrackets flags _ bracket [] rest).trans (leaves_openBracket? flags row _ _ h)

namespace Reader

/-- Naming a group leaves an end of the row. -/
theorem leaves_nameGroup? (reader : Reader) (row : List Char) :
    Leaves row (reader.nameGroup? row) := by
  unfold nameGroup?
  dsimp only
  split
  · rename_i rest _ hdrop
    split
    · exact Leaves.some ((List.suffix_cons _ rest).trans (hdrop ▸ List.dropWhile_suffix _))
    · exact Leaves.none
  · exact Leaves.none

/-- So does reading the flags of a group. -/
theorem leaves_readFlagGroup? (reader : Reader) (row : List Char) :
    Leaves row (reader.readFlagGroup? row) := by
  unfold readFlagGroup?
  split
  · exact Leaves.none
  · rename_i found hfound
    split
    · exact Leaves.some (readFlags_suffix hfound)
    · split
      · exact Leaves.none
      · exact Leaves.some (readFlags_suffix hfound)

/-- The sign before the name of a group is passed over. -/
theorem nameSign?_suffix {row rest : List Char} (h : nameSign? row = some rest) : rest <:+ row := by
  unfold nameSign? at h
  split at h
  · rename_i hshort
    cases h
    exact suffix_of_expect hshort
  · obtain ⟨after, hafter, h⟩ := Option.bind_eq_some_iff.1 h
    exact (suffix_of_expect h).trans (suffix_of_expect hafter)

/-- So does opening a group of any kind. -/
theorem leaves_readGroup? (reader : Reader) (row : List Char) :
    Leaves row (reader.readGroup? row) := by
  have hrow := skip_suffix reader.flags row
  rw [readGroup?_eq]
  split
  · exact Leaves.some hrow
  · rename_i rest hsign
    have hrest := (suffix_of_expect hsign).trans hrow
    split
    · rename_i after hname
      exact (reader.leaves_nameGroup? after).trans ((nameSign?_suffix hname).trans hrest)
    · exact (reader.leaves_readFlagGroup? rest).trans hrest

/-- The sign of a lazy repetition is passed over. -/
theorem dropLazy_suffix (row : List Char) : dropLazy row <:+ row := by
  unfold dropLazy
  split
  · exact List.suffix_cons _ _
  · exact List.suffix_refl _

/-- A count of rounds is read from the start of the row. -/
theorem readCount_suffix (flags : Flags) (row : List Char) : (readCount flags row).2 <:+ row := by
  have hdigits :=
    (collect_suffix flags Char.isDigit row.length (row.dropWhile Unicode.isSpace)).trans
      (List.dropWhile_suffix _)
  exact ((skip_suffix flags _).trans (List.dropWhile_suffix _)).trans hdigits

/-- What follows the counts of a repetition is an end of the row, and the counts are in order. -/
theorem readCounts?_suffix {flags : Flags} {row rest : List Char} {least : Nat} {most : Option Nat}
    (h : readCounts? flags row = some (least, most, rest)) :
    rest <:+ row ∧ ∀ m, most = some m → least ≤ m := by
  have hfirst := (readCount_suffix flags _).trans (skip_suffix flags row)
  rw [readCounts?_eq] at h
  obtain ⟨first, -, h⟩ := Option.bind_eq_some_iff.1 h
  split at h
  · rename_i after hcomma
    have hafter := (skip_suffix flags after).trans ((suffix_of_expect hcomma).trans hfirst)
    split at h
    · rename_i hend
      cases h
      exact ⟨(suffix_of_expect hend).trans hafter, nofun⟩
    · obtain ⟨second, -, h⟩ := Option.bind_eq_some_iff.1 h
      split at h
      · rename_i hend
        split at h
        · rename_i hle
          cases h
          refine ⟨(suffix_of_expect hend).trans ((readCount_suffix flags _).trans hafter), ?_⟩
          intro m hm
          cases hm
          exact hle
        · cases h
      · cases h
  · obtain ⟨after, hend, h⟩ := Option.map_eq_some_iff.1 h
    cases h
    refine ⟨(suffix_of_expect hend).trans hfirst, ?_⟩
    intro m hm
    cases hm
    exact Nat.le_refl _

/-- Every step leaves an end of what follows its first character. -/
theorem leaves_step (reader : Reader) (c : Char) (rest : List Char) :
    Leaves rest (reader.step c rest) := by
  rw [step_eq]
  cases itemStart reader.flags c with
  | opening => exact reader.leaves_readGroup? rest
  | closing => exact Leaves.map_of_suffix (fun _ => rfl) (List.suffix_refl _)
  | bar => exact Leaves.some (List.suffix_refl _)
  | bracket => exact (leaves_readBracket reader.flags rest).map fun _ _ => rfl
  | sign least most => exact Leaves.map_of_suffix (fun _ => rfl) (dropLazy_suffix rest)
  | counts =>
    intro next after h
    obtain ⟨⟨least, most, behind⟩, hcounts, h⟩ := Option.bind_eq_some_iff.1 h
    obtain ⟨repeated, -, h⟩ := Option.bind_eq_some_iff.1 h
    cases h
    exact ((dropLazy_suffix _).trans (skip_suffix _ behind)).trans (readCounts?_suffix hcounts).1
  | escape =>
    refine Leaves.bind (leaves_readEscape reader.flags rest) fun escape after _ => ?_
    dsimp only
    cases atomOf? reader.flags escape with
    | none => exact Leaves.none
    | some one => exact Leaves.some (List.suffix_refl _)
  | alone atom => exact Leaves.map_of_suffix (fun _ => rfl) (List.suffix_refl _)

/-- A reader takes all items of a row, and ends up as another reader. -/
inductive Reads : Reader → List Char → Reader → Prop where
  | done {reader : Reader} {row : List Char} (h : reader.flags.skip row = []) :
    Reads reader row reader
  | step {reader next last : Reader} {row rest behind : List Char} {c : Char}
    (hskip : reader.flags.skip row = c :: rest) (hstep : reader.step c rest = some (next, behind))
    (hnext : Reads next behind last) : Reads reader row last

/-- After the last item the reader stays what it is. -/
theorem reads_done_iff {reader last : Reader} {row : List Char}
    (hskip : reader.flags.skip row = []) : Reads reader row last ↔ last = reader := by
  constructor
  · intro h
    cases h with
    | done => rfl
    | step hskip' =>
      rw [hskip] at hskip'
      cases hskip'
  · intro h
    subst h
    exact .done hskip

/-- Before an item there is one step that the reader can take. -/
theorem reads_step_iff {reader last : Reader} {row rest : List Char} {c : Char}
    (hskip : reader.flags.skip row = c :: rest) :
    Reads reader row last ↔
      ∃ next behind, reader.step c rest = some (next, behind) ∧ Reads next behind last := by
  constructor
  · intro h
    cases h with
    | done hskip' =>
      rw [hskip] at hskip'
      cases hskip'
    | step hskip' hstep hnext =>
      cases hskip.symm.trans hskip'
      exact ⟨_, _, hstep, hnext⟩
  · intro hparts
    rcases hparts with ⟨next, behind, hstep, hnext⟩
    exact .step hskip hstep hnext

/-- The bound on steps is never met. -/
theorem run_eq_some_iff {fuel : Nat} {reader last : Reader} {row : List Char}
    (h : row.length < fuel) : run fuel reader row = some last ↔ Reads reader row last := by
  induction fuel generalizing reader row with
  | zero => omega
  | succ fuel ih =>
    have hlength := (skip_suffix reader.flags row).length_le
    rw [run]
    cases hskip : reader.flags.skip row with
    | nil =>
      rw [reads_done_iff hskip, Option.some.injEq]
      exact eq_comm
    | cons c rest =>
      rw [hskip, List.length_cons] at hlength
      rw [reads_step_iff hskip]
      dsimp only
      cases hstep : reader.step c rest with
      | none => simp
      | some pair =>
        obtain ⟨next, behind⟩ := pair
        have hbehind := (leaves_step reader c rest _ _ hstep).length_le
        dsimp only
        rw [ih (by omega)]
        constructor
        · intro hnext
          exact ⟨next, behind, rfl, hnext⟩
        · intro hparts
          rcases hparts with ⟨_, _, heq, hnext⟩
          cases heq
          exact hnext

/-- A reader comes to one end at most. -/
theorem Reads.unique {reader last last' : Reader} {row : List Char} (h : Reads reader row last)
    (h' : Reads reader row last') : last = last' := by
  have hrun := (run_eq_some_iff (Nat.lt_succ_self _)).2 h
  have hrun' := (run_eq_some_iff (Nat.lt_succ_self _)).2 h'
  exact Option.some.inj (hrun.symm.trans hrun')

end Reader

/-- Two parts or more make a level of their own. -/
theorem Piece.sequence_cons (last : Piece) {before : List Piece} (h : before ≠ []) :
    Piece.sequence (last :: before) =
      ⟨before.foldl (fun regex piece => .cat piece.regex regex) last.regex,
        1 + Piece.maxDepth (last :: before), true⟩ := by
  cases before with
  | nil => exact absurd rfl h
  | cons piece before => rfl

/-- The greatest depth of some parts is within every bound for all of them. -/
theorem Piece.maxDepth_le {pieces : List Piece} {depth : Nat}
    (h : ∀ piece ∈ pieces, piece.depth ≤ depth) : Piece.maxDepth pieces ≤ depth := by
  have hfold : ∀ (pieces : List Piece) (found : Nat), found ≤ depth →
      (∀ piece ∈ pieces, piece.depth ≤ depth) →
      (pieces.map Piece.depth).foldl max found ≤ depth := by
    intro pieces
    induction pieces with
    | nil => exact fun found hfound _ => hfound
    | cons piece pieces ih =>
      intro found hfound hall
      have hparts := List.forall_mem_cons.1 hall
      exact ih _ (Nat.max_le.2 ⟨hfound, hparts.1⟩) hparts.2
  exact hfold pieces 0 (Nat.zero_le _) h

/-- A row of characters is read to its end, leaves no group open and becomes one part. -/
def Describes (row : List Char) (piece : Piece) : Prop :=
  ∃ last, Reader.Reads .start row last ∧ last.outer = [] ∧ last.group.close = piece

/-- A pattern is valid if it describes a part that is not too deep. -/
theorem parse?_eq_some_iff (pattern : String) (regex : Regex Atom) :
    parse? pattern = some regex ↔
      ∃ piece, Describes pattern.toList piece ∧ piece.depth ≤ depthLimit ∧ piece.regex = regex := by
  unfold parse?
  dsimp only
  cases hrun : Reader.run (pattern.toList.length + 1) .start pattern.toList with
  | none =>
    constructor
    · intro h
      cases h
    · intro hparts
      rcases hparts with ⟨piece, ⟨last, hreads, -⟩, -⟩
      rw [(Reader.run_eq_some_iff (Nat.lt_succ_self _)).2 hreads] at hrun
      cases hrun
  | some last =>
    dsimp only
    simp only [Bool.and_eq_true, List.isEmpty_iff, decide_eq_true_iff]
    constructor
    · intro h
      split at h
      · rename_i hlast
        exact ⟨_, ⟨last, (Reader.run_eq_some_iff (Nat.lt_succ_self _)).1 hrun, hlast.1, rfl⟩,
          hlast.2, Option.some.inj h⟩
      · cases h
    · intro hparts
      rcases hparts with ⟨piece, ⟨last', hreads, houter, rfl⟩, hdepth, rfl⟩
      rw [← Reader.run_eq_some_iff (Nat.lt_succ_self _), hrun] at hreads
      cases hreads
      rw [if_pos ⟨houter, hdepth⟩]

/-- All parts are in order. -/
def AllOrdered (pieces : List Piece) : Prop := ∀ piece ∈ pieces, piece.regex.Ordered

/-- One more part in order. -/
theorem AllOrdered.cons {piece : Piece} {pieces : List Piece} (hp : AllOrdered pieces)
    (h : piece.regex.Ordered) : AllOrdered (piece :: pieces) :=
  List.forall_mem_cons.2 ⟨h, hp⟩

/-- Joining parts that are in order to one that is. -/
theorem AllOrdered.foldl {join : Regex Atom → Regex Atom → Regex Atom}
    (hjoin : ∀ a b, Ordered a → Ordered b → Ordered (join a b)) {pieces : List Piece}
    (hp : AllOrdered pieces) {regex : Regex Atom} (h : Ordered regex) :
    Ordered (pieces.foldl (fun regex piece => join piece.regex regex) regex) := by
  induction pieces generalizing regex with
  | nil => exact h
  | cons piece pieces ih =>
    have hall := List.forall_mem_cons.1 hp
    exact ih hall.2 (hjoin _ _ hall.1 h)

/-- Parts in order make a sequence in order. -/
theorem AllOrdered.sequence {pieces : List Piece} (hp : AllOrdered pieces) :
    (Piece.sequence pieces).regex.Ordered := by
  unfold Piece.sequence
  split
  · trivial
  · exact hp _ (List.mem_singleton_self _)
  · have hall := List.forall_mem_cons.1 hp
    exact @AllOrdered.foldl .cat (fun _ _ ha hb => ⟨ha, hb⟩) _ hall.2 _ hall.1

/-- Parts in order make a choice in order. -/
theorem AllOrdered.choice {pieces : List Piece} (hp : AllOrdered pieces) :
    (Piece.choice pieces).regex.Ordered := by
  unfold Piece.choice
  split
  · trivial
  · exact hp _ (List.mem_singleton_self _)
  · have hall := List.forall_mem_cons.1 hp
    exact @AllOrdered.foldl .alt (fun _ _ ha hb => ⟨ha, hb⟩) _ hall.2 _ hall.1

/-- All parts of a group that is not closed yet are in order. -/
structure OpenGroup.InOrder (group : OpenGroup) : Prop where
  items : AllOrdered group.items
  alternatives : AllOrdered group.alternatives

/-- A group in order closes to a part in order. -/
theorem OpenGroup.InOrder.close {group : OpenGroup} (h : group.InOrder) :
    group.close.regex.Ordered :=
  AllOrdered.choice (h.alternatives.cons h.items.sequence)

namespace Reader

/-- All parts that were read so far are in order. -/
structure InOrder (reader : Reader) : Prop where
  group : reader.group.InOrder
  outer : ∀ group ∈ reader.outer, group.InOrder

/-- The machine starts in order. -/
theorem inOrder_start : start.InOrder :=
  ⟨⟨nofun, nofun⟩, nofun⟩

/-- A part in order may be added. -/
theorem InOrder.push {reader : Reader} (h : reader.InOrder) {piece : Piece}
    (hp : piece.regex.Ordered) : (reader.push piece).InOrder :=
  ⟨⟨h.group.items.cons hp, h.group.alternatives⟩, h.outer⟩

/-- A group may be opened. -/
theorem InOrder.openGroup {reader : Reader} (h : reader.InOrder) (flags : Flags) :
    (reader.openGroup flags).InOrder :=
  ⟨⟨nofun, nofun⟩, List.forall_mem_cons.2 ⟨h.group, h.outer⟩⟩

/-- A group may be closed. -/
theorem InOrder.close? {reader next : Reader} (h : reader.InOrder)
    (hclose : reader.close? = some next) : next.InOrder := by
  unfold Reader.close? at hclose
  split at hclose
  · cases hclose
  · rename_i around outer houter
    have houter' := h.outer
    rw [houter] at houter'
    have hall := List.forall_mem_cons.1 houter'
    cases hclose
    exact ⟨⟨hall.1.items.cons h.group.close, hall.1.alternatives⟩, hall.2⟩

/-- A repetition may be made that allows the rounds it asks for. -/
theorem InOrder.repeat? {reader next : Reader} (h : reader.InOrder) {least : Nat}
    {most : Option Nat} (hle : ∀ m, most = some m → least ≤ m)
    (hrepeat : reader.repeat? least most = some next) : next.InOrder := by
  unfold Reader.repeat? at hrepeat
  split at hrepeat
  · cases hrepeat
  · rename_i piece items hitems
    have hall := h.group.items
    rw [hitems] at hall
    have hparts := List.forall_mem_cons.1 hall
    split at hrepeat
    · cases hrepeat
      exact ⟨⟨AllOrdered.cons hparts.2 ⟨hparts.1, hle⟩, h.group.alternatives⟩, h.outer⟩
    · cases hrepeat

/-- A named group may be opened. -/
theorem InOrder.nameGroup? {reader next : Reader} (h : reader.InOrder) {row rest : List Char}
    (hname : reader.nameGroup? row = some (next, rest)) : next.InOrder := by
  unfold Reader.nameGroup? at hname
  dsimp only at hname
  split at hname
  · split at hname
    · cases hname
      exact ⟨⟨nofun, nofun⟩, List.forall_mem_cons.2 ⟨h.group, h.outer⟩⟩
    · cases hname
  · cases hname

/-- A group of any kind may be opened. -/
theorem InOrder.readGroup? {reader next : Reader} (h : reader.InOrder) {row rest : List Char}
    (hgroup : reader.readGroup? row = some (next, rest)) : next.InOrder := by
  rw [readGroup?_eq] at hgroup
  split at hgroup
  · cases hgroup
    exact h.openGroup _
  · split at hgroup
    · exact h.nameGroup? hgroup
    · unfold readFlagGroup? at hgroup
      split at hgroup
      · cases hgroup
      · split at hgroup
        · cases hgroup
          exact h.openGroup _
        · split at hgroup
          · cases hgroup
          · cases hgroup
            exact ⟨⟨h.group.items.cons trivial, h.group.alternatives⟩, h.outer⟩

/-- Every step keeps the parts in order. -/
theorem InOrder.step {reader next : Reader} (h : reader.InOrder) {c : Char}
    {rest behind : List Char} (hstep : reader.step c rest = some (next, behind)) :
    next.InOrder := by
  rw [step_eq] at hstep
  generalize hstart : itemStart reader.flags c = start at hstep
  cases start with
  | opening => exact h.readGroup? hstep
  | closing =>
    obtain ⟨_, hclose, hnext⟩ := Option.map_eq_some_iff.1 hstep
    cases hnext
    exact h.close? hclose
  | bar =>
    cases hstep
    exact ⟨⟨nofun, h.group.alternatives.cons h.group.items.sequence⟩, h.outer⟩
  | bracket =>
    obtain ⟨_, -, hnext⟩ := Option.map_eq_some_iff.1 hstep
    cases hnext
    exact h.push trivial
  | sign least most =>
    obtain ⟨_, hrepeat, hnext⟩ := Option.map_eq_some_iff.1 hstep
    cases hnext
    exact h.repeat? (itemStart_sign hstart) hrepeat
  | counts =>
    obtain ⟨⟨least, most, behind⟩, hcounts, hstep⟩ := Option.bind_eq_some_iff.1 hstep
    obtain ⟨_, hrepeat, hnext⟩ := Option.bind_eq_some_iff.1 hstep
    cases hnext
    exact h.repeat? (readCounts?_suffix hcounts).2 hrepeat
  | escape =>
    obtain ⟨⟨escape, behind⟩, -, hstep⟩ := Option.bind_eq_some_iff.1 hstep
    obtain ⟨_, -, hnext⟩ := Option.bind_eq_some_iff.1 hstep
    cases hnext
    exact h.push trivial
  | alone atom =>
    obtain ⟨_, -, hnext⟩ := Option.map_eq_some_iff.1 hstep
    cases hnext
    exact h.push trivial

/-- The machine stays in order while it reads. -/
theorem InOrder.reads {reader last : Reader} {row : List Char} (h : reader.InOrder)
    (hreads : Reads reader row last) : last.InOrder := by
  induction hreads with
  | done => exact h
  | step _ hstep _ ih => exact ih (h.step hstep)

end Reader

/-- No repetition of a part that a row of characters describes asks for more rounds than it
allows. -/
theorem Describes.ordered {row : List Char} {piece : Piece} (h : Describes row piece) :
    piece.regex.Ordered := by
  obtain ⟨last, hreads, -, rfl⟩ := h
  exact (Reader.inOrder_start.reads hreads).group.close

end Percolator.Regex
