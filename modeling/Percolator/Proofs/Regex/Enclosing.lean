import Percolator.Proofs.Regex.Closing

/-!
# Patterns inside a group

A pattern that is anchored is read inside a group of its own, between the anchors. The machine takes
the same steps there as it takes for the pattern alone, with one more group around all others, until
it comes to a closing parenthesis that the pattern itself has no group for. Main statements: what
the anchored pattern becomes if the pattern is valid, and that nothing becomes of it if the pattern
is not valid and has no such parenthesis.
-/

namespace Percolator.Regex

namespace Reader

/-- The reader with one more group around all others. -/
def inside (root : OpenGroup) (reader : Reader) : Reader :=
  { reader with outer := reader.outer ++ [root] }

/-- Inside a group there is a group to close. -/
theorem inside_outer_ne_nil (root : OpenGroup) (reader : Reader) :
    (reader.inside root).outer ≠ [] :=
  List.append_ne_nil_of_right_ne_nil _ (List.cons_ne_nil _ _)

/-- Only a closing parenthesis closes a group. -/
theorem itemStart_closing {flags : Flags} {c : Char} (h : itemStart flags c = .closing) :
    c = ')' := by
  unfold itemStart at h
  split at h
  all_goals first
    | rfl
    | cases h

section Inside

variable (root : OpenGroup) (reader : Reader)

/-- What a step makes of the reader inside a group. -/
def enter (found : Reader × List Char) : Reader × List Char := (found.1.inside root, found.2)

/-- Repeating a part is the same inside the group. -/
theorem repeat?_inside (least : Nat) (most : Option Nat) :
    (reader.inside root).repeat? least most = (reader.repeat? least most).map (inside root) := by
  unfold repeat? inside
  dsimp only
  split
  · rfl
  · split <;> rfl

/-- So is closing a group that was opened inside. -/
theorem close?_inside (h : reader.outer ≠ []) :
    (reader.inside root).close? = reader.close?.map (inside root) := by
  obtain ⟨group, outer, names⟩ := reader
  cases outer with
  | nil => exact absurd rfl h
  | cons around outer => rfl

/-- So is opening a named group. -/
theorem nameGroup?_inside (row : List Char) :
    (reader.inside root).nameGroup? row = (reader.nameGroup? row).map (enter root) := by
  unfold nameGroup? inside
  dsimp only
  split
  · split <;> rfl
  · rfl

/-- So is opening a group of any kind. -/
theorem readGroup?_inside (row : List Char) :
    (reader.inside root).readGroup? row = (reader.readGroup? row).map (enter root) := by
  have hflags : (reader.inside root).flags = reader.flags := rfl
  rw [readGroup?_eq, readGroup?_eq, hflags]
  split
  · rfl
  · rename_i rest _
    split
    · exact nameGroup?_inside root reader _
    · unfold readFlagGroup?
      rw [hflags]
      split
      · rfl
      · split
        · rfl
        · split <;> rfl

/-- A step inside a group is the step outside of it, but for a closing parenthesis that has no group
outside. -/
theorem step_inside {c : Char} (h : c = ')' → reader.outer ≠ []) (rest : List Char) :
    (reader.inside root).step c rest = (reader.step c rest).map (enter root) := by
  have hflags : (reader.inside root).flags = reader.flags := rfl
  rw [step_eq, step_eq, hflags]
  generalize hstart : itemStart reader.flags c = start
  cases start with
  | opening => exact readGroup?_inside root reader rest
  | closing =>
    dsimp only
    rw [close?_inside root reader (h (itemStart_closing hstart)), Option.map_map, Option.map_map]
    rfl
  | bar => rfl
  | bracket =>
    dsimp only
    cases readBracket reader.flags rest <;> rfl
  | sign least most =>
    dsimp only
    rw [repeat?_inside, Option.map_map, Option.map_map]
    rfl
  | counts =>
    dsimp only
    unfold readRepetition?
    rw [hflags]
    cases readCounts? reader.flags rest with
    | none => rfl
    | some found =>
      obtain ⟨least, most, behind⟩ := found
      show ((reader.inside root).repeat? least most).bind _ = _
      rw [repeat?_inside]
      show _ = ((reader.repeat? least most).bind _).map _
      cases reader.repeat? least most <;> rfl
  | escape =>
    dsimp only
    unfold readEscaped?
    rw [hflags]
    cases readEscape reader.flags rest with
    | none => rfl
    | some found =>
      show (atomOf? reader.flags found.1).bind _ = ((atomOf? reader.flags found.1).bind _).map _
      cases atomOf? reader.flags found.1 <;> rfl
  | alone found => cases found <;> rfl

end Inside

/-- A pattern has a closing parenthesis where no group is open. -/
inductive Stray : Reader → List Char → Prop where
  | here {reader : Reader} {row rest : List Char} (hskip : reader.flags.skip row = ')' :: rest)
    (h : reader.outer = []) : Stray reader row
  | later {reader next : Reader} {row rest behind : List Char} {c : Char}
    (hskip : reader.flags.skip row = c :: rest) (hstep : reader.step c rest = some (next, behind))
    (h : Stray next behind) : Stray reader row

/-- A closing parenthesis is a step only where a group is open. -/
theorem outer_ne_nil_of_step {reader : Reader} {c : Char} {rest : List Char}
    {found : Reader × List Char} (h : reader.step c rest = some found) (hc : c = ')') :
    reader.outer ≠ [] := by
  subst hc
  intro hnil
  have hclose : reader.close? = none := by
    unfold close?
    rw [hnil]
  have hstep : reader.step ')' rest = reader.close?.map (·, rest) := rfl
  rw [hstep, hclose] at h
  cases h

/-- A pattern with a stray parenthesis is not read to its end. -/
theorem Stray.not_reads {reader last : Reader} {row : List Char} (h : Stray reader row) :
    ¬ Reads reader row last := by
  intro hreads
  induction h with
  | here hskip hnil =>
    obtain ⟨_, _, hstep, -⟩ := (reads_step_iff hskip).1 hreads
    exact outer_ne_nil_of_step hstep rfl hnil
  | later hskip hstep _ ih =>
    obtain ⟨_, _, hstep', hnext⟩ := (reads_step_iff hskip).1 hreads
    cases hstep.symm.trans hstep'
    exact ih hnext

/-- What becomes of the reader of a whole pattern inside a group when the closing characters are
read. -/
def sealed (root : OpenGroup) (reader : Reader) : Reader :=
  let content := reader.group.close
  (Reader.push ⟨root, [], reader.names⟩ ⟨content.regex, content.depth + 1, true⟩).pushAtom
    (.look root.flags.dollar)

/-- At the end of a row there is nothing more to read. -/
theorem Reads.eq_of_nil {reader last : Reader} (h : Reads reader [] last) : last = reader :=
  (reads_done_iff (skip_nil _)).1 h

/-- What is left of the closing characters behind the parenthesis opens and closes no group. -/
theorem Reads.outer_of_dollar {reader last : Reader} {row : List Char} (h : Reads reader row last)
    (hrow : row <:+ ['$']) : last.outer = reader.outer := by
  rcases List.suffix_cons_iff.1 hrow with rfl | hnil
  · have hdollar : Reads reader ['$'] (reader.pushAtom (.look reader.flags.dollar)) :=
      .step (skip_of_solid rfl (by decide)) rfl (.done (skip_nil _))
    rw [h.unique hdollar]
    rfl
  · rw [List.suffix_nil.1 hnil] at h
    rw [h.eq_of_nil]

/-- The closing characters end the group around a whole pattern. -/
theorem reads_sealed {reader : Reader} {row : List Char} (hskip : reader.flags.skip row = closing)
    (h : reader.outer = []) (root : OpenGroup) :
    Reads (reader.inside root) row (reader.sealed root) := by
  obtain ⟨group, outer, names⟩ := reader
  subst h
  exact .step hskip rfl (.step (skip_of_solid rfl (by decide)) rfl (.done (skip_nil _)))

/-- A step that is taken is taken inside a group, too, with closing characters behind the row. -/
theorem step_behind {reader next : Reader} {row row' rest behind : List Char} {c : Char}
    (hskip : reader.flags.skip row = c :: rest) (hstep : reader.step c rest = some (next, behind))
    (hrow : Behind row row') (root : OpenGroup) :
    ∃ behind', reader.flags.skip row' = c :: (rest ++ closing) ∧
      reader.step c (rest ++ closing) = some (next, behind') ∧
      (reader.inside root).step c (rest ++ closing) = some (next.inside root, behind') ∧
      Behind behind behind' := by
  have hbehind := hrow.skip reader.flags
  rw [hskip] at hbehind
  rcases hbehind.cases with ⟨heq, -⟩ | ⟨heq, -⟩ | ⟨d, rest', heq, hrest⟩
  · cases heq
  · cases heq
  · cases heq
    have hinside := step_inside root reader (outer_ne_nil_of_step hstep) (rest ++ closing)
    rcases reader.extends_step (.append rest) c with hread | ⟨a, hnone, -⟩
    · rw [hstep] at hread
      generalize hfound : reader.step c (rest ++ closing) = found at hread
      cases hread with
      | read a hq =>
        rw [hfound] at hinside
        exact ⟨_, hrest, rfl, hinside, hq⟩
    · rw [hstep] at hnone
      cases hnone

/-- A pattern that is read to its end alone is read inside a group, too. Either a comment takes the
closing characters with it, and both stay open to more, or these end the group, and the pattern
could not stand alone with them. -/
theorem Reads.behind {reader last : Reader} {row row' : List Char} (h : Reads reader row last)
    (hlast : last.outer = []) (hrow : Behind row row') (root : OpenGroup) :
    (Reads reader row' last ∧ Reads (reader.inside root) row' (last.inside root)) ∨
      ((∀ final, ¬ Reads reader row' final) ∧
        Reads (reader.inside root) row' (last.sealed root)) := by
  induction h generalizing row' with
  | @done reader row hskip =>
    have hbehind := hrow.skip reader.flags
    rw [hskip] at hbehind
    rcases hbehind.cases with ⟨-, hnil⟩ | ⟨-, hclosing⟩ | ⟨c, rest, heq, -⟩
    · exact .inl ⟨.done hnil, .done hnil⟩
    · exact .inr ⟨fun final => (Stray.here hclosing hlast).not_reads,
        reads_sealed hclosing hlast root⟩
    · cases heq
  | step hskip hstep _ ih =>
    obtain ⟨behind', hskip', hstep', hinside, hq⟩ := step_behind hskip hstep hrow root
    rcases ih hlast hq with ⟨halone, hwithin⟩ | ⟨hno, hsealed⟩
    · exact .inl ⟨.step hskip' hstep' halone, .step hskip' hinside hwithin⟩
    · refine .inr ⟨fun final hfinal => ?_, .step hskip' hinside hsealed⟩
      obtain ⟨_, _, hstep'', hnext⟩ := (reads_step_iff hskip').1 hfinal
      cases hstep'.symm.trans hstep''
      exact hno final hnext

/-- A reader does not go on at a brace with nothing but the closing characters behind it. -/
theorem not_reads_brace {reader last : Reader} {rest : List Char}
    (hskip : reader.flags.skip rest = closing) : ¬ Reads reader ('\x7b' :: rest) last := by
  intro hreads
  have hbrace : reader.flags.skip ('\x7b' :: rest) = '\x7b' :: rest :=
    skip_of_solid rfl (by decide)
  have hcount : (readCount reader.flags closing).1 = none := rfl
  have hcounts : readCounts? reader.flags rest = none := by
    rw [readCounts?_eq, hskip, hcount]
    rfl
  have hrepetition : reader.step '\x7b' rest = reader.readRepetition? rest := rfl
  obtain ⟨_, _, hstep, -⟩ := (reads_step_iff hbrace).1 hreads
  rw [hrepetition, readRepetition?, hcounts] at hstep
  cases hstep

/-- A pattern that is not read to its end alone, or leaves a group open there, leaves one open when
it is read inside a group, unless it has a stray parenthesis. -/
theorem Reads.outer_of_inside {reader final : Reader} {row row' : List Char} {root : OpenGroup}
    (h : Reads (reader.inside root) row' final) (hrow : Behind row row')
    (hopen : ∀ last, Reads reader row last → last.outer ≠ []) (hstray : ¬ Stray reader row) :
    final.outer ≠ [] := by
  generalize hinside : reader.inside root = within at h
  induction h generalizing reader row with
  | done hskip =>
    subst hinside
    exact inside_outer_ne_nil root reader
  | @step within next final row' rest behind c hskip hstep hnext ih =>
    subst hinside
    have hbehind := hrow.skip reader.flags
    rcases hbehind.cases with ⟨-, hnil⟩ | ⟨hnil, hclosing⟩ | ⟨d, rest', hd, hd'⟩
    · cases hskip.symm.trans hnil
    · -- The pattern has ended with a group open, which the closing parenthesis closes.
      cases hskip.symm.trans hclosing
      have houter := hopen reader (.done hnil)
      rw [step_inside root reader fun _ => houter] at hstep
      obtain ⟨found, hfound, heq⟩ := Option.map_eq_some_iff.1 hstep
      obtain ⟨closed, -, hrest⟩ := Option.map_eq_some_iff.1 hfound
      cases hrest
      cases heq
      rw [hnext.outer_of_dollar (List.suffix_refl _)]
      exact inside_outer_ne_nil root closed
    · cases hskip.symm.trans hd'
      have houter : c = ')' → reader.outer ≠ [] := by
        intro hc hnil
        subst hc
        exact hstray (.here hd hnil)
      rw [step_inside root reader houter] at hstep
      obtain ⟨⟨entered, behind⟩, hfound, heq⟩ := Option.map_eq_some_iff.1 hstep
      cases heq
      rcases reader.extends_step (.append rest') c with hread | ⟨a, -, after, hafter, hskip'⟩
      · rw [hfound] at hread
        generalize halone : reader.step c rest' = found at hread
        cases hread with
        | read a hq =>
          exact ih hq (fun last hlast => hopen last (.step hd halone hlast))
            (fun hlater => hstray (.later hd halone hlater)) rfl
        | across a hq =>
          rw [hnext.outer_of_dollar hq]
          exact inside_outer_ne_nil root entered
      · cases hfound.symm.trans hafter
        exact absurd hnext (not_reads_brace hskip')

/-- The whole of an anchored pattern, before the group of the pattern itself is closed. -/
def anchor : OpenGroup := ⟨[], [.ofAtom (.look .textStart)], {}⟩

/-- A pattern between the anchors is read inside their group. -/
theorem reads_anchored (row : List Char) (last : Reader) :
    Reads .start ('^' :: '(' :: '?' :: ':' :: (row ++ closing)) last ↔
      Reads (start.inside anchor) (row ++ closing) last := by
  constructor
  · intro h
    obtain ⟨_, _, hcaret, h⟩ := (reads_step_iff rfl).1 h
    cases hcaret
    obtain ⟨_, _, hgroup, h⟩ := (reads_step_iff rfl).1 h
    cases hgroup
    exact h
  · intro h
    exact .step rfl rfl (.step rfl rfl h)

end Reader

open Reader

/-- A pattern between the anchors. -/
def anchored (row : List Char) : List Char := '^' :: '(' :: '?' :: ':' :: (row ++ closing)

/-- A valid pattern that does not take the closing characters into a comment becomes one part of
three, between the anchors. -/
theorem Describes.anchored {row : List Char} {piece : Piece} (h : Describes row piece)
    (hcomment : ∀ piece', ¬ Describes (row ++ closing) piece') :
    Describes (anchored row)
      ⟨.cat (.atom (.look .textStart)) (.cat piece.regex (.atom (.look .textEnd))),
        piece.depth + 2, true⟩ := by
  obtain ⟨last, hreads, houter, rfl⟩ := h
  rcases hreads.behind houter (.append row) anchor with ⟨halone, -⟩ | ⟨-, hsealed⟩
  · exact absurd ⟨last, halone, houter, rfl⟩ (hcomment last.group.close)
  · refine ⟨_, (reads_anchored row _).2 hsealed, rfl, ?_⟩
    show Piece.mk _ (1 + max (max (max 0 0) (last.group.close.depth + 1)) 0) true = _
    congr 1
    omega

/-- The closing characters add nothing to a valid pattern that takes them into a comment. -/
theorem Describes.eq_of_comment {row : List Char} {piece piece' : Piece} (h : Describes row piece)
    (hcomment : Describes (row ++ closing) piece') : piece' = piece := by
  obtain ⟨last, hreads, houter, rfl⟩ := h
  obtain ⟨last', hreads', -, rfl⟩ := hcomment
  rcases hreads.behind houter (.append row) anchor with ⟨halone, -⟩ | ⟨hno, -⟩
  · rw [hreads'.unique halone]
  · exact absurd hreads' (hno last')

/-- A valid pattern that takes the closing characters into a comment is not valid between the
anchors. -/
theorem Describes.not_anchored {row : List Char} {piece piece' : Piece} (h : Describes row piece)
    (hcomment : Describes (row ++ closing) piece') (piece'' : Piece) :
    ¬ Describes (Regex.anchored row) piece'' := by
  obtain ⟨last, hreads, houter, rfl⟩ := h
  obtain ⟨last', hreads', -, -⟩ := hcomment
  intro hanchored
  obtain ⟨final, hfinal, hnil, -⟩ := hanchored
  rcases hreads.behind houter (.append row) anchor with ⟨-, hinside⟩ | ⟨hno, -⟩
  · rw [((reads_anchored row _).1 hfinal).unique hinside] at hnil
    exact inside_outer_ne_nil anchor last hnil
  · exact hno last' hreads'

/-- A pattern that is not valid alone, but between the anchors, has a stray parenthesis. -/
theorem stray_of_anchored {row : List Char} {piece : Piece}
    (h : ∀ piece', ¬ Describes row piece') (hanchored : Describes (anchored row) piece) :
    Stray .start row := by
  obtain ⟨final, hfinal, hnil, -⟩ := hanchored
  refine Classical.byContradiction fun hstray => ?_
  refine ((reads_anchored row _).1 hfinal).outer_of_inside (.append row) ?_ hstray hnil
  intro last hlast houter
  exact h _ ⟨last, hlast, houter, rfl⟩

end Percolator.Regex
