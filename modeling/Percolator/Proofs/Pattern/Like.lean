import Percolator.Predicate
import Percolator.Proofs.Regex.Reach
import Percolator.Proofs.Regex.Reading

/-!
# LIKE patterns mean what they denote

What a LIKE pattern denotes is told by rules for its first characters, apart from the function that
reads it. The regular expression written for it is read back token by token, whatever characters
stand in the pattern, and takes exactly the texts that the tokens accept. It is always valid, but its
automaton grows with the tokens. Main statements: a LIKE pattern is accepted exactly if its automaton is
not too large, and then matches a text if and only if the tokens it denotes accept the whole of it; with
the automata used by default, every pattern of at most ten thousand characters is accepted.
-/

namespace Percolator

namespace Like

/-- The tokens that a LIKE pattern denotes. The escape character comes before the signs, so that a
sign that is the escape character has no meaning of its own. -/
inductive Denotes (escape : Option Char) : List Char → List Token → Prop where
  | nil : Denotes escape [] []
  /-- The character behind an escape character is itself. -/
  | escaped {c d : Char} {rest : List Char} {row : List Token} (h : escape = some c) :
    Denotes escape rest row → Denotes escape (c :: d :: rest) (.literal d :: row)
  /-- An escape character at the end is itself. -/
  | trailing {c : Char} (h : escape = some c) : Denotes escape [c] [.literal c]
  | anyRun {rest : List Char} {row : List Token} (h : escape ≠ some '%') :
    Denotes escape rest row → Denotes escape ('%' :: rest) (.anyRun :: row)
  | anyOne {rest : List Char} {row : List Token} (h : escape ≠ some '_') :
    Denotes escape rest row → Denotes escape ('_' :: rest) (.anyOne :: row)
  | literal {c : Char} {rest : List Char} {row : List Token} (h : escape ≠ some c) (hrun : c ≠ '%')
    (hone : c ≠ '_') : Denotes escape rest row → Denotes escape (c :: rest) (.literal c :: row)

/-- An escape character makes the next character a literal. -/
theorem tokens_escape {escape : Option Char} {c : Char} (h : escape = some c) (d : Char)
    (rest : List Char) : tokens escape (c :: d :: rest) = .literal d :: tokens escape rest := by
  rw [tokens.eq_def]
  exact if_pos h.symm

/-- A trailing escape character is a literal. -/
theorem tokens_trailing {escape : Option Char} {c : Char} (h : escape = some c) :
    tokens escape [c] = [.literal c] := by
  rw [tokens.eq_def]
  exact if_pos h.symm

/-- Any other character is a token of its own. -/
theorem tokens_cons {escape : Option Char} {c : Char} (h : escape ≠ some c) (rest : List Char) :
    tokens escape (c :: rest) = tokenOf c :: tokens escape rest := by
  rw [tokens.eq_def]
  exact if_neg (Ne.symm h)

/-- A pattern denotes the tokens that are read from it, and no others. -/
theorem denotes_iff (escape : Option Char) (pattern : List Char) (row : List Token) :
    Denotes escape pattern row ↔ row = tokens escape pattern := by
  constructor
  · intro h
    induction h with
    | nil => rfl
    | escaped h _ ih => rw [tokens_escape h, ih]
    | trailing h => rw [tokens_trailing h]
    | anyRun h _ ih =>
      rw [tokens_cons h, ih]
      rfl
    | anyOne h _ ih =>
      rw [tokens_cons h, ih]
      rfl
    | literal h hrun hone _ ih =>
      rw [tokens_cons h, ih]
      unfold tokenOf
      split
      · exact absurd rfl hrun
      · exact absurd rfl hone
      · rfl
  · intro h
    subst h
    fun_induction tokens escape pattern with
    | case1 => exact .nil
    | case2 c h => exact .trailing h.symm
    | case3 c h d rest ih => exact .escaped h.symm ih
    | case4 c rest h ih =>
      unfold tokenOf
      split
      · exact .anyRun (Ne.symm h) ih
      · exact .anyOne (Ne.symm h) ih
      · rename_i hrun hone
        exact .literal (Ne.symm h) hrun hone ih

open Regex

/-- The flags in force in the regular expression for a LIKE pattern. -/
def flags : Flags := { dotAll := true }

/-- The part of a regular expression that a token becomes. -/
def Token.piece : Token → Piece
  | anyRun => ⟨.rep (.atom (.one .all)) 0 none, 1, true⟩
  | anyOne => .ofAtom (.one .all)
  | literal c => .ofAtom (.one (.single c))

/-- The reader inside the regular expression for a LIKE pattern, after some parts. -/
def reader (items : List Piece) : Reader := ⟨⟨[], items, flags⟩, [], []⟩

/-- A character that may be escaped is itself behind a backslash. -/
theorem readEscape_literal (flags : Flags) {c : Char} (h : isEscapable c = true)
    (rest : List Char) : readEscape flags (c :: rest) = some (.literal c false, rest) := by
  unfold readEscape
  dsimp only
  exact if_pos h

/-- A character without a meaning of its own is read as itself. -/
theorem step_literal (reader : Reader) {c : Char} (h : isMeta c = false) (rest : List Char) :
    reader.step c rest =
      (literalSet? reader.flags c false).map fun set => (reader.pushAtom (.one set), rest) := by
  unfold Reader.step
  split
  all_goals first
    | exact absurd h (by decide)
    | rfl

/-- A quoted character is read as itself. -/
theorem reads_quote (items : List Piece) (c : Char) {rest : List Char} {last : Reader}
    (h : Reader.Reads (reader ((Token.literal c).piece :: items)) rest last) :
    Reader.Reads (reader items) (quote c ++ rest) last := by
  unfold quote
  split
  · rename_i hmeta
    have hescapable : isEscapable c = true := by rw [isEscapable, hmeta, Bool.true_or]
    refine .step rfl ?_ h
    show (readEscape flags (c :: rest)).bind _ = _
    rw [readEscape_literal flags hescapable]
    rfl
  · rename_i hmeta
    refine .step rfl ?_ h
    exact step_literal (reader items) (Bool.eq_false_iff.2 hmeta) rest

/-- The expression for some tokens does not start with a question mark, which would belong to a
repetition before it. -/
theorem dropLazy_tokens (row : List Token) :
    Reader.dropLazy (row.flatMap Token.regex ++ ['$']) = row.flatMap Token.regex ++ ['$'] := by
  cases row with
  | nil => rfl
  | cons token row =>
    cases token with
    | anyRun => rfl
    | anyOne => rfl
    | literal c =>
      rw [List.flatMap_cons, List.append_assoc, Token.regex, quote]
      split
      · rfl
      · rename_i hmeta
        unfold Reader.dropLazy
        split
        · rename_i heq
          cases heq
          exact absurd (by decide) hmeta
        · rfl

/-- The expression for some tokens is read as one part for each token, and the end of the text. -/
theorem reads_tokens (row : List Token) (items : List Piece) :
    Reader.Reads (reader items) (row.flatMap Token.regex ++ ['$'])
      (reader (.ofAtom (.look .textEnd) :: ((row.map Token.piece).reverse ++ items))) := by
  induction row generalizing items with
  | nil => exact .step rfl rfl (.done rfl)
  | cons token row ih =>
    rw [List.map_cons, List.reverse_cons, List.append_assoc, List.singleton_append]
    have hrow := ih (token.piece :: items)
    rw [List.flatMap_cons, List.append_assoc]
    cases token with
    | anyRun =>
      have hstar : ((reader items).pushAtom (.one .all)).step '*' (row.flatMap Token.regex ++ ['$'])
          = some (reader (Token.anyRun.piece :: items),
            Reader.dropLazy (row.flatMap Token.regex ++ ['$'])) := rfl
      rw [dropLazy_tokens] at hstar
      exact .step rfl rfl (.step rfl hstar hrow)
    | anyOne => exact .step rfl rfl hrow
    | literal c => exact reads_quote items c hrow

/-- The expression for some tokens as a whole. -/
theorem reads_regexOf (row : List Token) :
    Reader.Reads .start (regexOf row).toList
      (reader (.ofAtom (.look .textEnd) :: ((row.map Token.piece).reverse ++
        [.ofAtom (.look .textStart), .flags]))) := by
  rw [regexOf, String.toList_ofList, List.append_assoc]
  exact .step rfl rfl (.step rfl rfl (reads_tokens row _))

/-- The regular expression for some tokens, up to the end of the text. -/
def expression (row : List Token) : Regex Atom :=
  row.foldr (fun token regex => .cat token.piece.regex regex) (.atom (.look .textEnd))

/-- The expression for some tokens describes one part, which is not deep. -/
theorem describes_regexOf (row : List Token) : ∃ piece, Describes (regexOf row).toList piece ∧
    piece.depth ≤ 2 ∧
    piece.regex = .cat .empty (.cat (.atom (.look .textStart)) (expression row)) := by
  have hclose : (reader (.ofAtom (.look .textEnd) :: ((row.map Token.piece).reverse ++
      [.ofAtom (.look .textStart), .flags]))).group.close = _ :=
    Piece.sequence_cons _ (List.append_ne_nil_of_right_ne_nil _ (List.cons_ne_nil _ _))
  refine ⟨_, ⟨_, reads_regexOf row, rfl, hclose⟩, ?_, ?_⟩
  · show 1 + Piece.maxDepth _ ≤ 1 + 1
    refine Nat.add_le_add_left (Piece.maxDepth_le fun piece hpiece => ?_) 1
    simp only [List.mem_cons, List.mem_append, List.mem_reverse, List.mem_map,
      List.not_mem_nil, or_false] at hpiece
    rcases hpiece with rfl | ⟨token, -, rfl⟩ | rfl | rfl
    · exact Nat.zero_le 1
    · cases token with
      | anyRun => exact Nat.le_refl 1
      | anyOne => exact Nat.zero_le 1
      | literal c => exact Nat.zero_le 1
    · exact Nat.zero_le 1
    · exact Nat.zero_le 1
  · dsimp only
    rw [List.foldl_append, List.foldl_reverse, List.foldr_map]
    rfl

/-- Any one character takes a step within the text. -/
theorem spans_anyOne (text : List Char) (i j : Nat) :
    Token.anyOne.piece.regex.Spans text i j ↔ j = i + 1 ∧ i < text.length := by
  refine and_congr_right fun _ => ?_
  constructor
  · intro hparts
    rcases hparts with ⟨c, hc, -⟩
    exact (List.getElem?_eq_some_iff.1 hc).1
  · intro hi
    exact ⟨text[i], List.getElem?_eq_getElem hi, rfl⟩

/-- A character takes a step over itself. -/
theorem spans_literal (text : List Char) (c : Char) (i j : Nat) :
    (Token.literal c).piece.regex.Spans text i j ↔ j = i + 1 ∧ text[i]? = some c := by
  refine and_congr_right fun _ => ?_
  constructor
  · intro hparts
    rcases hparts with ⟨d, hd, h⟩
    obtain ⟨hle, hge⟩ := Bool.and_eq_true_iff.1 h
    rw [hd, Char.le_antisymm (of_decide_eq_true hge) (of_decide_eq_true hle)]
  · intro hc
    exact ⟨c, hc, by simp [CharSet.single, CharSet.contains]⟩

/-- A run of any characters goes to any later place of the text. -/
theorem spans_anyRun (text : List Char) {i : Nat} (hi : i ≤ text.length) (j : Nat) :
    Token.anyRun.piece.regex.Spans text i j ↔ i ≤ j ∧ j ≤ text.length := by
  have hrounds : ∀ n i, i ≤ text.length →
      (InRounds (Token.anyOne.piece.regex.Spans text) n i j ↔ j = i + n ∧ j ≤ text.length) := by
    intro n
    induction n with
    | zero =>
      intro i hi
      simp only [InRounds]
      omega
    | succ n ih =>
      intro i hi
      simp only [InRounds, spans_anyOne]
      constructor
      · intro hparts
        rcases hparts with ⟨k, ⟨rfl, hlt⟩, h⟩
        have := (ih (i + 1) hlt).1 h
        omega
      · intro h
        exact ⟨i + 1, ⟨rfl, by omega⟩, (ih (i + 1) (by omega)).2 (by omega)⟩
  constructor
  · intro hparts
    rcases hparts with ⟨n, -, -, h⟩
    have := (hrounds n i hi).1 h
    omega
  · intro h
    refine ⟨j - i, Nat.zero_le _, ?_, (hrounds _ i hi).2 (by omega)⟩
    intro most hmost
    cases hmost

/-- The tokens after a run of any characters accept some end of the text. -/
theorem accepts_anyRun (row : List Token) (text : List Char) :
    Accepts (.anyRun :: row) text ↔ ∃ n, n ≤ text.length ∧ Accepts row (text.drop n) := by
  constructor
  · intro h
    cases h with
    | anyRun run h => exact ⟨run.length, by simp, by simpa using h⟩
  · intro hparts
    rcases hparts with ⟨n, -, h⟩
    have hrun := Accepts.anyRun (text.take n) h
    rwa [List.take_append_drop] at hrun

/-- The tokens after any one character accept the text without its first character. -/
theorem accepts_anyOne (row : List Token) (text : List Char) :
    Accepts (.anyOne :: row) text ↔ 0 < text.length ∧ Accepts row (text.drop 1) := by
  constructor
  · intro h
    cases h with
    | anyOne c h => exact ⟨Nat.zero_lt_succ _, h⟩
  · intro hparts
    rcases hparts with ⟨hlength, h⟩
    cases text with
    | nil => exact absurd hlength (Nat.lt_irrefl 0)
    | cons c rest => exact .anyOne c h

/-- A character accepts itself at the start of the text. -/
theorem accepts_literal (row : List Token) (c : Char) (text : List Char) :
    Accepts (.literal c :: row) text ↔ text[0]? = some c ∧ Accepts row (text.drop 1) := by
  constructor
  · intro h
    cases h with
    | literal c h => exact ⟨rfl, h⟩
  · intro hparts
    rcases hparts with ⟨hc, h⟩
    cases text with
    | nil => cases hc
    | cons d rest =>
      cases hc
      exact .literal c h

/-- The expression takes exactly what the tokens accept, up to the end of the text. -/
theorem spans_expression (text : List Char) (row : List Token) {i : Nat} (hi : i ≤ text.length)
    (j : Nat) :
    (expression row).Spans text i j ↔ j = text.length ∧ Accepts row (text.drop i) := by
  induction row generalizing i with
  | nil =>
    refine (spans_textEnd text i j).trans ?_
    constructor
    · intro hparts
      rcases hparts with ⟨rfl, hj⟩
      exact ⟨hj, by rw [List.drop_length]; exact .nil⟩
    · intro hparts
      rcases hparts with ⟨hj, h⟩
      generalize hrest : text.drop i = rest at h
      cases h
      exact ⟨Nat.le_antisymm hi (List.drop_eq_nil_iff.1 hrest), hj⟩
  | cons token row ih =>
    show (∃ k, token.piece.regex.Spans text i k ∧ (expression row).Spans text k j) ↔ _
    cases token with
    | anyRun =>
      rw [accepts_anyRun, List.length_drop]
      constructor
      · intro hparts
        rcases hparts with ⟨k, hk, h⟩
        obtain ⟨hik, hkl⟩ := (spans_anyRun text hi k).1 hk
        obtain ⟨hj, h⟩ := (ih hkl).1 h
        exact ⟨hj, k - i, by omega, by rwa [List.drop_drop, Nat.add_sub_cancel' hik]⟩
      · intro hparts
        rcases hparts with ⟨hj, n, hn, h⟩
        rw [List.drop_drop] at h
        exact ⟨i + n, (spans_anyRun text hi _).2 (by omega), (ih (by omega)).2 ⟨hj, h⟩⟩
    | anyOne =>
      rw [accepts_anyOne, List.length_drop, List.drop_drop]
      constructor
      · intro hparts
        rcases hparts with ⟨k, hk, h⟩
        obtain ⟨rfl, hlt⟩ := (spans_anyOne text i k).1 hk
        obtain ⟨hj, h⟩ := (ih hlt).1 h
        exact ⟨hj, by omega, h⟩
      · intro hparts
        rcases hparts with ⟨hj, hlt, h⟩
        exact ⟨i + 1, (spans_anyOne text i _).2 ⟨rfl, by omega⟩, (ih (by omega)).2 ⟨hj, h⟩⟩
    | literal c =>
      rw [accepts_literal, List.getElem?_drop, List.drop_drop, Nat.add_zero]
      constructor
      · intro hparts
        rcases hparts with ⟨k, hk, h⟩
        obtain ⟨rfl, hc⟩ := (spans_literal text c i k).1 hk
        obtain ⟨hj, h⟩ := (ih (List.getElem?_eq_some_iff.1 hc).1).1 h
        exact ⟨hj, hc, h⟩
      · intro hparts
        rcases hparts with ⟨hj, hc, h⟩
        have hlt := (List.getElem?_eq_some_iff.1 hc).1
        exact ⟨i + 1, (spans_literal text c i _).2 ⟨rfl, hc⟩, (ih hlt).2 ⟨hj, h⟩⟩

/-- The expression for some tokens is valid, and is the expression between the ends of the text. -/
theorem parse?_regexOf (row : List Token) :
    parse? (regexOf row) = some (.cat .empty (.cat (.atom (.look .textStart)) (expression row))) := by
  obtain ⟨piece, hpiece, hdepth, hregex⟩ := describes_regexOf row
  exact (parse?_eq_some_iff _ _).2 ⟨piece, hpiece, Nat.le_trans hdepth (by decide), hregex⟩

/-- The expression for some tokens matches exactly the texts of which they accept the whole. -/
theorem matchesPart_regexOf (row : List Token) (text : List Char) :
    MatchesPart (.cat .empty (.cat (.atom (.look .textStart)) (expression row))) text ↔
      Accepts row text := by
  constructor
  · intro hparts
    rcases hparts with ⟨i, j, hi, k, hk, l, hl, h⟩
    obtain ⟨rfl, rfl⟩ := (spans_textStart _ k l).1 hl
    exact ((spans_expression _ _ (Nat.zero_le _) j).1 h).2
  · intro h
    exact ⟨0, text.length, Nat.zero_le _, 0, rfl, 0, (spans_textStart _ 0 0).2 ⟨rfl, rfl⟩,
      (spans_expression _ _ (Nat.zero_le _) _).2 ⟨rfl, h⟩⟩

/-- The number of bytes of the part of an automaton for a token. -/
def Token.bytes (token : Token) : Nat := token.piece.regex.bytes

/-- The part for any one character. -/
theorem bytes_anyOne : Token.anyOne.bytes = 964 := by
  decide +kernel

/-- No token has a larger part than a run of any characters. -/
theorem Token.bytes_le (token : Token) : token.bytes ≤ 1004 := by
  cases token with
  | anyRun => decide +kernel
  | anyOne => decide +kernel
  | literal c =>
    have hsize : (Token.literal c).bytes = stateSize * c.utf8Size := if_pos rfl
    have hle := c.utf8Size_le_four
    rw [hsize, stateSize]
    omega

/-- The number of bytes of the parts for some tokens. -/
def bytesFor (row : List Token) : Nat := row.foldr (fun token total => token.bytes + total) 0

/-- The parts for some tokens take no more bytes than as many parts for a run of any characters. -/
theorem bytesFor_le (row : List Token) : bytesFor row ≤ 1004 * row.length := by
  induction row with
  | nil => exact Nat.le_refl 0
  | cons token row ih =>
    have hle := token.bytes_le
    rw [bytesFor] at ih
    rw [bytesFor, List.foldr_cons, List.length_cons]
    omega

/-- The parts for a token repeated. -/
theorem bytesFor_replicate (n : Nat) (token : Token) :
    bytesFor (List.replicate n token) = token.bytes * n := by
  induction n with
  | zero => rfl
  | succ n ih =>
    rw [bytesFor] at ih
    rw [bytesFor, List.replicate_succ, List.foldr_cons, ih, Nat.mul_succ, Nat.add_comm]

/-- The automaton for some tokens has a part for each of them. -/
theorem bytes_expression (row : List Token) :
    (expression row).bytes = bytesFor row + stateSize := by
  induction row with
  | nil => exact (Nat.zero_add _).symm
  | cons token row ih =>
    have hcat : (expression (token :: row)).bytes = token.bytes + (expression row).bytes := rfl
    have hrow : bytesFor (token :: row) = token.bytes + bytesFor row := rfl
    rw [hcat, hrow, ih, Nat.add_assoc]

/-- Besides, it has states for both ends of the text and a last one. -/
theorem size_regexOf (row : List Token) :
    Compiler.size (regexOf row) = bytesFor row + 3 * stateSize := by
  have hsize : Compiler.size (regexOf row)
      = (parse? (regexOf row)).elim 0 fun regex => regex.bytes + stateSize := rfl
  rw [hsize, parse?_regexOf, Option.elim_some, bytes, bytes, bytes, bytes, bytes_expression]
  omega

/-- Underscores without an escape character stand for any characters. -/
theorem tokens_replicate (n : Nat) :
    tokens none (List.replicate n '_') = List.replicate n .anyOne := by
  induction n with
  | zero => rfl
  | succ n ih =>
    rw [List.replicate_succ, List.replicate_succ, tokens_cons (Option.some_ne_none '_').symm, ih]
    rfl

/-- A pattern does not have more tokens than characters. -/
theorem length_tokens_le (escape : Option Char) (pattern : List Char) :
    (tokens escape pattern).length ≤ pattern.length := by
  fun_induction tokens escape pattern with
  | case1 => exact Nat.le_refl 0
  | case2 c h => exact Nat.le_refl 1
  | case3 c h d rest ih => exact Nat.succ_le_succ (Nat.le_succ_of_le ih)
  | case4 c rest h ih => exact Nat.succ_le_succ ih

end Like

namespace Pattern

/-- A LIKE pattern denotes one row of tokens, whatever its escape character. It is accepted exactly if
the automaton for the expression written for these is not too large, and then matches a text if and only
if the tokens accept the whole of it. -/
theorem like_exact [Regex.Compiler] (pattern : String) (escape : Option Char) :
    ∃ row, (∀ row', Like.Denotes escape pattern.toList row' ↔ row' = row) ∧
      ((like? pattern escape).isSome = true ↔
        Regex.Compiler.size (Like.regexOf row) ≤ Regex.sizeLimit) ∧
      ∀ p, like? pattern escape = some p →
        ∀ value : String, p.isMatch value = true ↔ Like.Accepts row value.toList := by
  have hparse := Like.parse?_regexOf (Like.tokens escape pattern.toList)
  refine ⟨_, Like.denotes_iff escape pattern.toList, ?_, fun p hp value => ?_⟩
  · rw [like?, isSome_ofText?_iff, likeText, hparse]
    exact and_iff_right rfl
  · have hregex : some p.regex = some _ := (parse?_of_ofText? hp).symm.trans hparse
    obtain ⟨piece, hpiece, -, hpregex⟩ := (Regex.parse?_eq_some_iff _ _).1 hparse
    rw [isMatch, Option.some.inj hregex, Regex.isMatch_iff _ (hpregex ▸ hpiece.ordered)]
    exact Like.matchesPart_regexOf _ _

/-- A pattern of fifty thousand underscores is refused, because its automaton would be too large. -/
theorem like_refused : like? (String.ofList (List.replicate 50000 '_')) none = none := by
  rw [← Option.not_isSome_iff_eq_none, like?, isSome_ofText?_iff, likeText, String.toList_ofList,
    Like.tokens_replicate, Like.size_regexOf, Like.bytesFor_replicate, Like.bytes_anyOne]
  exact fun hparts => absurd hparts.2 (by decide)

/-- A pattern of at most ten thousand characters is accepted, whatever its escape character. -/
theorem isSome_like?_of_length_le {pattern : String} (h : pattern.toList.length ≤ 10000)
    (escape : Option Char) : (like? pattern escape).isSome = true := by
  have hlength := Like.length_tokens_le escape pattern.toList
  have hbytes := Like.bytesFor_le (Like.tokens escape pattern.toList)
  rw [like?, isSome_ofText?_iff, likeText, Like.parse?_regexOf, Like.size_regexOf, Regex.stateSize,
    Regex.sizeLimit]
  exact ⟨rfl, by omega⟩

end Pattern

end Percolator
