import Percolator.Proofs.Pattern.Like

/-!
# Equality of patterns

Patterns are equal when they stand for the same text of a regular expression. In the text for a LIKE
pattern nothing stands between the tokens, but it can be read back in one way only: a backslash is
always the first of two characters, and a star always belongs to the point before it. Main
statement: LIKE patterns are equal if and only if they denote the same tokens, and no LIKE pattern
is equal to a regular expression by the user.
-/

namespace Percolator

namespace Like

/-- The tokens from which the parts of a regular expression were written. -/
def readBack : List Char → List Token
  | [] => []
  | '\\' :: c :: rest => .literal c :: readBack rest
  | '.' :: '*' :: rest => .anyRun :: readBack rest
  | '.' :: rest => .anyOne :: readBack rest
  | c :: rest => .literal c :: readBack rest

/-- A backslash is read with the character behind it. -/
theorem readBack_escaped (c : Char) (rest : List Char) :
    readBack ('\\' :: c :: rest) = .literal c :: readBack rest := by
  rw [readBack]

/-- A point is read with the star behind it. -/
theorem readBack_run (rest : List Char) :
    readBack ('.' :: '*' :: rest) = .anyRun :: readBack rest := by
  rw [readBack]

/-- A point is any one character, unless there is a star behind it. -/
theorem readBack_one {rest : List Char} (h : rest.head? ≠ some '*') :
    readBack ('.' :: rest) = .anyOne :: readBack rest := by
  rw [readBack]
  rintro more rfl
  exact h rfl

/-- A character without a meaning of its own is itself. -/
theorem readBack_plain {c : Char} (h : Regex.isMeta c = false) (rest : List Char) :
    readBack (c :: rest) = .literal c :: readBack rest := by
  rw [readBack]
  · rintro _ _ rfl
    exact absurd h (by decide)
  · rintro _ rfl
    exact absurd h (by decide)
  · rintro rfl
    exact absurd h (by decide)

/-- A character with a meaning of its own is written behind a backslash. -/
theorem regex_literal_of_meta {c : Char} (h : Regex.isMeta c = true) :
    (Token.literal c).regex = ['\\', c] :=
  if_pos h

/-- Any other character is written as itself. -/
theorem regex_literal_of_plain {c : Char} (h : Regex.isMeta c = false) :
    (Token.literal c).regex = [c] :=
  if_neg (Bool.eq_false_iff.mp h)

/-- No token is written with a star in front. -/
theorem head?_regex_append (token : Token) (rest : List Char) :
    (token.regex ++ rest).head? ≠ some '*' := by
  intro h
  cases token with
  | anyRun => exact absurd (Option.some.inj h) (by decide)
  | anyOne => exact absurd (Option.some.inj h) (by decide)
  | literal c =>
    cases hmeta : Regex.isMeta c with
    | true =>
      rw [regex_literal_of_meta hmeta] at h
      exact absurd (Option.some.inj h) (by decide)
    | false =>
      rw [regex_literal_of_plain hmeta] at h
      have hstar : c = '*' := Option.some.inj h
      rw [hstar] at hmeta
      exact absurd hmeta (by decide)

/-- The tokens are read back as they were written. -/
theorem readBack_flatMap (row : List Token) : readBack (row.flatMap Token.regex) = row := by
  induction row with
  | nil => rw [List.flatMap_nil, readBack]
  | cons token row ih =>
    rw [List.flatMap_cons]
    cases token with
    | anyRun => exact (readBack_run _).trans (congrArg _ ih)
    | anyOne =>
      have hstar : (row.flatMap Token.regex).head? ≠ some '*' := by
        cases row with
        | nil => exact fun h => absurd h (by decide)
        | cons next row => exact head?_regex_append next _
      exact (readBack_one hstar).trans (congrArg _ ih)
    | literal c =>
      cases hmeta : Regex.isMeta c with
      | true =>
        rw [regex_literal_of_meta hmeta]
        exact (readBack_escaped c _).trans (congrArg _ ih)
      | false =>
        rw [regex_literal_of_plain hmeta]
        exact (readBack_plain hmeta _).trans (congrArg _ ih)

/-- Different rows of tokens are written as different regular expressions. -/
theorem regexOf_injective : Function.Injective regexOf := by
  intro row row' h
  have hparts : row.flatMap Token.regex = row'.flatMap Token.regex :=
    List.append_cancel_left (List.append_cancel_right (String.ofList_injective h))
  calc row = readBack (row.flatMap Token.regex) := (readBack_flatMap row).symm
    _ = readBack (row'.flatMap Token.regex) := congrArg readBack hparts
    _ = row' := readBack_flatMap row'

end Like

namespace Pattern

/-- Patterns are equal if they stand for the same text. -/
theorem beq_iff {p q : Pattern} : (p == q) = true ↔ p.text = q.text :=
  beq_iff_eq (a := p.text) (b := q.text)

/-- Patterns that stand for the same text are the same regular expression. -/
theorem regex_congr {p q : Pattern} (h : p.text = q.text) : p.regex = q.regex := by
  have hparsed : Regex.parse? p.text = some q.regex := h ▸ q.parsed
  exact Option.some.inj (p.parsed.symm.trans hparsed)

/-- Patterns that stand for the same text match the same values. -/
theorem isMatch_congr {p q : Pattern} (h : p.text = q.text) (value : String) :
    p.isMatch value = q.isMatch value := by
  rw [isMatch, isMatch, regex_congr h]

/-- The text for a LIKE pattern starts with flags and not with an anchor. -/
theorem likeText_ne_anchoredText (source pattern : String) (escape : Option Char) :
    likeText source escape ≠ anchoredText pattern := by
  intro h
  have hfirst : (likeText source escape).toList.head? = (anchoredText pattern).toList.head? := by
    rw [h]
  rw [likeText, Like.regexOf, String.toList_ofList, anchoredText, String.toList_append,
    String.toList_append] at hfirst
  exact absurd (Option.some.inj hfirst) (by decide)

/-- The laws of equality of patterns. -/
structure EqualityLaws [Regex.Compiler] : Prop where
  /-- Two LIKE patterns denote one row of tokens each. They are equal, once both were read, if and only
  if the rows are the same. -/
  decides : ∀ (source source' : String) (escape escape' : Option Char), ∃ row row',
    (∀ other, Like.Denotes escape source.toList other ↔ other = row) ∧
    (∀ other, Like.Denotes escape' source'.toList other ↔ other = row') ∧
    ∀ p p', like? source escape = some p → like? source' escape' = some p' →
      ((p == p') = true ↔ row = row')
  /-- LIKE patterns are read unless their automata are too large. -/
  read : ∀ (source : String) (escape : Option Char), (like? source escape).isSome = true ↔
    Regex.Compiler.size (likeText source escape) ≤ Regex.sizeLimit
  /-- Different rows of tokens are written as different texts. -/
  injective : Function.Injective Like.regexOf
  /-- No LIKE pattern is equal to a regular expression by the user. -/
  apart : ∀ (source pattern : String) (escape : Option Char) (p r : Pattern),
    like? source escape = some p → regex? pattern = some r → (p == r) = false

/-- Equality of patterns tells LIKE patterns apart exactly if they denote different tokens, and from
all regular expressions by the user. -/
theorem equality_exact [Regex.Compiler] : EqualityLaws where
  decides source source' escape escape' := by
    refine ⟨_, _, Like.denotes_iff escape source.toList, Like.denotes_iff escape' source'.toList,
      fun p p' hp hp' => ?_⟩
    rw [beq_iff, text_of_ofText? hp, text_of_ofText? hp']
    exact Like.regexOf_injective.eq_iff
  read source escape := by
    rw [like?, isSome_ofText?_iff, likeText, Like.parse?_regexOf]
    exact and_iff_right rfl
  injective := Like.regexOf_injective
  apart source pattern escape p r hp hr := by
    rw [Bool.eq_false_iff, ne_eq, beq_iff, text_of_ofText? hp, text_of_ofText? hr]
    exact likeText_ne_anchoredText source pattern escape

end Pattern

end Percolator
