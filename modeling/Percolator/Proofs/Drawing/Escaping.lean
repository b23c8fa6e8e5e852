import Percolator.Tree.Graphviz

/-!
# Reading escaped texts

Whoever reads a drawing takes a backslash together with the character behind it. What is taken at once is
a glyph: a pair of a backslash and another character, or a bare character. Only bare characters have a
meaning of their own: a bare quote begins or ends a quoted string, and a bare bar divides a record. Main
statements: the glyphs of an escaped text stand for its characters one by one, so escaping is undone by
taking away the backslashes before structural characters, and puts every other structural character
behind an odd number of backslashes; and texts without a bare mark are found again between bare marks.
-/

namespace Percolator

/-- The characters that structure records, and the backslash. -/
def structural (c : Char) : Bool := ['\x7b', '\x7d', '|', '<', '>', '"', '\\'].contains c

/-- What a reader takes at once: a backslash goes with the character behind it. -/
def glyphs : List Char → List (List Char)
  | [] => []
  | [c] => [[c]]
  | c :: d :: rest => if c = '\\' then [c, d] :: glyphs rest else [c] :: glyphs (d :: rest)

/-- What a glyph stands for: a structural character goes without the backslash. -/
def standsFor : List Char → List Char
  | [c, d] => if c = '\\' ∧ structural d then [d] else [c, d]
  | glyph => glyph

/-- Take one backslash away before every escaped structural character. -/
def unescape (text : List Char) : List Char := (glyphs text).flatMap standsFor

/-- How many backslashes stand directly before the place behind a text. -/
def backslashes (before : List Char) : Nat := (before.reverse.takeWhile (· == '\\')).length

/-- What stands between the bare marks of a text. -/
def pieces (mark : Char) (text : List Char) : List (List Char) :=
  ((glyphs text).splitOn [mark]).map List.flatten

/-- The second, fourth, and so on of some things. -/
def everyOther {α : Type} : List α → List α
  | _ :: second :: rest => second :: everyOther rest
  | _ => []

/-- The quoted strings of a text: bare quotes begin and end one in turn. -/
def quotedStrings (text : List Char) : List (List Char) := everyOther (pieces '"' text)

/-- A structural character gets a backslash. -/
theorem escapeChar_eq (c : Char) :
    escapeChar c = if structural c then ['\\', c] else [c] := rfl

/-- A character is bare unless it is a backslash. -/
theorem glyphs_cons_of_ne {c : Char} (h : c ≠ '\\') (rest : List Char) :
    glyphs (c :: rest) = [c] :: glyphs rest := by
  cases rest with
  | nil => rfl
  | cons d rest => rw [glyphs, if_neg h]

/-- A backslash goes with the character behind it. -/
theorem glyphs_backslash (c : Char) (rest : List Char) :
    glyphs ('\\' :: c :: rest) = ['\\', c] :: glyphs rest := by
  rw [glyphs, if_pos rfl]

/-- Glyphs lose nothing of a text. -/
theorem flatten_glyphs (text : List Char) : (glyphs text).flatten = text := by
  fun_induction glyphs text with
  | case1 => rfl
  | case2 c => rfl
  | case3 d rest ih => rw [List.flatten_cons, ih]; rfl
  | case4 c d rest _ ih => rw [List.flatten_cons, ih]; rfl

/-- The glyphs of a text without backslashes are its characters, whatever comes behind it. -/
theorem glyphs_append_of_not_mem {text : List Char} (h : '\\' ∉ text) (rest : List Char) :
    glyphs (text ++ rest) = text.map ([·]) ++ glyphs rest := by
  induction text with
  | nil => rfl
  | cons c text ih =>
    rw [List.mem_cons, not_or] at h
    rw [List.cons_append, glyphs_cons_of_ne (Ne.symm h.1), ih h.2]
    rfl

/-- The glyphs of a text without backslashes are its characters. -/
theorem glyphs_of_not_mem {text : List Char} (h : '\\' ∉ text) : glyphs text = text.map ([·]) := by
  have happend := glyphs_append_of_not_mem h []
  rwa [List.append_nil, glyphs, List.append_nil] at happend

/-- The glyphs of an escaped text stand for its characters, whatever comes behind it. -/
theorem glyphs_escape_append (text rest : List Char) :
    glyphs (text.flatMap escapeChar ++ rest) = text.map escapeChar ++ glyphs rest := by
  induction text with
  | nil => rfl
  | cons c text ih =>
    rw [List.flatMap_cons, List.append_assoc, List.map_cons, List.cons_append, ← ih, escapeChar_eq]
    split
    · exact glyphs_backslash c _
    · rename_i hplain
      refine glyphs_cons_of_ne ?_ _
      rintro rfl
      exact hplain rfl

/-- The glyphs of an escaped text stand for its characters. -/
theorem glyphs_escape (text : List Char) : glyphs (text.flatMap escapeChar) = text.map escapeChar := by
  have happend := glyphs_escape_append text []
  rwa [List.append_nil, glyphs, List.append_nil] at happend

/-- The glyph of a character stands for it. -/
theorem standsFor_escapeChar (c : Char) : standsFor (escapeChar c) = [c] := by
  rw [escapeChar_eq]
  split
  · rename_i hstructural
    rw [standsFor, if_pos ⟨rfl, hstructural⟩]
  · rfl

/-- A text ends with no half of a glyph, and holds no bare mark. -/
structure Sealed (mark : Char) (text : List Char) : Prop where
  closed : ∀ rest, glyphs (text ++ rest) = glyphs text ++ glyphs rest
  unmarked : [mark] ∉ glyphs text

/-- No character of a text is structural. -/
def Plain (text : List Char) : Prop := ∀ c ∈ text, structural c = false

/-- Nothing in a text structures records. -/
def Inert (text : List Char) : Prop := ∀ mark, structural mark = true → Sealed mark text

/-- A text without backslashes and marks holds no bare mark. -/
theorem sealed_of_not_mem {mark : Char} {text : List Char} (hbackslash : '\\' ∉ text)
    (hmark : mark ∉ text) : Sealed mark text := by
  have hself := glyphs_of_not_mem hbackslash
  refine ⟨fun rest => by rw [glyphs_append_of_not_mem hbackslash, hself], ?_⟩
  rw [hself]
  simpa using hmark

/-- Two texts without a bare mark make one. -/
theorem Sealed.append {mark : Char} {text text' : List Char} (h : Sealed mark text)
    (h' : Sealed mark text') : Sealed mark (text ++ text') := by
  refine ⟨fun rest => ?_, ?_⟩
  · rw [List.append_assoc, h.closed, h'.closed, h.closed, List.append_assoc]
  · rw [h.closed, List.mem_append, not_or]
    exact ⟨h.unmarked, h'.unmarked⟩

/-- A row holds no bare mark if neither its parts nor the separators do. -/
theorem sealed_intercalate {mark : Char} {separator : String} {row : List String}
    (hseparator : Sealed mark separator.toList) (hrow : ∀ part ∈ row, Sealed mark part.toList) :
    Sealed mark (separator.intercalate row).toList := by
  induction row with
  | nil => exact ⟨fun _ => rfl, List.not_mem_nil⟩
  | cons part row ih =>
    have hpart := hrow part List.mem_cons_self
    cases row with
    | nil => rwa [String.intercalate_singleton]
    | cons next row =>
      rw [String.intercalate_cons_cons, String.toList_append, String.toList_append]
      exact (hpart.append hseparator).append
        (ih fun other hother => hrow other (List.mem_cons_of_mem _ hother))

/-- Two texts without any bare mark make one. -/
theorem Inert.append {text text' : List Char} (h : Inert text) (h' : Inert text') :
    Inert (text ++ text') := fun mark hmark => (h mark hmark).append (h' mark hmark)

/-- Whether a text holds structural characters is seen by going through it. -/
theorem plain_of_all {text : List Char} (h : text.all (fun c => !structural c) = true) :
    Plain text := by
  intro c hc
  have hnot := List.all_eq_true.mp h c hc
  rwa [Bool.not_eq_true'] at hnot

/-- Two texts without structural characters make one. -/
theorem Plain.append {text text' : List Char} (h : Plain text) (h' : Plain text') :
    Plain (text ++ text') :=
  List.forall_mem_append.mpr ⟨h, h'⟩

/-- A plain text has no structural character. -/
theorem Plain.not_mem {mark : Char} {text : List Char} (h : Plain text)
    (hmark : structural mark = true) : mark ∉ text := by
  intro hmem
  rw [h mark hmem] at hmark
  exact Bool.false_ne_true hmark

/-- Characters that are not structural do not structure records. -/
theorem Plain.inert {text : List Char} (h : Plain text) : Inert text :=
  fun _ hmark => sealed_of_not_mem (h.not_mem rfl) (h.not_mem hmark)

/-- An escaped text does not structure records. -/
theorem inert_escape (text : List Char) : Inert (text.flatMap escapeChar) := by
  refine fun mark hmark => ⟨fun rest => by rw [glyphs_escape_append, glyphs_escape], ?_⟩
  rw [glyphs_escape, List.mem_map]
  rintro ⟨c, -, hc⟩
  rw [escapeChar_eq] at hc
  split at hc
  · simp at hc
  · rename_i hplain
    rw [List.singleton_inj.mp hc] at hplain
    exact hplain hmark

/-- A decimal digit is not structural. -/
theorem structural_of_isDigit {c : Char} (h : c.isDigit = true) : structural c = false := by
  rw [Bool.eq_false_iff]
  intro hstructural
  rw [structural, List.contains_iff_mem] at hstructural
  have hall : ['\x7b', '\x7d', '|', '<', '>', '"', '\\'].all (fun d => !d.isDigit) = true := rfl
  have hnone := List.all_eq_true.mp hall c hstructural
  rw [h] at hnone
  exact Bool.false_ne_true hnone

/-- Numbers are written with digits. -/
theorem isDigit_of_mem_toString {n : Nat} {c : Char} (h : c ∈ (toString n).toList) :
    c.isDigit = true := by
  rw [Nat.toString_eq_repr, Nat.repr_eq_ofList_toDigits, String.toList_ofList] at h
  exact Nat.isDigit_of_mem_toDigits (by decide) (by decide) h

/-- The digits of a number are not structural. -/
theorem plain_toString (n : Nat) : Plain (toString n).toList :=
  fun _ hc => structural_of_isDigit (isDigit_of_mem_toString hc)

/-- A number is told by its digits. -/
theorem toString_injective : Function.Injective (toString : Nat → String) := by
  intro m n h
  rw [Nat.toString_eq_repr, Nat.toString_eq_repr, Nat.repr_eq_ofList_toDigits,
    Nat.repr_eq_ofList_toDigits] at h
  have hdigits := congrArg (Nat.ofDigitChars 10 · 0) (String.ofList_injective h)
  rwa [Nat.ofDigitChars_toDigits (by decide) (by decide),
    Nat.ofDigitChars_toDigits (by decide) (by decide)] at hdigits

/-- A text is unescaped part by part. -/
theorem Sealed.unescape_append {mark : Char} {text : List Char} (h : Sealed mark text)
    (rest : List Char) : unescape (text ++ rest) = unescape text ++ unescape rest := by
  rw [unescape, h.closed, List.flatMap_append]
  rfl

/-- There is nothing to unescape where no character is structural. -/
theorem Plain.unescape_eq {text : List Char} (h : Plain text) : unescape text = text := by
  rw [unescape, glyphs_of_not_mem (h.not_mem rfl), List.flatMap_map]
  exact List.flatMap_singleton' text

/-- Escaping is undone. -/
theorem unescape_escape (text : List Char) : unescape (text.flatMap escapeChar) = text := by
  rw [unescape, glyphs_escape, List.flatMap_map]
  simp only [standsFor_escapeChar, List.flatMap_singleton']

/-- Escaping loses nothing. -/
theorem escapeLabel_injective {text text' : String} (h : escapeLabel text = escapeLabel text') :
    text = text' := by
  have hescaped := String.ofList_injective h
  rw [← String.toList_inj, ← unescape_escape text.toList, hescaped, unescape_escape]

/-- A character is escaped by no backslash or by one, and a backslash by one. -/
theorem backslashes_escapeChar (c : Char) : backslashes (escapeChar c) % 2 = 0 := by
  rw [escapeChar_eq, backslashes]
  by_cases hbackslash : c = '\\'
  · subst hbackslash
    rfl
  · split <;> simp [hbackslash]

/-- Backslashes before a character that is escaped in front do not change whether it is. -/
theorem backslashes_append_odd (c : Char) {before : List Char} (h : backslashes before % 2 = 1) :
    backslashes (escapeChar c ++ before) % 2 = 1 := by
  have heven := backslashes_escapeChar c
  rw [backslashes] at h heven ⊢
  rw [List.reverse_append, List.takeWhile_append]
  split
  · rename_i hall
    rw [List.length_append, ← hall]
    omega
  · exact h

/-- In an escaped text every structural character but the backslash stands behind an odd number of
backslashes. -/
theorem odd_backslashes {text before after : List Char} {c : Char}
    (h : text.flatMap escapeChar = before ++ c :: after) (hstructural : structural c = true)
    (hc : c ≠ '\\') : backslashes before % 2 = 1 := by
  induction text generalizing before with
  | nil => simp at h
  | cons d text ih =>
    rw [List.flatMap_cons] at h
    rcases List.append_eq_append_iff.mp h with ⟨between, rfl, hrest⟩ | ⟨between, hd, hrest⟩
    · exact backslashes_append_odd d (ih hrest)
    · -- The character belongs to the first glyph, of which it is the second half.
      cases between with
      | nil =>
        rw [List.append_nil] at hd
        rw [List.nil_append] at hrest
        rw [← hd, ← List.append_nil (escapeChar d)]
        exact backslashes_append_odd d (ih hrest.symm)
      | cons e between =>
        obtain rfl : c = e := (List.cons.inj hrest).1
        rw [escapeChar_eq] at hd
        split at hd
        · cases before with
          | nil => exact absurd (List.cons.inj hd).1.symm hc
          | cons b before =>
            obtain ⟨rfl, hd⟩ := List.cons.inj hd
            cases before with
            | nil => rfl
            | cons b before => simp at hd
        · rename_i hplain
          cases before with
          | nil =>
            rw [(List.cons.inj hd).1] at hplain
            exact absurd hstructural hplain
          | cons b before => simp at hd

variable {mark : Char} {text text' rest rest' : List Char}

/-- The glyphs of a text without a bare mark come before the mark behind it. -/
theorem Sealed.glyphs_append (h : Sealed mark text) (hmark : mark ≠ '\\') (rest : List Char) :
    glyphs (text ++ mark :: rest) = glyphs text ++ [mark] :: glyphs rest := by
  rw [h.closed, glyphs_cons_of_ne hmark]

/-- A text without a bare mark is the first piece before a mark. -/
theorem Sealed.pieces_append (h : Sealed mark text) (hmark : mark ≠ '\\') (rest : List Char) :
    pieces mark (text ++ mark :: rest) = text :: pieces mark rest := by
  rw [pieces, h.glyphs_append hmark, List.splitOn_append_cons_self_of_not_mem h.unmarked,
    List.map_cons, flatten_glyphs]
  rfl

/-- A text without a bare mark is a single piece. -/
theorem Sealed.pieces_eq (h : Sealed mark text) : pieces mark text = [text] := by
  rw [pieces, List.splitOn_eq_singleton h.unmarked, List.map_singleton, flatten_glyphs]

/-- Texts without a bare mark are found again before a mark. -/
theorem Sealed.cancel (h : Sealed mark text) (h' : Sealed mark text') (hmark : mark ≠ '\\')
    (heq : text ++ mark :: rest = text' ++ mark :: rest') : text = text' ∧ rest = rest' := by
  have hpieces := congrArg (pieces mark) heq
  rw [h.pieces_append hmark, h'.pieces_append hmark] at hpieces
  obtain rfl := (List.cons.inj hpieces).1
  exact ⟨rfl, (List.cons.inj (List.append_cancel_left heq)).2⟩

/-- No text without a bare mark holds one. -/
theorem Sealed.ne_append (h : Sealed mark text) (h' : Sealed mark text') (hmark : mark ≠ '\\') :
    text ≠ text' ++ mark :: rest := by
  rintro rfl
  have hunmarked := h.unmarked
  rw [h'.glyphs_append hmark] at hunmarked
  exact hunmarked (List.mem_append_right _ List.mem_cons_self)

/-- A text is read as these quoted strings, whatever comes behind it. -/
def Quotes (text : List Char) (strings : List (List Char)) : Prop :=
  ∀ rest, quotedStrings (text ++ rest) = strings ++ quotedStrings rest

/-- The strings that a text quotes are found in it. -/
theorem Quotes.quotedStrings_eq {strings : List (List Char)} (h : Quotes text strings) :
    quotedStrings text = strings := by
  rw [← List.append_nil text, h []]
  exact List.append_nil _

/-- Joined texts quote the strings of both. -/
theorem Quotes.append {strings strings' : List (List Char)} (h : Quotes text strings)
    (h' : Quotes text' strings') : Quotes (text ++ text') (strings ++ strings') := by
  intro rest
  rw [List.append_assoc, h, h', List.append_assoc]

/-- What comes before the first quote is in no quoted string. -/
theorem everyOther_modifyHead {α : Type} (f : α → α) (row : List α) :
    everyOther (row.modifyHead f) = everyOther row := by
  cases row with
  | nil => rfl
  | cons first row => cases row <;> rfl

/-- Where there is no bare quote there is no quoted string. -/
theorem Sealed.quotes (h : Sealed '"' text) : Quotes text [] := by
  have hsplit : ∀ (front row : List (List Char)), ['"'] ∉ front →
      (front ++ row).splitOn ['"'] = (row.splitOn ['"']).modifyHead (front ++ ·) := by
    intro front row hfront
    induction front with
    | nil =>
      rw [List.nil_append]
      exact (congrFun List.modifyHead_id (row.splitOn ['"'])).symm
    | cons glyph front ih =>
      rw [List.mem_cons, not_or] at hfront
      rw [List.cons_append, List.splitOn_cons_eq_if_modifyHead, if_neg, ih hfront.2,
        List.modifyHead_modifyHead]
      · rfl
      · rw [beq_iff_eq]
        exact Ne.symm hfront.1
  intro rest
  rw [quotedStrings, pieces, h.closed, hsplit _ _ h.unmarked, quotedStrings, pieces,
    List.nil_append]
  cases (glyphs rest).splitOn ['"'] with
  | nil => rfl
  | cons first row => exact everyOther_modifyHead (fun _ => _) (first.flatten :: row.map List.flatten)

/-- A text without a bare quote is a quoted string between quotes. -/
theorem Sealed.quotes_quoted (h : Sealed '"' text) : Quotes ('"' :: text ++ ['"']) [text] := by
  have hquote : '"' ≠ '\\' := by decide
  have hempty : Sealed '"' [] := sealed_of_not_mem (List.not_mem_nil) (List.not_mem_nil)
  intro rest
  rw [List.cons_append, List.cons_append, List.append_assoc, quotedStrings,
    ← List.nil_append ('"' :: _), hempty.pieces_append hquote, List.singleton_append,
    h.pieces_append hquote, everyOther]
  rfl

end Percolator
