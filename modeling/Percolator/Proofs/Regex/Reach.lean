import Percolator.Regex.Language

/-!
# The matcher follows the spans

The set of places that an expression reaches from a set of places holds exactly the ends of the
spans that start in the set. The bound on rounds loses nothing: a walk of more rounds than the text
has places stays in some round, and may stay once less or once more. Main statement: an expression
matches by sets of places exactly if it takes some part of the text.
-/

namespace Percolator.Regex

/-- Every place that a condition on neighbours selects is a place of the text. -/
theorem testBit_placesWhere (holds : Option Char → Option Char → Bool) (row : List Char)
    (before : Option Char) (i : Nat) :
    (placesWhere holds before row).testBit i = true ↔
      i ≤ row.length ∧ holds (if i = 0 then before else row[i - 1]?) row[i]? = true := by
  induction row generalizing before i with
  | nil =>
    cases i with
    | zero => cases h : holds before none <;> simp [placesWhere, h]
    | succ i => cases h : holds before none <;> simp [placesWhere, h, Nat.testBit_succ]
  | cons c rest ih =>
    cases i with
    | zero => cases h : holds before (some c) <;> simp [placesWhere, h]
    | succ i =>
      have hbit : (placesWhere holds before (c :: rest)).testBit (i + 1)
          = (placesWhere holds (some c) rest).testBit i := by
        rw [Nat.testBit_succ]
        congr 1
        cases h : holds before (some c) with
        | false => simp [placesWhere, h]
        | true =>
          simp [placesWhere, h]
          omega
      rw [hbit, ih]
      cases i <;> simp

/-- The places before the characters of a set. -/
theorem testBit_placesBefore (row : List Char) (set : CharSet) (i : Nat) :
    ((Text.ofList row).placesBefore set).testBit i = true ↔
      ∃ c, row[i]? = some c ∧ set.contains c = true := by
  have hfold : ∀ (chars : List Char) (found : Nat),
      ((chars.map fun c => (c, placesWhere (fun _ after => after == some c) none row)).foldl
        (fun found (x : Char × Nat) => if set.contains x.1 then found ||| x.2 else found)
        found).testBit i = true ↔
      found.testBit i = true ∨ ∃ c ∈ chars, row[i]? = some c ∧ set.contains c = true := by
    intro chars
    induction chars with
    | nil => simp
    | cons c chars ih =>
      intro found
      rw [List.map_cons, List.foldl_cons, ih]
      by_cases hc : set.contains c = true
      · rw [if_pos hc, Nat.testBit_or, Bool.or_eq_true, testBit_placesWhere]
        have hplace : (i ≤ row.length ∧ (row[i]? == some c) = true) ↔ row[i]? = some c := by
          rw [beq_iff_eq]
          exact ⟨And.right, fun h => ⟨Nat.le_of_lt (List.getElem?_eq_some_iff.1 h).1, h⟩⟩
        rw [hplace]
        simp only [List.mem_cons]
        constructor
        · intro hcases
          rcases hcases with (h | h) | ⟨d, hd, h⟩
          · exact .inl h
          · exact .inr ⟨c, .inl rfl, h, hc⟩
          · exact .inr ⟨d, .inr hd, h⟩
        · intro hcases
          rcases hcases with h | ⟨d, rfl | hd, h⟩
          · exact .inl (.inl h)
          · exact .inl (.inr h.1)
          · exact .inr ⟨d, hd, h⟩
      · rw [if_neg hc]
        simp only [List.mem_cons]
        constructor
        · intro hcases
          rcases hcases with h | ⟨d, hd, h⟩
          · exact .inl h
          · exact .inr ⟨d, .inr hd, h⟩
        · intro hcases
          rcases hcases with h | ⟨d, rfl | hd, h⟩
          · exact .inl h
          · exact absurd h.2 hc
          · exact .inr ⟨d, hd, h⟩
  have h := hfold row.eraseDups 0
  simp only [Nat.zero_testBit, Bool.false_eq_true, false_or, List.mem_eraseDups] at h
  rw [Text.placesBefore, Text.ofList]
  refine h.trans ⟨fun ⟨c, _, hc⟩ => ⟨c, hc⟩, fun ⟨c, hc⟩ => ⟨c, ?_, hc⟩⟩
  exact List.mem_of_getElem? hc.1

/-- A step of a walk within a text leads forward and not beyond its end. -/
def Advances (length : Nat) (step : Nat → Nat → Prop) : Prop :=
  ∀ i j, i ≤ length → step i j → i ≤ j ∧ j ≤ length

/-- Rounds of such steps lead forward and not beyond the end. -/
theorem InRounds.advances {length : Nat} {step : Nat → Nat → Prop} (h : Advances length step)
    (n : Nat) : Advances length (InRounds step n) := by
  induction n with
  | zero =>
    intro i j hi heq
    subst heq
    exact ⟨Nat.le_refl _, hi⟩
  | succ n ih =>
    intro i j hi hparts
    rcases hparts with ⟨k, hk, hj⟩
    have hik := h i k hi hk
    have hkj := ih k j hik.2 hj
    exact ⟨Nat.le_trans hik.1 hkj.1, hkj.2⟩

/-- A walk of more rounds than it moves forward stays in some round, so it can be made one round
shorter and one round longer. -/
theorem InRounds.stays {length : Nat} {step : Nat → Nat → Prop} (h : Advances length step)
    {n i j : Nat} (hi : i ≤ length) (hn : j - i < n) (hw : InRounds step n i j) :
    InRounds step (n - 1) i j ∧ InRounds step (n + 1) i j := by
  induction n generalizing i with
  | zero => omega
  | succ n ih =>
    obtain ⟨k, hk, hj⟩ := hw
    have hik := h i k hi hk
    by_cases hki : k = i
    · subst hki
      exact ⟨hj, k, hk, k, hk, hj⟩
    · have hkj := InRounds.advances h n k j hik.2 hj
      obtain ⟨hless, hmore⟩ := ih hik.2 (by omega) hj
      refine ⟨?_, k, hk, hmore⟩
      obtain ⟨m, rfl⟩ : ∃ m, n = m + 1 := ⟨n - 1, by omega⟩
      exact ⟨k, hk, hless⟩

/-- Rounds beyond the number of places add nothing. -/
theorem inRounds_min {length : Nat} {step : Nat → Nat → Prop} (h : Advances length step)
    {n i j : Nat} (hi : i ≤ length) :
    InRounds step (min n (length + 1)) i j ↔ InRounds step n i j := by
  by_cases hn : n ≤ length + 1
  · rw [Nat.min_eq_left hn]
  · have hextra : ∀ k, InRounds step (length + 1 + k) i j ↔ InRounds step (length + 1) i j := by
      intro k
      induction k with
      | zero => exact Iff.rfl
      | succ k ih =>
        rw [← ih]
        constructor
        · intro hw
          have hij := InRounds.advances h _ i j hi hw
          exact (hw.stays h hi (by omega)).1
        · intro hw
          have hij := InRounds.advances h _ i j hi hw
          exact (hw.stays h hi (by omega)).2
    rw [Nat.min_eq_right (by omega), ← hextra (n - (length + 1)),
      Nat.add_sub_cancel' (by omega)]

/-- Walks of some rounds after others. -/
theorem inRounds_add {step : Nat → Nat → Prop} (m n i j : Nat) :
    InRounds step (m + n) i j ↔ ∃ k, InRounds step m i k ∧ InRounds step n k j := by
  induction m generalizing i with
  | zero => simp [InRounds]
  | succ m ih =>
    rw [Nat.add_right_comm]
    simp only [InRounds, ih]
    constructor
    · intro hparts
      rcases hparts with ⟨k, hk, l, hl, hj⟩
      exact ⟨l, ⟨k, hk, hl⟩, hj⟩
    · intro hparts
      rcases hparts with ⟨l, ⟨k, hk, hl⟩, hj⟩
      exact ⟨k, hk, l, hl, hj⟩

/-- A function on sets of places leads every place to where a step may go. -/
def Follows (length : Nat) (reach : Nat → Nat) (step : Nat → Nat → Prop) : Prop :=
  ∀ places j, (∀ i, places.testBit i = true → i ≤ length) →
    ((reach places).testBit j = true ↔ ∃ i, places.testBit i = true ∧ step i j)

/-- A set of places all of which are places of the text. -/
abbrev Within (length places : Nat) : Prop := ∀ i, places.testBit i = true → i ≤ length

/-- Places within the text lead to places within it. -/
theorem Follows.within {length : Nat} {reach : Nat → Nat} {step : Nat → Nat → Prop}
    (hf : Follows length reach step) (h : Advances length step) {places : Nat}
    (hp : Within length places) : Within length (reach places) := by
  intro j hj
  obtain ⟨i, hi, hij⟩ := (hf places j hp).1 hj
  exact (h i j (hp i hi) hij).2

/-- A number of rounds reaches what the rounds of steps do. -/
theorem testBit_rounds {length : Nat} {reach : Nat → Nat} {step : Nat → Nat → Prop}
    (hf : Follows length reach step) (h : Advances length step) (n : Nat) :
    Follows length (rounds reach n) (InRounds step n) := by
  induction n with
  | zero =>
    intro places j _
    simp [rounds, InRounds]
  | succ n ih =>
    intro places j hp
    have hnext : (rounds reach n (reach places)).testBit j = true ↔
        ∃ i, places.testBit i = true ∧ InRounds step (n + 1) i j := by
      rw [ih _ j (hf.within h hp)]
      constructor
      · intro hparts
        rcases hparts with ⟨k, hk, hj⟩
        obtain ⟨i, hi, hik⟩ := (hf places k hp).1 hk
        exact ⟨i, hi, k, hik, hj⟩
      · intro hparts
        rcases hparts with ⟨i, hi, k, hik, hj⟩
        exact ⟨k, (hf places k hp).2 ⟨i, hi, hik⟩, hj⟩
    rw [← hnext, rounds]
    by_cases heq : reach places = places
    · have hfix : ∀ m, rounds reach m places = places := by
        intro m
        cases m <;> simp [rounds, heq]
      simp [heq, hfix]
    · simp [heq]

/-- So does any number of rounds up to a bound. -/
theorem testBit_roundsUpTo {length : Nat} {reach : Nat → Nat} {step : Nat → Nat → Prop}
    (hf : Follows length reach step) (h : Advances length step) (n : Nat) :
    Follows length (roundsUpTo reach n) (fun i j => ∃ m, m ≤ n ∧ InRounds step m i j) := by
  induction n with
  | zero =>
    intro places j _
    simp [roundsUpTo, InRounds]
  | succ n ih =>
    intro places j hp
    have hin : Within length (places ||| reach places) := by
      intro i hi
      rw [Nat.testBit_or, Bool.or_eq_true] at hi
      exact hi.elim (hp i) (hf.within h hp i)
    have hnext : (roundsUpTo reach n (places ||| reach places)).testBit j = true ↔
        ∃ i, places.testBit i = true ∧ ∃ m, m ≤ n + 1 ∧ InRounds step m i j := by
      rw [ih _ j hin]
      constructor
      · intro hparts
        rcases hparts with ⟨k, hk, m, hm, hj⟩
        rw [Nat.testBit_or, Bool.or_eq_true] at hk
        rcases hk with hk | hk
        · exact ⟨k, hk, m, by omega, hj⟩
        · obtain ⟨i, hi, hik⟩ := (hf places k hp).1 hk
          exact ⟨i, hi, m + 1, by omega, k, hik, hj⟩
      · intro hparts
        rcases hparts with ⟨i, hi, m, hm, hj⟩
        cases m with
        | zero => exact ⟨i, by simp [hi], 0, by omega, hj⟩
        | succ m =>
          obtain ⟨k, hik, hkj⟩ := hj
          have hk := (hf places k hp).2 ⟨i, hi, hik⟩
          exact ⟨k, by simp [hk], m, by omega, hkj⟩
    rw [← hnext, roundsUpTo]
    by_cases heq : places ||| reach places = places
    · have hfix : ∀ m, roundsUpTo reach m places = places := by
        intro m
        cases m <;> simp [roundsUpTo, heq]
      simp [heq, hfix]
    · simp [heq]

/-- Spans lead forward and not beyond the end of the text. -/
theorem advances_spans (row : List Char) (regex : Regex Atom) :
    Advances row.length (regex.Spans row) := by
  induction regex with
  | empty =>
    intro i j hi heq
    subst heq
    exact ⟨Nat.le_refl _, hi⟩
  | atom a =>
    intro i j hi h
    cases a with
    | one set =>
      obtain ⟨rfl, c, hc, -⟩ := h
      have := (List.getElem?_eq_some_iff.1 hc).1
      omega
    | look assertion =>
      obtain ⟨rfl, hle, -⟩ := h
      exact ⟨Nat.le_refl _, hle⟩
  | cat first second hfirst hsecond =>
    intro i j hi hparts
    rcases hparts with ⟨k, hk, hj⟩
    have hik := hfirst i k hi hk
    have hkj := hsecond k j hik.2 hj
    omega
  | alt left right hleft hright =>
    intro i j hi hcases
    rcases hcases with h | h
    · exact hleft i j hi h
    · exact hright i j hi h
  | rep body least most hbody =>
    intro i j hi hparts
    rcases hparts with ⟨n, -, -, h⟩
    exact InRounds.advances hbody n i j hi h

/-- An atom's move leads where the atom does. -/
theorem follows_atom (row : List Char) (limit : Nat) (a : Atom) :
    Follows row.length ((atom ((Text.ofList row).move a)).reach limit) (a.Spans row) := by
  intro places j _
  cases a with
  | one set =>
    simp only [Text.move, reach, if_true, Atom.Spans]
    constructor
    · intro h
      rw [Nat.testBit_shiftLeft, Bool.and_eq_true, decide_eq_true_iff, Nat.testBit_and,
        Bool.and_eq_true, testBit_placesBefore] at h
      exact ⟨j - 1, h.2.1, by omega, h.2.2⟩
    · intro hparts
      rcases hparts with ⟨i, hi, rfl, h⟩
      rw [Nat.testBit_shiftLeft, Bool.and_eq_true, decide_eq_true_iff, Nat.testBit_and,
        Bool.and_eq_true, testBit_placesBefore]
      exact ⟨by omega, by simpa using hi, by simpa using h⟩
  | look assertion =>
    simp only [Text.move, reach, Bool.false_eq_true, if_false, Atom.Spans, Text.ofList]
    rw [Nat.testBit_and, Bool.and_eq_true, testBit_placesWhere]
    constructor
    · intro hparts
      rcases hparts with ⟨hj, h⟩
      exact ⟨j, hj, rfl, h⟩
    · intro hparts
      rcases hparts with ⟨i, hi, rfl, h⟩
      exact ⟨hi, h⟩

/-- The places reached are the ends of the spans. -/
theorem follows_reach (row : List Char) (regex : Regex Atom) (ho : Ordered regex) :
    Follows row.length ((regex.map (Text.ofList row).move).reach (row.length + 1))
      (regex.Spans row) := by
  induction regex with
  | empty =>
    intro places j _
    simp [map, reach, Spans]
  | atom a => exact follows_atom row _ a
  | cat first second hfirst hsecond =>
    intro places j hp
    have hin := (hfirst ho.1).within (advances_spans row first) hp
    rw [map, reach, hsecond ho.2 _ j hin]
    constructor
    · intro hparts
      rcases hparts with ⟨k, hk, hj⟩
      obtain ⟨i, hi, hik⟩ := (hfirst ho.1 places k hp).1 hk
      exact ⟨i, hi, k, hik, hj⟩
    · intro hparts
      rcases hparts with ⟨i, hi, k, hik, hj⟩
      exact ⟨k, (hfirst ho.1 places k hp).2 ⟨i, hi, hik⟩, hj⟩
  | alt left right hleft hright =>
    intro places j hp
    rw [map, reach, Nat.testBit_or, Bool.or_eq_true, hleft ho.1 places j hp,
      hright ho.2 places j hp]
    simp only [Spans]
    constructor
    · intro hcases
      rcases hcases with ⟨i, hi, h⟩ | ⟨i, hi, h⟩
      · exact ⟨i, hi, .inl h⟩
      · exact ⟨i, hi, .inr h⟩
    · intro hparts
      rcases hparts with ⟨i, hi, h | h⟩
      · exact .inl ⟨i, hi, h⟩
      · exact .inr ⟨i, hi, h⟩
  | rep body least most hbody =>
    intro places j hp
    have ha := advances_spans row body
    have hf := hbody ho.1
    have hr := testBit_rounds hf ha (min least (row.length + 1))
    have hin := hr.within (InRounds.advances ha _) hp
    simp only [map, reach, Spans]
    rw [testBit_roundsUpTo hf ha _ _ j hin]
    constructor
    · intro hparts
      rcases hparts with ⟨k, hk, m, hm, hj⟩
      obtain ⟨i, hi, hik⟩ := (hr places k hp).1 hk
      rw [inRounds_min ha (hp i hi)] at hik
      refine ⟨i, hi, least + m, by omega, ?_, (inRounds_add _ _ _ _).2 ⟨k, hik, hj⟩⟩
      intro most hmost
      subst hmost
      have := ho.2 most rfl
      simp only at hm
      omega
    · intro hparts
      rcases hparts with ⟨i, hi, n, hn, hmost, hj⟩
      obtain ⟨k, hik, hkj⟩ := (inRounds_add least (n - least) i j).1
        (by rwa [Nat.add_sub_cancel' hn])
      have hk := (InRounds.advances ha _ i k (hp i hi) hik).2
      refine ⟨k, (hr places k hp).2 ⟨i, hi, (inRounds_min ha (hp i hi)).2 hik⟩,
        min (n - least) (row.length + 1), ?_, (inRounds_min ha hk).2 hkj⟩
      cases most with
      | none => exact Nat.min_le_right _ _
      | some most =>
        have := hmost most rfl
        simp only
        omega

/-- Matching by sets of places finds exactly the expressions that take some part of the text. -/
theorem isMatch_iff (regex : Regex Atom) (ho : Ordered regex) (text : String) :
    regex.isMatch text = true ↔ regex.MatchesPart text.toList := by
  have hall : ∀ i, ((1 <<< (text.toList.length + 1)) - 1).testBit i = true ↔
      i ≤ text.toList.length := by
    intro i
    rw [Nat.shiftLeft_eq, Nat.one_mul, Nat.testBit_two_pow_sub_one, decide_eq_true_iff]
    omega
  have hf := fun j => follows_reach text.toList regex ho _ j (fun i hi => (hall i).1 hi)
  unfold isMatch MatchesPart
  simp only [bne_iff_ne, ne_eq]
  constructor
  · intro h
    obtain ⟨j, hj⟩ := Nat.exists_testBit_of_ne_zero h
    obtain ⟨i, hi, hij⟩ := (hf j).1 hj
    exact ⟨i, j, (hall i).1 hi, hij⟩
  · intro hparts hz
    rcases hparts with ⟨i, j, hi, hij⟩
    have hj := (hf j).2 ⟨i, (hall i).2 hi, hij⟩
    rw [Text.row_ofList] at hz
    rw [hz, Nat.zero_testBit] at hj
    exact Bool.false_ne_true hj

/-- Only the first place is the start of the text. -/
theorem spans_textStart (text : List Char) (i j : Nat) :
    (atom (.look .textStart)).Spans text i j ↔ i = 0 ∧ j = 0 := by
  simp only [Spans, Atom.Spans, Assertion.holds]
  constructor
  · intro hparts
    rcases hparts with ⟨rfl, hle, h⟩
    split at h
    · rename_i hzero
      exact ⟨hzero, hzero⟩
    · rw [List.getElem?_eq_getElem (by omega)] at h
      exact absurd h Bool.false_ne_true
  · intro hparts
    rcases hparts with ⟨rfl, rfl⟩
    exact ⟨rfl, Nat.zero_le _, rfl⟩

/-- Only the last place is the end of the text. -/
theorem spans_textEnd (text : List Char) (i j : Nat) :
    (atom (.look .textEnd)).Spans text i j ↔ i = text.length ∧ j = text.length := by
  simp only [Spans, Atom.Spans, Assertion.holds, Option.isNone_iff_eq_none,
    List.getElem?_eq_none_iff]
  omega

end Percolator.Regex
