import Percolator.Proofs.Schema.Table

/-!
# The declarations that make a schema

A rule of schemas looks at one declaration: its name is one that a dotted path can mention, and no
earlier sibling has the same name. Main statement: exactly the declarations that all keep the rules
make a schema, which is their table, and for any others the first one in preorder that breaks a rule is
reported, the rule for names before the rule for siblings.
-/

namespace Percolator

/-- A name that a dotted path can mention: it is not empty and has no points. -/
def IsName (name : String) : Prop := name ≠ "" ∧ '.' ∉ name.toList

namespace Attributes

/-- Declarations keep the rules, at every depth. -/
structure KeepsRules (attributes : Attributes) : Prop where
  /-- Every name can be mentioned in a path. -/
  names : ∀ place declaration, attributes.Declares place declaration → IsName declaration.name
  /-- Siblings have different names. -/
  siblings : ∀ above i j declaration other, attributes.Declares (above ++ [i]) declaration →
    attributes.Declares (above ++ [j]) other → declaration.name = other.name → i = j

/-- The declaration at a place breaks a rule, and this is the error for it. -/
inductive Offends (attributes : Attributes) : List Nat → SchemaError → Prop
  | name {place : List Nat} {declaration : Declaration}
      (hdeclares : attributes.Declares place declaration) (hname : ¬ IsName declaration.name) :
      Offends attributes place (.invalidName declaration.name)
  | sibling {above : List Nat} {i j : Nat} {declaration earlier : Declaration}
      (hdeclares : attributes.Declares (above ++ [i]) declaration)
      (hname : IsName declaration.name) (hearlier : j < i)
      (hsibling : attributes.Declares (above ++ [j]) earlier)
      (hsame : earlier.name = declaration.name) :
      Offends attributes (above ++ [i]) (.alreadyPresent declaration.name)

variable {attributes children siblings : Attributes} {name : String} {repeated : Bool}
  {place above : List Nat} {declaration : Declaration} {error : SchemaError} {names : List String}
  {i : Nat}

/-- The check of names accepts those that a path can mention. -/
theorem validName_iff : validName name = true ↔ IsName name := by
  simp [validName, IsName]

/-- What is wrong with a declaration of a name among siblings, of which the earlier ones have the given
names. -/
def fault? (earlier : List String) (name : String) : Option SchemaError :=
  if !validName name then some (.invalidName name)
  else if earlier.contains name then some (.alreadyPresent name)
  else .none

/-- What is wrong with the declaration at a place. The given names are those of siblings before all of
these. -/
def offence? (earlier : List String) : Attributes → List Nat → Option SchemaError
  | declare name _ _ _, [0] => fault? earlier name
  | declare _ _ children _, 0 :: place => children.offence? [] place
  | declare name _ _ siblings, (i + 1) :: place => siblings.offence? (name :: earlier) (i :: place)
  | _, _ => .none

/-- What is wrong first among siblings: with the first of them, with what is embedded in it, or with the
later ones. -/
theorem findSome?_offence? (earlier : List String) :
    (declare name repeated children siblings).places.findSome?
        (offence? earlier (declare name repeated children siblings))
      = (fault? earlier name).or ((children.places.findSome? (offence? [] children)).or
          (siblings.places.findSome? (offence? (name :: earlier) siblings))) := by
  have hinner : children.places.filterMap
      (fun place => offence? earlier (declare name repeated children siblings) (0 :: place))
      = children.places.filterMap (offence? [] children) := by
    refine List.filterMap_congr fun place hplace => ?_
    cases place with
    | nil => exact absurd hplace nil_notMem_places
    | cons => rfl
  have hlater : siblings.places.filterMap (fun place =>
        offence? earlier (declare name repeated children siblings) (place.modifyHead (· + 1)))
      = siblings.places.filterMap (offence? (name :: earlier) siblings) := by
    refine List.filterMap_congr fun place hplace => ?_
    cases place with
    | nil => exact absurd hplace nil_notMem_places
    | cons => rfl
  rw [places, List.cons_append, List.findSome?_cons, List.findSome?_append, List.findSome?_map,
    List.findSome?_map, ← List.head?_filterMap, ← List.head?_filterMap, ← List.head?_filterMap,
    ← List.head?_filterMap, ← hinner, ← hlater, offence?]
  cases fault? earlier name <;> rfl

/-- The check reports what is wrong with the first declaration in preorder with which anything is. -/
theorem check_eq (earlier : List String) (attributes : Attributes) : attributes.check earlier
    = (attributes.places.findSome? (offence? earlier attributes)).elim (.ok ()) .error := by
  induction attributes generalizing earlier with
  | none => rfl
  | declare name repeated children siblings ihChildren ihSiblings =>
    rw [findSome?_offence?, check, fault?]
    split
    · rfl
    · split
      · rfl
      · rw [ihChildren, ihSiblings, Option.none_or]
        cases children.places.findSome? (offence? [] children) <;> rfl

/-- Among names, a name is at fault if no path can mention it, or else if it is one of them. -/
theorem fault?_eq_some_iff {earlier : List String} : fault? earlier name = some error ↔
    ¬ IsName name ∧ error = .invalidName name ∨
      IsName name ∧ name ∈ earlier ∧ error = .alreadyPresent name := by
  rw [fault?, ← validName_iff]
  cases validName name <;> simp [eq_comm]

/-- A name is taken at a place by an earlier sibling, or by one of the siblings before all of these,
whose names are given. -/
inductive Taken (earlier : List String) (attributes : Attributes) : List Nat → String → Prop
  | sibling (above : List Nat) {i j : Nat} {declaration : Declaration} (hearlier : j < i)
      (hdeclares : attributes.Declares (above ++ [j]) declaration) :
      Taken earlier attributes (above ++ [i]) declaration.name
  | before {name : String} (i : Nat) (hname : name ∈ earlier) : Taken earlier attributes [i] name

section Taken

variable {earlier : List String} {given : String}

/-- Before the first sibling there are only the given names. -/
theorem taken_first_iff :
    Taken earlier (declare name repeated children siblings) [0] given ↔ given ∈ earlier := by
  constructor
  · intro h
    generalize hplace : [0] = place at h
    cases h with
    | @sibling above i j _ hearlier _ =>
      have hlast : 0 = i := by simpa using congrArg List.getLast? hplace
      omega
    | before _ hname => exact hname
  · exact .before 0

/-- The given names are not taken among what is embedded in the first sibling. -/
theorem taken_inner_iff (hne : place ≠ []) :
    Taken earlier (declare name repeated children siblings) (0 :: place) given ↔
      Taken [] children place given := by
  constructor
  · intro h
    generalize hplace : 0 :: place = whole at h
    cases h with
    | @sibling above i j _ hearlier hdeclares =>
      cases above with
      | nil => exact absurd (List.cons.inj hplace).2 hne
      | cons k above =>
        obtain ⟨rfl, rfl⟩ := List.cons.inj hplace
        exact .sibling above hearlier ((declares_first_iff (by simp)).mp hdeclares)
    | before _ _ => exact absurd (List.cons.inj hplace).2 hne
  · intro h
    cases h with
    | @sibling above i j _ hearlier hdeclares =>
      exact .sibling (0 :: above) hearlier ((declares_first_iff (by simp)).mpr hdeclares)
    | before _ hname => simp at hname

/-- For the later siblings, the name of the first one is taken as well. -/
theorem taken_later_iff :
    Taken earlier (declare name repeated children siblings) ((i + 1) :: place) given ↔
      Taken (name :: earlier) siblings (i :: place) given := by
  constructor
  · intro h
    generalize hplace : (i + 1) :: place = whole at h
    cases h with
    | @sibling above k j _ hearlier hdeclares =>
      cases above with
      | nil =>
        obtain ⟨rfl, rfl⟩ := List.cons.inj hplace
        cases j with
        | zero =>
          obtain rfl := Option.some.inj (declares_singleton_iff.mp hdeclares)
          exact .before i List.mem_cons_self
        | succ j =>
          exact .sibling [] (Nat.lt_of_succ_lt_succ hearlier) (declares_later_iff.mp hdeclares)
      | cons k above =>
        obtain ⟨rfl, rfl⟩ := List.cons.inj hplace
        exact .sibling (i :: above) hearlier (declares_later_iff.mp hdeclares)
    | before _ hname =>
      obtain ⟨rfl, rfl⟩ := List.cons.inj hplace
      exact .before i (List.mem_cons_of_mem _ hname)
  · intro h
    generalize hplace : i :: place = whole at h
    cases h with
    | @sibling above k j _ hearlier hdeclares =>
      cases above with
      | nil =>
        obtain ⟨rfl, rfl⟩ := List.cons.inj hplace
        exact .sibling [] (Nat.succ_lt_succ hearlier) (declares_later_iff.mpr hdeclares)
      | cons k above =>
        obtain ⟨rfl, rfl⟩ := List.cons.inj hplace
        exact .sibling ((i + 1) :: above) hearlier (declares_later_iff.mpr hdeclares)
    | before _ hname =>
      obtain ⟨rfl, rfl⟩ := List.cons.inj hplace
      rcases List.mem_cons.mp hname with rfl | hname
      · have hfirst : Declares (declare given repeated children siblings) ([] ++ [0])
            ⟨given, repeated, children⟩ := declares_singleton_iff.mpr rfl
        exact .sibling [] (Nat.succ_pos i) hfirst
      · exact .before (i + 1) hname

end Taken

/-- What is found to be wrong at a place. -/
theorem offence?_eq_some_iff {earlier : List String} :
    offence? earlier attributes place = some error ↔ ∃ declaration,
      attributes.Declares place declaration ∧
      (¬ IsName declaration.name ∧ error = .invalidName declaration.name ∨
        IsName declaration.name ∧ Taken earlier attributes place declaration.name ∧
          error = .alreadyPresent declaration.name) := by
  induction attributes generalizing earlier place with
  | none => simp [offence?, not_declares_none]
  | declare name repeated children siblings ihChildren ihSiblings =>
    match place with
    | [] => simp [offence?, not_declares_nil]
    | [0] => simp [offence?, fault?_eq_some_iff, declares_singleton_iff, declarations, taken_first_iff]
    | 0 :: i :: place =>
      rw [offence?, ihChildren]
      · simp only [declares_first_iff (List.cons_ne_nil _ _), taken_inner_iff (List.cons_ne_nil _ _)]
      · exact List.cons_ne_nil i place
    | (i + 1) :: place =>
      rw [offence?, ihSiblings]
      simp only [declares_later_iff, taken_later_iff]

/-- What is found to be wrong among outermost declarations is a rule that is broken. -/
theorem offence?_nil_eq_some_iff :
    offence? [] attributes place = some error ↔ attributes.Offends place error := by
  rw [offence?_eq_some_iff]
  constructor
  · rintro ⟨declaration, hdeclares, ⟨hname, rfl⟩ | ⟨hname, htaken, rfl⟩⟩
    · exact .name hdeclares hname
    · generalize hgiven : declaration.name = given at htaken
      cases htaken with
      | sibling above hearlier hsibling =>
        exact hgiven ▸ .sibling hdeclares hname hearlier hsibling hgiven.symm
      | before _ hmem => simp at hmem
  · intro h
    cases h with
    | name hdeclares hname => exact ⟨_, hdeclares, .inl ⟨hname, rfl⟩⟩
    | @sibling above i j declaration earlier hdeclares hname hearlier hsibling hsame =>
      exact ⟨_, hdeclares, .inr ⟨hname, hsame ▸ .sibling above hearlier hsibling, rfl⟩⟩

/-- Nothing is found to be wrong where no rule is broken. -/
theorem offence?_nil_eq_none_iff :
    offence? [] attributes place = .none ↔ ∀ error, ¬ attributes.Offends place error := by
  rw [Option.eq_none_iff_forall_ne_some]
  exact forall_congr' fun error => not_congr offence?_nil_eq_some_iff

/-- Declarations keep the rules exactly if none of them breaks one. -/
theorem keepsRules_iff : attributes.KeepsRules ↔
    ∀ place ∈ attributes.places, ∀ error, ¬ attributes.Offends place error := by
  constructor
  · intro h place _ error hoffends
    cases hoffends with
    | name hdeclares hname => exact hname (h.names _ _ hdeclares)
    | sibling hdeclares _ hearlier hsibling hsame =>
      exact absurd (h.siblings _ _ _ _ _ hsibling hdeclares hsame) (Nat.ne_of_lt hearlier)
  · intro h
    have hnames : ∀ place declaration, attributes.Declares place declaration →
        IsName declaration.name := by
      intro place declaration hdeclares
      by_contra hname
      exact h place (mem_places.mpr ⟨_, hdeclares⟩) _ (.name hdeclares hname)
    refine ⟨hnames, fun above i j declaration other hdeclares hother hsame => ?_⟩
    by_contra hne
    rcases Nat.lt_or_gt_of_ne hne with hlt | hgt
    · exact h _ (mem_places.mpr ⟨_, hother⟩) _
        (.sibling hother (hnames _ _ hother) hlt hdeclares hsame)
    · exact h _ (mem_places.mpr ⟨_, hdeclares⟩) _
        (.sibling hdeclares (hnames _ _ hdeclares) hgt hother hsame.symm)

/-- The check accepts the declarations that keep the rules. -/
theorem check_eq_ok_iff : attributes.check [] = .ok () ↔ attributes.KeepsRules := by
  rw [check_eq, keepsRules_iff]
  simp only [← offence?_nil_eq_none_iff, ← List.findSome?_eq_none_iff]
  cases attributes.places.findSome? (offence? [] attributes) <;> simp

/-- The check reports the first declaration that breaks a rule. -/
theorem check_eq_error_iff : attributes.check [] = .error error ↔
    ∃ before place after, attributes.places = before ++ place :: after ∧
      attributes.Offends place error ∧
      ∀ other ∈ before, ∀ error', ¬ attributes.Offends other error' := by
  have hcheck : attributes.check [] = .error error ↔
      attributes.places.findSome? (offence? [] attributes) = some error := by
    rw [check_eq]
    cases attributes.places.findSome? (offence? [] attributes) <;> simp
  rw [hcheck, List.findSome?_eq_some_iff]
  simp only [offence?_nil_eq_none_iff, offence?_nil_eq_some_iff]

end Attributes

namespace Schema

/-- A schema is the table of declarations that keep the rules. -/
theorem keepsRules_of_ofAttributes {attributes : Attributes} {schema : Schema}
    (h : ofAttributes attributes = .ok schema) :
    attributes.KeepsRules ∧ attributes.Tables schema := by
  rcases ofAttributes_spec attributes with ⟨_, herror, _⟩ | ⟨found, hok, hcheck, htables⟩
  · cases h.symm.trans herror
  · obtain rfl := Except.ok.inj (h.symm.trans hok)
    exact ⟨Attributes.check_eq_ok_iff.mp hcheck, htables⟩

/-- Where there is no schema, the error of the check is reported. -/
theorem ofAttributes_eq_error_iff {attributes : Attributes} {error : SchemaError} :
    ofAttributes attributes = .error error ↔ attributes.check [] = .error error := by
  rcases ofAttributes_spec attributes with ⟨_, herror, hcheck⟩ | ⟨_, hok, hcheck, _⟩
  · rw [herror, hcheck, Except.error.injEq, Except.error.injEq]
  · rw [hok, hcheck]
    constructor
    · intro h
      cases h
    · intro h
      cases h

/-- Declarations make a schema, which is their table, exactly if they keep the rules. If not, the error
is that of the first declaration, in preorder, that breaks a rule. -/
theorem validation_exact (attributes : Attributes) :
    ((∃ schema, ofAttributes attributes = .ok schema ∧ attributes.Tables schema) ↔
      attributes.KeepsRules) ∧
    ∀ error, ofAttributes attributes = .error error ↔
      ∃ before place after, attributes.places = before ++ place :: after ∧
        attributes.Offends place error ∧
        ∀ other ∈ before, ∀ error', ¬ attributes.Offends other error' := by
  refine ⟨?_, fun error => ofAttributes_eq_error_iff.trans Attributes.check_eq_error_iff⟩
  constructor
  · rintro ⟨schema, hok, -⟩
    exact (keepsRules_of_ofAttributes hok).1
  · intro hrules
    rcases ofAttributes_spec attributes with ⟨_, _, hcheck⟩ | ⟨schema, hok, _, htables⟩
    · cases hcheck.symm.trans (Attributes.check_eq_ok_iff.mpr hrules)
    · exact ⟨schema, hok, htables⟩

/-- A name inside that no path can mention is reported before a later sibling that repeats a name. -/
example : (Attributes.declare "a" false (.declare "b.c" false .none .none)
    (.declare "a" true .none .none)).insertAll #[] [] = .error (.invalidName "b.c") := by
  decide

end Schema

end Percolator
