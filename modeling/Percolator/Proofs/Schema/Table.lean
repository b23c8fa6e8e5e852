import Percolator.Proofs.Schema.Places

/-!
# The table of declarations

Filling a table adds the entry of an attribute before those of the attributes embedded in it, and goes
back to it when these are numbered. Declarations tell the same without a table: a check that numbers
nothing tells what is wrong with them, and a walk down the declarations finds the numbers by the sizes
of what it passes. Main statements: filling a table fails exactly as the check does; otherwise the
entries of the declarations follow those that were there, each at the position of its declaration in
preorder, and looking up names in the table is walking down the declarations.
-/

namespace Percolator

namespace Attributes

/-- Report the first declaration, in preorder, that breaks a rule. `earlier` holds the names of the
siblings before these. -/
def check (earlier : List String) : Attributes → Except SchemaError Unit
  | none => .ok ()
  | declare name _ children siblings =>
    if !validName name then .error (.invalidName name)
    else if earlier.contains name then .error (.alreadyPresent name)
    else match children.check [] with
      | .error e => .error e
      | .ok () => siblings.check (name :: earlier)

/-- The numbers of siblings by their names. The first of the siblings has the number `id`. -/
def numbers (id : Nat) : Attributes → List (String × Nat)
  | none => []
  | declare name _ children siblings => (name, id) :: siblings.numbers (id + 1 + children.size)

/-- The table holds the entries of declarations in preorder, from the number `id` on. -/
inductive Tabulated (table : Array AttributeEntry) : Nat → Attributes → Prop
  | none (id : Nat) : Tabulated table id none
  | declare {id : Nat} {name : String} {repeated : Bool} {children siblings : Attributes}
      (hentry : table[id]? = some ⟨repeated, children.numbers (id + 1)⟩)
      (hchildren : Tabulated table (id + 1) children)
      (hsiblings : Tabulated table (id + 1 + children.size) siblings) :
      Tabulated table id (declare name repeated children siblings)

/-- What filling makes of a table and of the numbers of the siblings before. -/
structure Filled (attributes : Attributes) (table : Array AttributeEntry) (names : List (String × Nat))
    (table' : Array AttributeEntry) (names' : List (String × Nat)) : Prop where
  size : table'.size = table.size + attributes.size
  kept : ∀ id < table.size, table'[id]? = table[id]?
  tabulated : Tabulated table' table.size attributes
  names : names' = names ++ attributes.numbers table.size

variable {attributes children siblings : Attributes} {name : String} {repeated : Bool}
  {table table' filled : Array AttributeEntry} {names names' inner : List (String × Nat)} {id : Nat}

/-- Only the entries of the declarations are looked at. -/
theorem Tabulated.congr (h : Tabulated table id attributes)
    (hsame : ∀ i, id ≤ i → i < id + attributes.size → table'[i]? = table[i]?) :
    Tabulated table' id attributes := by
  induction h with
  | none id => exact .none id
  | @declare id name repeated children siblings hentry _ _ ihChildren ihSiblings =>
    rw [size] at hsame
    refine .declare ((hsame id (Nat.le_refl _) (by omega)).trans hentry) (ihChildren ?_)
      (ihSiblings ?_)
    · exact fun i hlow hhigh => hsame i (by omega) (by omega)
    · exact fun i hlow hhigh => hsame i (by omega) (by omega)

/-- A declaration is filled in when what is embedded in it and the later siblings are. -/
theorem Filled.declare (hchildren : Filled children (table.push ⟨repeated, []⟩) [] filled inner)
    (hsiblings : Filled siblings
      (filled.modify table.size fun entry => { entry with children := inner })
      (names ++ [(name, table.size)]) table' names') :
    Filled (declare name repeated children siblings) table names table' names' := by
  have hsize : filled.size = table.size + 1 + children.size := by
    rw [hchildren.size, Array.size_push]
  have hinner : inner = children.numbers (table.size + 1) := by
    rw [hchildren.names, List.nil_append, Array.size_push]
  -- The later siblings leave alone what is filled before them, and going back changes one entry.
  have hkept : ∀ i < filled.size, table'[i]? = if table.size = i
      then filled[i]?.map fun entry => { entry with children := inner } else filled[i]? :=
    fun i hi => (hsiblings.kept i (by rwa [Array.size_modify])).trans Array.getElem?_modify
  have hinside := hchildren.tabulated
  have hlater := hsiblings.tabulated
  have hlast := hsiblings.size
  rw [Array.size_push] at hinside
  rw [Array.size_modify, hsize] at hlater hlast
  refine ⟨?_, fun i hi => ?_, .declare ?_ (hinside.congr fun i hlow hhigh => ?_) hlater, ?_⟩
  · rw [hlast, Attributes.size]
    omega
  · rw [hkept i (by omega), if_neg (by omega), hchildren.kept i (by rw [Array.size_push]; omega),
      Array.getElem?_push, if_neg (by omega)]
  · rw [hkept _ (by omega), if_pos rfl, hchildren.kept _ (by rw [Array.size_push]; omega),
      Array.getElem?_push_size, hinner]
    rfl
  · rw [hkept i (by omega), if_neg (by omega)]
  · rw [hsiblings.names, Array.size_modify, hsize, List.append_assoc]
    rfl

/-- Filling fails as the check does, and otherwise fills the declarations in. -/
theorem insertAll_spec {earlier : List String}
    (hearlier : ∀ given, earlier.contains given = (names.lookup given).isSome) :
    (∃ error, attributes.insertAll table names = .error error ∧
      attributes.check earlier = .error error) ∨
    ∃ table' names', attributes.insertAll table names = .ok (table', names') ∧
      attributes.check earlier = .ok () ∧ Filled attributes table names table' names' := by
  induction attributes generalizing table names earlier with
  | none =>
    exact .inr ⟨table, names, rfl, rfl, rfl, fun _ _ => rfl, .none _, (List.append_nil _).symm⟩
  | declare name repeated children siblings ihChildren ihSiblings =>
    rw [insertAll, check, hearlier]
    split
    · exact .inl ⟨_, rfl, rfl⟩
    · split
      · exact .inl ⟨_, rfl, rfl⟩
      · have hinside := @ihChildren (table.push ⟨repeated, []⟩) [] [] fun _ => rfl
        rcases hinside with ⟨error, hinsert, hcheck⟩ | ⟨filled, inner, hinsert, hcheck, hfilled⟩
        · rw [hinsert, hcheck]
          exact .inl ⟨error, rfl, rfl⟩
        · have htaken : ∀ given, (name :: earlier).contains given
              = ((names ++ [(name, table.size)]).lookup given).isSome := by
            intro given
            rw [List.contains_cons, hearlier, List.lookup_append, Option.isSome_or, Bool.or_comm,
              List.lookup_cons, List.lookup_nil]
            cases given == name <;> rfl
          rw [hinsert, hcheck]
          rcases @ihSiblings (filled.modify table.size fun entry => { entry with children := inner })
            _ _ htaken with hfails | ⟨table', names', hinsert', hcheck', hfilled'⟩
          · exact .inl hfails
          · exact .inr ⟨table', names', hinsert', hcheck', hfilled.declare hfilled'⟩

/-- An attribute as found among its siblings. -/
structure Entry where
  /-- The number of the attribute. -/
  id : Nat
  /-- Whether the attribute is a collection. -/
  repeated : Bool
  /-- The attributes embedded in it, the first of which has the number `id + 1`. -/
  children : Attributes

/-- Find a sibling by name. The first of the siblings has the number `id`. -/
def find? (name : String) (id : Nat) : Attributes → Option Entry
  | none => .none
  | declare declared repeated children siblings =>
    if declared = name then some ⟨id, repeated, children⟩
    else siblings.find? name (id + 1 + children.size)

/-- Follow names downwards, starting at siblings whose first has the number `id`. -/
def walk? : List String → Nat → Attributes → Option Path
  | [], _, _ => some ⟨[], false⟩
  | name :: names, id, attributes => do
    let entry ← attributes.find? name id
    let rest ← walk? names (entry.id + 1) entry.children
    return ⟨entry.id :: rest.ids, entry.repeated || rest.repeated⟩

/-- The number of a sibling is found by its name. -/
theorem lookup_numbers (name : String) (id : Nat) (attributes : Attributes) :
    (attributes.numbers id).lookup name = (attributes.find? name id).map Entry.id := by
  induction attributes generalizing id with
  | none => rfl
  | declare declared repeated children siblings _ ih =>
    rw [numbers, find?, List.lookup_cons, ih]
    by_cases hname : declared = name
    · rw [if_pos hname, beq_iff_eq.mpr hname.symm, Option.map_some]
    · rw [if_neg hname, beq_eq_false_iff_ne.mpr (Ne.symm hname)]

/-- The table holds what is found. -/
theorem Tabulated.of_find? (h : Tabulated table id attributes) {entry : Entry}
    (hfind : attributes.find? name id = some entry) :
    table[entry.id]? = some ⟨entry.repeated, entry.children.numbers (entry.id + 1)⟩ ∧
      Tabulated table (entry.id + 1) entry.children := by
  induction h with
  | none id => cases hfind
  | declare hentry hchildren _ _ ih =>
    rw [find?] at hfind
    split at hfind
    · cases hfind
      exact ⟨hentry, hchildren⟩
    · exact ih hfind

/-- The entry of a sibling is at its position, and the entries of what is embedded in it follow. -/
theorem Tabulated.of_sibling (h : Tabulated table id attributes) {i : Nat}
    {declaration : Declaration} (hsibling : attributes.declarations[i]? = some declaration) :
    table[id + attributes.places.idxOf [i]]? = some ⟨declaration.repeated,
        declaration.children.numbers (id + attributes.places.idxOf [i] + 1)⟩ ∧
      Tabulated table (id + attributes.places.idxOf [i] + 1) declaration.children := by
  induction h generalizing i with
  | none id => cases hsibling
  | @declare id name repeated children siblings hentry hchildren _ _ ih =>
    cases i with
    | zero =>
      obtain rfl := Option.some.inj hsibling
      rw [idxOf_first, Nat.add_zero]
      exact ⟨hentry, hchildren⟩
    | succ i =>
      have hplace : id + (Attributes.declare name repeated children siblings).places.idxOf [i + 1]
          = id + 1 + children.size + siblings.places.idxOf [i] := by
        rw [idxOf_later]
        omega
      rw [hplace]
      exact ih hsibling

/-- So it is for every declaration. -/
theorem Tabulated.of_declares (h : Tabulated table id attributes) {place : List Nat}
    {declaration : Declaration} (hdeclares : attributes.Declares place declaration) :
    table[id + attributes.places.idxOf place]? = some ⟨declaration.repeated,
        declaration.children.numbers (id + attributes.places.idxOf place + 1)⟩ ∧
      Tabulated table (id + attributes.places.idxOf place + 1) declaration.children := by
  induction place generalizing id attributes with
  | nil => exact absurd hdeclares not_declares_nil
  | cons i place ih =>
    obtain ⟨outer, hsibling, ⟨rfl, rfl⟩ | hinside⟩ := declares_cons_iff.mp hdeclares
    · exact h.of_sibling hsibling
    · have hplace : id + attributes.places.idxOf (i :: place)
          = id + attributes.places.idxOf [i] + 1 + outer.children.places.idxOf place := by
        rw [idxOf_cons hsibling (mem_places.mpr ⟨_, hinside⟩)]
        omega
      rw [hplace]
      exact ih (h.of_sibling hsibling).2 hinside

/-- Looking up names in the table is walking down the declarations. -/
theorem Tabulated.walk?_eq (h : Tabulated table id attributes) (names : List String) :
    Schema.walk? table names (attributes.numbers id) = attributes.walk? names id := by
  induction names generalizing id attributes with
  | nil => rfl
  | cons name names ih =>
    rw [Schema.walk?, walk?, lookup_numbers]
    cases hfind : attributes.find? name id with
    | none => rfl
    | some entry =>
      obtain ⟨hentry, hchildren⟩ := h.of_find? hfind
      show (table[entry.id]?.bind _) = _
      rw [hentry]
      show (Schema.walk? table names (entry.children.numbers (entry.id + 1))).bind _ = _
      rw [ih hchildren]
      rfl

/-- A schema is the table of declarations. -/
structure Tables (attributes : Attributes) (schema : Schema) : Prop where
  roots : schema.roots = attributes.numbers 0
  entries : Tabulated schema.entries 0 attributes
  size : schema.size = attributes.size

end Attributes

/-- Declarations that pass the check are filled into a table, and for others the error of the check is
reported. -/
theorem Schema.ofAttributes_spec (attributes : Attributes) :
    (∃ error, ofAttributes attributes = .error error ∧ attributes.check [] = .error error) ∨
    ∃ schema, ofAttributes attributes = .ok schema ∧ attributes.check [] = .ok () ∧
      attributes.Tables schema := by
  have hspec := @Attributes.insertAll_spec attributes #[] [] [] fun _ => rfl
  unfold ofAttributes
  split
  · rename_i error h
    rcases hspec with ⟨error', hinsert, hcheck⟩ | ⟨_, _, hinsert, _⟩
    · obtain rfl := Except.error.inj (h.symm.trans hinsert)
      exact .inl ⟨error, rfl, hcheck⟩
    · cases h.symm.trans hinsert
  · rename_i entries roots h
    rcases hspec with ⟨_, hinsert, _⟩ | ⟨entries', roots', hinsert, hcheck, hfilled⟩
    · cases h.symm.trans hinsert
    · obtain ⟨rfl, rfl⟩ := Prod.mk.inj (Except.ok.inj (h.symm.trans hinsert))
      refine .inr ⟨_, rfl, hcheck, ⟨hfilled.names, hfilled.tabulated, ?_⟩⟩
      rw [size, hfilled.size]
      exact Nat.zero_add _

end Percolator
