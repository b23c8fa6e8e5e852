import Percolator.Proofs.Schema.Validation

/-!
# The paths that names stand for

A dotted name is resolved by looking up its parts in the table, which is walking down the declarations.
Main statement: in a schema the entry of every declaration is at its position in preorder. A name
resolves exactly if it joins the names of a chain of declarations by points; the attributes of its path
are then numbered by the positions of the chain, and the path is repeated if the chain goes through a
collection. So no two names stand for one path, and the attributes of a path tell whether it is
repeated.
-/

namespace Percolator

/-- The parts of a text between its points are what splitting it at the points gives. -/
theorem segments_eq_splitOn (text : List Char) : segments text = text.splitOn '.' := by
  rw [List.splitOn_eq_splitOnP]
  induction text with
  | nil => rfl
  | cons c rest ih =>
    rw [List.splitOnP_cons_eq_if_modifyHead, ← ih]
    by_cases hpoint : c = '.'
    · subst hpoint
      rfl
    · have hne : segments rest ≠ [] := ih ▸ List.splitOnP_ne_nil _ _
      rw [if_neg (by simpa using hpoint), segments]
      · cases hparts : segments rest with
        | nil => exact absurd hparts hne
        | cons => rfl
      · exact hpoint

/-- A text is split into parts without points exactly if it joins them by points. -/
theorem segments_eq_iff {name : String} {names : List String} (hne : names ≠ [])
    (hpoints : ∀ part ∈ names, '.' ∉ part.toList) :
    (segments name.toList).map String.ofList = names ↔ name = ".".intercalate names := by
  rw [← String.toList_inj, String.toList_intercalate, segments_eq_splitOn]
  change _ ↔ name.toList = ['.'].intercalate _
  constructor
  · rintro rfl
    rw [List.map_map]
    simp [Function.comp_def, List.intercalate_splitOn]
  · intro h
    rw [h, List.splitOn_intercalate]
    · simp [List.map_map, Function.comp_def]
    · simpa using hpoints
    · simpa using hne

namespace Attributes

/-- What resolving names to paths amounts to, for the attributes that a schema was made of. -/
structure Resolves (attributes : Attributes) (schema : Schema) : Prop where
  /-- A name stands for a path exactly if it joins the names of a chain of declarations. The attributes
  of the path have the positions of the beginnings of the chain in preorder. -/
  exact : ∀ name path, schema.resolve name = some path ↔ ∃ place chain, chain ≠ [] ∧
    attributes.Chain place chain ∧ name = ".".intercalate (chain.map Declaration.name) ∧
    path.ids = place.inits.tail.map attributes.places.idxOf ∧
    path.repeated = chain.any Declaration.repeated
  /-- Different names stand for different paths. -/
  injective : ∀ name other path, schema.resolve name = some path →
    schema.resolve other = some path → name = other
  /-- The attributes of a path tell whether it is repeated. -/
  repeated : ∀ name other path path', schema.resolve name = some path →
    schema.resolve other = some path' → path.ids = path'.ids → path.repeated = path'.repeated
  /-- The listing in preorder has the places of all declarations. -/
  listed : ∀ place, place ∈ attributes.places ↔ ∃ declaration, attributes.Declares place declaration
  /-- Outer declarations are listed before inner ones, and earlier siblings before later ones. -/
  sorted : attributes.places.Pairwise (· < ·)
  /-- The entry of a declaration is at its position in preorder. It tells whether the attribute is a
  collection, and has the positions of the declarations embedded in it. -/
  entries : ∀ place declaration, attributes.Declares place declaration → ∃ entry,
    schema.entries[attributes.places.idxOf place]? = some entry ∧
    entry.repeated = declaration.repeated ∧
    ∀ name id, entry.children.lookup name = some id ↔ ∃ i inner,
      declaration.children.declarations[i]? = some inner ∧ inner.name = name ∧
      id = attributes.places.idxOf (place ++ [i])
  /-- The schema has the positions of the outermost declarations. -/
  roots : ∀ name id, schema.roots.lookup name = some id ↔ ∃ i outer,
    attributes.declarations[i]? = some outer ∧ outer.name = name ∧ id = attributes.places.idxOf [i]
  /-- The size of the schema is the number of all declarations. -/
  size : schema.size = attributes.places.length

variable {attributes : Attributes} {name : String} {names : List String} {i id : Nat}
  {declaration : Declaration} {entry : Entry} {path : Path} {place place' : List Nat}
  {chain chain' : List Declaration}

/-- Siblings of declarations that keep the rules have different names. -/
theorem KeepsRules.nodup (h : attributes.KeepsRules) :
    (attributes.declarations.map Declaration.name).Nodup := by
  rw [List.nodup_iff_getElem?_ne_getElem?]
  intro i j hij hj hsame
  rw [List.length_map] at hj
  have hi := Nat.lt_trans hij hj
  rw [List.getElem?_map, List.getElem?_map, List.getElem?_eq_getElem hi,
    List.getElem?_eq_getElem hj] at hsame
  have heq := h.siblings [] i j _ _ (declares_singleton_iff.mpr (List.getElem?_eq_getElem hi))
    (declares_singleton_iff.mpr (List.getElem?_eq_getElem hj)) (Option.some.inj hsame)
  omega

/-- What is embedded in declarations that keep the rules keeps them as well. -/
theorem KeepsRules.children (h : attributes.KeepsRules)
    (hsibling : attributes.declarations[i]? = some declaration) :
    declaration.children.KeepsRules := by
  have hinside : ∀ place found, declaration.children.Declares place found →
      attributes.Declares (i :: place) found := fun place found hfound =>
    declares_cons_iff.mpr ⟨declaration, hsibling, .inr hfound⟩
  refine ⟨fun place found hfound => h.names _ _ (hinside _ _ hfound), ?_⟩
  intro above j k found other hfound hother
  exact h.siblings (i :: above) j k found other (hinside _ _ hfound) (hinside _ _ hother)

/-- Among siblings with different names, one is found by its name. -/
theorem find?_eq_some_iff (h : (attributes.declarations.map Declaration.name).Nodup) :
    attributes.find? name id = some entry ↔ ∃ i declaration,
      attributes.declarations[i]? = some declaration ∧ declaration.name = name ∧
      entry = ⟨id + attributes.places.idxOf [i], declaration.repeated, declaration.children⟩ := by
  induction attributes generalizing id with
  | none => simp [find?, declarations]
  | declare declared repeated children siblings _ ih =>
    rw [declarations, List.map_cons, List.nodup_cons] at h
    rw [find?]
    split
    · rename_i hname
      constructor
      · intro hentry
        exact ⟨0, ⟨declared, repeated, children⟩, rfl, hname, by
          rw [idxOf_first, Nat.add_zero, Option.some.inj hentry]⟩
      · rintro ⟨i, declaration, hsibling, hsame, rfl⟩
        cases i with
        | zero =>
          obtain rfl := Option.some.inj hsibling
          rw [idxOf_first, Nat.add_zero]
        | succ i =>
          have hlater : declaration ∈ siblings.declarations := List.mem_of_getElem? hsibling
          have hrepeats : declaration.name ∈ siblings.declarations.map Declaration.name :=
            List.mem_map_of_mem hlater
          rw [hsame, ← hname] at hrepeats
          exact absurd hrepeats h.1
    · rename_i hname
      rw [ih h.2]
      constructor
      · rintro ⟨i, declaration, hsibling, hsame, rfl⟩
        refine ⟨i + 1, declaration, hsibling, hsame, ?_⟩
        rw [idxOf_later, Entry.mk.injEq]
        exact ⟨by omega, rfl, rfl⟩
      · rintro ⟨i, declaration, hsibling, hsame, rfl⟩
        cases i with
        | zero =>
          obtain rfl := Option.some.inj hsibling
          exact absurd hsame hname
        | succ i =>
          refine ⟨i, declaration, hsibling, hsame, ?_⟩
          rw [idxOf_later, Entry.mk.injEq]
          exact ⟨by omega, rfl, rfl⟩

/-- The numbers of siblings are their positions. -/
theorem lookup_numbers_eq_some_iff (h : (attributes.declarations.map Declaration.name).Nodup)
    {number : Nat} : (attributes.numbers id).lookup name = some number ↔ ∃ i declaration,
      attributes.declarations[i]? = some declaration ∧ declaration.name = name ∧
      number = id + attributes.places.idxOf [i] := by
  rw [lookup_numbers, Option.map_eq_some_iff]
  simp only [find?_eq_some_iff h]
  constructor
  · rintro ⟨entry, ⟨i, declaration, hsibling, hname, rfl⟩, rfl⟩
    exact ⟨i, declaration, hsibling, hname, rfl⟩
  · rintro ⟨i, declaration, hsibling, hname, rfl⟩
    exact ⟨_, ⟨i, declaration, hsibling, hname, rfl⟩, rfl⟩

/-- The beginnings of a place are its first position and those inside. -/
theorem tail_inits_cons (i : Nat) (place : List Nat) :
    (i :: place).inits.tail = [i] :: place.inits.tail.map (i :: ·) := by
  cases place <;> simp

/-- The beginnings of the place of a chain are listed. -/
theorem Chain.mem_places (h : attributes.Chain place chain) {above : List Nat}
    (habove : above ∈ place.inits.tail) : above ∈ attributes.places := by
  induction h generalizing above with
  | nil => simp at habove
  | cons hsibling _ ih =>
    rw [tail_inits_cons] at habove
    rcases List.mem_cons.mp habove with rfl | hinside
    · exact Attributes.mem_places.mpr ⟨_, declares_singleton_iff.mpr hsibling⟩
    · obtain ⟨rest, hrest, rfl⟩ := List.mem_map.mp hinside
      obtain ⟨found, hfound⟩ := Attributes.mem_places.mp (ih hrest)
      exact Attributes.mem_places.mpr ⟨found, declares_cons_iff.mpr ⟨_, hsibling, .inr hfound⟩⟩

/-- The attributes of a path are the first sibling on it and those inside, which are numbered from the
next number on. -/
theorem Chain.ids_cons (hsibling : attributes.declarations[i]? = some declaration)
    (hchain : declaration.children.Chain place chain) (id : Nat) :
    (i :: place).inits.tail.map (fun above => id + attributes.places.idxOf above)
      = (id + attributes.places.idxOf [i]) :: place.inits.tail.map (fun above =>
          id + attributes.places.idxOf [i] + 1 + declaration.children.places.idxOf above) := by
  rw [tail_inits_cons, List.map_cons, List.map_map]
  refine congrArg _ (List.map_congr_left fun above habove => ?_)
  rw [Function.comp_apply, idxOf_cons hsibling (hchain.mem_places habove)]
  omega

/-- Walking down follows a chain of declarations. -/
theorem walk?_eq_some_iff (h : attributes.KeepsRules) :
    walk? names id attributes = some path ↔ ∃ place chain, attributes.Chain place chain ∧
      chain.map Declaration.name = names ∧
      path.ids = place.inits.tail.map (fun above => id + attributes.places.idxOf above) ∧
      path.repeated = chain.any Declaration.repeated := by
  induction names generalizing id attributes path with
  | nil =>
    rw [walk?, Option.some.injEq]
    constructor
    · rintro rfl
      exact ⟨[], [], .nil _, rfl, rfl, rfl⟩
    · rintro ⟨place, chain, hchain, hnames, hids, hrepeated⟩
      obtain rfl := List.map_eq_nil_iff.mp hnames
      cases hchain
      cases path
      rw [Path.mk.injEq]
      exact ⟨hids.symm, hrepeated.symm⟩
  | cons name names ih =>
    constructor
    · intro hwalk
      obtain ⟨entry, hentry, hwalk⟩ := Option.bind_eq_some_iff.mp hwalk
      obtain ⟨rest, hrest, hpath⟩ := Option.bind_eq_some_iff.mp hwalk
      obtain ⟨i, declaration, hsibling, hname, rfl⟩ := (find?_eq_some_iff h.nodup).mp hentry
      obtain ⟨place, chain, hchain, hnames, hids, hrepeated⟩ :=
        (ih (h.children hsibling)).mp hrest
      obtain rfl := Option.some.inj hpath
      refine ⟨i :: place, declaration :: chain, .cons hsibling hchain, ?_, ?_, ?_⟩
      · rw [List.map_cons, hname, hnames]
      · rw [Chain.ids_cons hsibling hchain, hids]
      · rw [List.any_cons, hrepeated]
    · rintro ⟨place, chain, hchain, hnames, hids, hrepeated⟩
      cases hchain with
      | nil => simp at hnames
      | @cons _ i declaration place chain hsibling hchain =>
        obtain ⟨hname, hnames⟩ := List.cons.inj hnames
        rw [Chain.ids_cons hsibling hchain] at hids
        refine Option.bind_eq_some_iff.mpr
          ⟨_, (find?_eq_some_iff h.nodup).mpr ⟨i, declaration, hsibling, hname, rfl⟩, ?_⟩
        refine Option.bind_eq_some_iff.mpr ⟨⟨_, _⟩, (ih (h.children hsibling)).mpr
          ⟨place, chain, hchain, hnames, rfl, rfl⟩, ?_⟩
        cases path
        rw [List.any_cons] at hrepeated
        refine congrArg some ?_
        rw [Path.mk.injEq]
        exact ⟨hids.symm, hrepeated.symm⟩

/-- What is embedded in a declaration at any depth keeps the rules as well. -/
theorem KeepsRules.of_declares (h : attributes.KeepsRules)
    (hdeclares : attributes.Declares place declaration) : declaration.children.KeepsRules := by
  induction place generalizing attributes with
  | nil => exact absurd hdeclares not_declares_nil
  | cons i place ih =>
    obtain ⟨outer, hsibling, ⟨rfl, rfl⟩ | hinside⟩ := declares_cons_iff.mp hdeclares
    · exact h.children hsibling
    · exact ih (h.children hsibling) hinside

/-- The entry of a declaration has the positions of the declarations embedded in it. -/
theorem Tables.exists_entry {schema : Schema} (h : attributes.KeepsRules)
    (htables : attributes.Tables schema) (hdeclares : attributes.Declares place declaration) :
    ∃ entry, schema.entries[attributes.places.idxOf place]? = some entry ∧
      entry.repeated = declaration.repeated ∧
      ∀ name id, entry.children.lookup name = some id ↔ ∃ i inner,
        declaration.children.declarations[i]? = some inner ∧ inner.name = name ∧
        id = attributes.places.idxOf (place ++ [i]) := by
  have hentry := (htables.entries.of_declares hdeclares).1
  rw [Nat.zero_add] at hentry
  refine ⟨_, hentry, rfl, fun name id => ?_⟩
  rw [lookup_numbers_eq_some_iff (h.of_declares hdeclares).nodup]
  refine exists_congr fun i => exists_congr fun inner => and_congr_right fun hsibling => ?_
  rw [idxOf_append hdeclares (mem_places.mpr ⟨inner, declares_singleton_iff.mpr hsibling⟩)]

/-- The declarations of a chain are declared. -/
theorem Chain.exists_declares (h : attributes.Chain place chain) (hmem : declaration ∈ chain) :
    ∃ place, attributes.Declares place declaration := by
  induction h with
  | nil => simp at hmem
  | @cons attributes i first _ _ hsibling _ ih =>
    rcases List.mem_cons.mp hmem with rfl | hinside
    · exact ⟨[i], declares_singleton_iff.mpr hsibling⟩
    · obtain ⟨place, hfound⟩ := ih hinside
      exact ⟨i :: place, declares_cons_iff.mpr ⟨first, hsibling, .inr hfound⟩⟩

/-- The last beginning of a place is the place. -/
theorem getLast?_tail_inits (i : Nat) (place : List Nat) :
    (i :: place).inits.tail.getLast? = some (i :: place) := by
  induction place generalizing i with
  | nil => rfl
  | cons j place ih =>
    rw [tail_inits_cons, List.getLast?_cons, List.getLast?_map, ih, Option.map_some,
      Option.getD_some]

/-- The attributes of a path tell the place that it leads to. -/
theorem Chain.place_eq (h : attributes.Chain place chain) (h' : attributes.Chain place' chain')
    (hne : chain ≠ []) (hne' : chain' ≠ [])
    (hids : place.inits.tail.map attributes.places.idxOf
      = place'.inits.tail.map attributes.places.idxOf) : place = place' := by
  cases place with
  | nil => cases h; exact absurd rfl hne
  | cons i place =>
    cases place' with
    | nil => cases h'; exact absurd rfl hne'
    | cons j place' =>
      have hlast := congrArg List.getLast? hids
      rw [List.getLast?_map, List.getLast?_map, getLast?_tail_inits, getLast?_tail_inits] at hlast
      have hmem : i :: place ∈ attributes.places :=
        h.mem_places (List.mem_of_getLast? (getLast?_tail_inits i place))
      exact (List.idxOf_inj hmem).mp (Option.some.inj hlast)

/-- A name stands for a path exactly if it joins the names of a chain of declarations. -/
theorem resolve_eq_some_iff {schema : Schema} (h : attributes.KeepsRules)
    (htables : attributes.Tables schema) :
    schema.resolve name = some path ↔ ∃ place chain, chain ≠ [] ∧
      attributes.Chain place chain ∧ name = ".".intercalate (chain.map Declaration.name) ∧
      path.ids = place.inits.tail.map attributes.places.idxOf ∧
      path.repeated = chain.any Declaration.repeated := by
  have hpoints : ∀ {place chain}, attributes.Chain place chain →
      ∀ part ∈ chain.map Declaration.name, '.' ∉ part.toList := by
    intro place chain hchain part hpart
    obtain ⟨declaration, hmem, rfl⟩ := List.mem_map.mp hpart
    obtain ⟨_, hdeclares⟩ := hchain.exists_declares hmem
    exact (h.names _ _ hdeclares).2
  rw [Schema.resolve, htables.roots, htables.entries.walk?_eq, walk?_eq_some_iff h]
  simp only [Nat.zero_add]
  refine exists_congr fun place => exists_congr fun chain => ?_
  constructor
  · rintro ⟨hchain, hnames, hids, hrepeated⟩
    have hne : chain ≠ [] := by
      rintro rfl
      rw [List.map_nil, eq_comm, List.map_eq_nil_iff, segments_eq_splitOn] at hnames
      exact absurd hnames (List.splitOn_ne_nil _ _)
    refine ⟨hne, hchain, ?_, hids, hrepeated⟩
    exact (segments_eq_iff (by simpa using hne) (hpoints hchain)).mp hnames.symm
  · rintro ⟨hne, hchain, hname, hids, hrepeated⟩
    refine ⟨hchain, ?_, hids, hrepeated⟩
    exact ((segments_eq_iff (by simpa using hne) (hpoints hchain)).mpr hname).symm

end Attributes

namespace Schema

/-- In a schema, names resolve to the paths of chains of declarations. -/
theorem resolution_exact {attributes : Attributes} {schema : Schema}
    (h : ofAttributes attributes = .ok schema) : attributes.Resolves schema := by
  obtain ⟨hrules, htables⟩ := keepsRules_of_ofAttributes h
  -- Paths with the same attributes lead along the same chain.
  have hsame : ∀ {name other path path'}, schema.resolve name = some path →
      schema.resolve other = some path' → path.ids = path'.ids →
      name = other ∧ path.repeated = path'.repeated := by
    intro name other path path' hname hother heq
    obtain ⟨place, chain, hne, hchain, rfl, hids, hrepeated⟩ :=
      (Attributes.resolve_eq_some_iff hrules htables).mp hname
    obtain ⟨place', chain', hne', hchain', rfl, hids', hrepeated'⟩ :=
      (Attributes.resolve_eq_some_iff hrules htables).mp hother
    rw [hids, hids'] at heq
    obtain rfl := hchain.place_eq hchain' hne hne' heq
    obtain rfl := hchain.unique hchain'
    exact ⟨rfl, hrepeated.trans hrepeated'.symm⟩
  exact {
    exact := fun _ _ => Attributes.resolve_eq_some_iff hrules htables
    injective := fun _ _ _ hname hother => (hsame hname hother rfl).1
    repeated := fun _ _ _ _ hname hother hids => (hsame hname hother hids).2
    listed := fun _ => Attributes.mem_places
    sorted := Attributes.places_sorted _
    entries := fun _ _ hdeclares => htables.exists_entry hrules hdeclares
    roots := fun name id => by
      rw [htables.roots, Attributes.lookup_numbers_eq_some_iff hrules.nodup]
      simp only [Nat.zero_add]
    size := htables.size.trans (Attributes.length_places _).symm }

/-- A home and workplaces with streets, and a floor at each street of a workplace. -/
def addresses : Attributes :=
  .declare "home" false (.declare "street" false .none .none)
    (.declare "work" true (.declare "street" false (.declare "floor" false .none .none) .none) .none)

/-- The floor is the fifth attribute, and there may be many. -/
theorem resolution_exact_addresses : ∃ schema, ofAttributes addresses = .ok schema ∧
    addresses.Resolves schema ∧ schema.resolve "work.street.floor" = some ⟨[2, 3, 4], true⟩ := by
  have hrules : addresses.KeepsRules := Attributes.check_eq_ok_iff.mp (by decide)
  obtain ⟨schema, haddresses, -⟩ := (validation_exact addresses).1.mpr hrules
  have hresolves := resolution_exact haddresses
  have hchain : addresses.Chain [1, 0, 0] _ := .cons rfl (.cons rfl (.cons rfl (.nil _)))
  refine ⟨schema, haddresses, hresolves, (hresolves.exact _ _).mpr
    ⟨_, _, List.cons_ne_nil _ _, hchain, ?_, ?_, rfl⟩⟩
  · decide
  · decide

end Schema

end Percolator
