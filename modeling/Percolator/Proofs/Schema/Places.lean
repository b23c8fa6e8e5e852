import Mathlib.Data.List.Nodup
import Percolator.Schema

/-!
# The places of declarations

A declaration stands among its siblings inside the declarations that it is embedded in. Its place
lists the positions on the way to it, from the outermost declaration down. Main statements: the places
of all declarations, outer ones before inner ones and earlier siblings before later ones, are listed
without repetition, and the position of a place in this listing follows from the sizes of what comes
before.
-/

namespace Percolator

/-- A declared attribute without its siblings. -/
structure Declaration where
  name : String
  repeated : Bool
  /-- The attributes embedded in it. -/
  children : Attributes

namespace Attributes

/-- The number of attributes, embedded ones included. -/
def size : Attributes → Nat
  | none => 0
  | declare _ _ children siblings => 1 + children.size + siblings.size

/-- The declarations of siblings, in order. -/
def declarations : Attributes → List Declaration
  | none => []
  | declare name repeated children siblings => ⟨name, repeated, children⟩ :: siblings.declarations

/-- Each declaration of a chain is embedded in the one before it, and the first one in none. The place
of a chain lists the position of each declaration among its siblings. -/
inductive Chain : Attributes → List Nat → List Declaration → Prop
  | nil (attributes : Attributes) : Chain attributes [] []
  | cons {attributes : Attributes} {i : Nat} {declaration : Declaration} {place : List Nat}
      {chain : List Declaration} (hsibling : attributes.declarations[i]? = some declaration)
      (hchain : Chain declaration.children place chain) :
      Chain attributes (i :: place) (declaration :: chain)

/-- A declaration stands at a place. -/
def Declares (attributes : Attributes) (place : List Nat) (declaration : Declaration) : Prop :=
  ∃ above, Chain attributes place (above ++ [declaration])

/-- The places of all declarations in preorder. The places of the later siblings start with a greater
position. -/
def places : Attributes → List (List Nat)
  | none => []
  | declare _ _ children siblings =>
    [0] :: children.places.map (0 :: ·) ++ siblings.places.map (List.modifyHead (· + 1))

variable {attributes children siblings : Attributes} {name : String} {repeated : Bool}
  {place other : List Nat} {chain : List Declaration} {declaration : Declaration} {i : Nat}

/-- A place has one chain only. -/
theorem Chain.unique (h : Chain attributes place chain) {chain' : List Declaration}
    (h' : Chain attributes place chain') : chain' = chain := by
  induction h generalizing chain' with
  | nil => cases h' with | nil => rfl
  | cons hsibling hchain ih =>
    cases h' with
    | cons hsibling' hchain' =>
      obtain rfl := Option.some.inj (hsibling.symm.trans hsibling')
      rw [ih hchain']

/-- A place is as long as its chain. -/
theorem Chain.length_eq (h : Chain attributes place chain) : place.length = chain.length := by
  induction h with
  | nil => rfl
  | cons _ _ ih => rw [List.length_cons, List.length_cons, ih]

/-- Nothing stands at the empty place. -/
theorem not_declares_nil : ¬ Declares attributes [] declaration := by
  rintro ⟨above, h⟩
  have hlength := h.length_eq
  simp at hlength

/-- Nothing stands anywhere where nothing is declared. -/
theorem not_declares_none : ¬ Declares none place declaration := by
  rintro ⟨above, h⟩
  cases place with
  | nil => exact not_declares_nil ⟨above, h⟩
  | cons i place =>
    cases hchain : above ++ [declaration] with
    | nil => simp at hchain
    | cons =>
      rw [hchain] at h
      cases h with
      | cons hsibling => simp [declarations] at hsibling

/-- What stands at a place is the sibling there, or is embedded in it. -/
theorem declares_cons_iff : Declares attributes (i :: place) declaration ↔
    ∃ outer, attributes.declarations[i]? = some outer ∧
      (place = [] ∧ declaration = outer ∨ Declares outer.children place declaration) := by
  constructor
  · rintro ⟨above, h⟩
    cases above with
    | nil =>
      cases h with
      | cons hsibling hchain =>
        cases hchain with
        | nil => exact ⟨declaration, hsibling, .inl ⟨rfl, rfl⟩⟩
    | cons outer above =>
      cases h with
      | cons hsibling hchain => exact ⟨outer, hsibling, .inr ⟨above, hchain⟩⟩
  · rintro ⟨outer, hsibling, ⟨rfl, rfl⟩ | ⟨above, hchain⟩⟩
    · exact ⟨[], .cons hsibling (.nil _)⟩
    · exact ⟨outer :: above, .cons hsibling hchain⟩

/-- A sibling stands at its position. -/
theorem declares_singleton_iff :
    Declares attributes [i] declaration ↔ attributes.declarations[i]? = some declaration := by
  simp [declares_cons_iff, not_declares_nil]

/-- Below the first sibling stand the declarations that are embedded in it. -/
theorem declares_first_iff (hne : place ≠ []) :
    Declares (declare name repeated children siblings) (0 :: place) declaration ↔
      Declares children place declaration := by
  simp [declares_cons_iff, declarations, hne]

/-- The later siblings stand one position further. -/
theorem declares_later_iff :
    Declares (declare name repeated children siblings) ((i + 1) :: place) declaration ↔
      Declares siblings (i :: place) declaration := by
  simp [declares_cons_iff, declarations]

/-- What is embedded in a declaration at a place stands below that place. -/
theorem Declares.append (h : Declares attributes place declaration) {inner : Declaration}
    (hinner : Declares declaration.children other inner) :
    Declares attributes (place ++ other) inner := by
  induction place generalizing attributes with
  | nil => exact absurd h not_declares_nil
  | cons i place ih =>
    obtain ⟨outer, hsibling, ⟨rfl, rfl⟩ | hinside⟩ := declares_cons_iff.mp h
    · exact declares_cons_iff.mpr ⟨declaration, hsibling, .inr hinner⟩
    · exact declares_cons_iff.mpr ⟨outer, hsibling, .inr (ih hinside)⟩

/-- No declaration stands at the empty place. -/
theorem nil_notMem_places : [] ∉ attributes.places := by
  induction attributes with
  | none => exact List.not_mem_nil
  | declare name repeated children siblings _ ih => simpa [places] using ih

/-- Among the places of later siblings are those of siblings, one position further. -/
theorem mem_map_modifyHead_iff {listed : List (List Nat)} (hnil : [] ∉ listed) :
    place ∈ listed.map (List.modifyHead (· + 1)) ↔
      ∃ i rest, place = (i + 1) :: rest ∧ i :: rest ∈ listed := by
  rw [List.mem_map]
  constructor
  · rintro ⟨found, hfound, rfl⟩
    cases found with
    | nil => exact absurd hfound hnil
    | cons i rest => exact ⟨i, rest, rfl, hfound⟩
  · rintro ⟨i, rest, rfl, hlisted⟩
    exact ⟨i :: rest, hlisted, rfl⟩

/-- The places of later siblings. -/
theorem later_mem_places_iff :
    (i + 1) :: place ∈ (declare name repeated children siblings).places ↔
      i :: place ∈ siblings.places := by
  simp [places, mem_map_modifyHead_iff nil_notMem_places]

/-- The places below the first sibling. -/
theorem first_mem_places_iff (hne : place ≠ []) :
    0 :: place ∈ (declare name repeated children siblings).places ↔ place ∈ children.places := by
  simp [places, mem_map_modifyHead_iff nil_notMem_places, hne]

/-- The places that are listed are those at which a declaration stands. -/
theorem mem_places :
    place ∈ attributes.places ↔ ∃ declaration, Declares attributes place declaration := by
  induction attributes generalizing place with
  | none => simp [places, not_declares_none]
  | declare name repeated children siblings ihChildren ihSiblings =>
    match place with
    | [] => simp [nil_notMem_places, not_declares_nil]
    | [0] => simp [places, declares_singleton_iff, declarations]
    | 0 :: i :: place =>
      rw [first_mem_places_iff (List.cons_ne_nil _ _), ihChildren]
      simp only [declares_first_iff (List.cons_ne_nil _ _)]
    | (i + 1) :: place =>
      rw [later_mem_places_iff, ihSiblings]
      simp only [declares_later_iff]

/-- Outer places are listed before inner ones, and earlier siblings before later ones. -/
theorem places_sorted (attributes : Attributes) : attributes.places.Pairwise (· < ·) := by
  induction attributes with
  | none => exact .nil
  | declare name repeated children siblings ihChildren ihSiblings =>
    have hlater : ∀ later ∈ siblings.places.map (List.modifyHead (· + 1)), ∀ rest : List Nat,
        0 :: rest < later := by
      intro later hlater rest
      obtain ⟨i, _, rfl, _⟩ := (mem_map_modifyHead_iff nil_notMem_places).mp hlater
      exact List.cons_lt_cons_iff.mpr (.inl i.succ_pos)
    refine List.pairwise_append.mpr ⟨List.pairwise_cons.mpr ⟨?_, ?_⟩, ?_, ?_⟩
    · intro inner hinner
      obtain ⟨rest, hrest, rfl⟩ := List.mem_map.mp hinner
      refine List.cons_lt_cons_iff.mpr (.inr ⟨rfl, ?_⟩)
      cases rest with
      | nil => exact absurd hrest nil_notMem_places
      | cons => exact List.nil_lt_cons _ _
    · exact List.pairwise_map.mpr (ihChildren.imp fun hlt =>
        List.cons_lt_cons_iff.mpr (.inr ⟨rfl, hlt⟩))
    · refine List.pairwise_map.mpr (ihSiblings.imp_of_mem ?_)
      intro earlier later hearlier hlater hlt
      cases earlier with
      | nil => exact absurd hearlier nil_notMem_places
      | cons i earlier =>
        cases later with
        | nil => exact absurd hlater nil_notMem_places
        | cons j later =>
          refine List.cons_lt_cons_iff.mpr ((List.cons_lt_cons_iff.mp hlt).imp Nat.succ_lt_succ ?_)
          exact fun hsame => ⟨congrArg (· + 1) hsame.1, hsame.2⟩
    · intro earlier hearlier later hmem
      rcases List.mem_cons.mp hearlier with rfl | hinner
      · exact hlater later hmem []
      · obtain ⟨rest, _, rfl⟩ := List.mem_map.mp hinner
        exact hlater later hmem rest

/-- Every declaration is listed once. -/
theorem length_places (attributes : Attributes) : attributes.places.length = attributes.size := by
  induction attributes with
  | none => rfl
  | declare name repeated children siblings ihChildren ihSiblings =>
    simp [places, size, ihChildren, ihSiblings]
    omega

/-- The position of an element does not change if the elements are told apart as before. -/
theorem idxOf_map_of_injective {f : List Nat → List Nat} (hf : f.Injective)
    (listed : List (List Nat)) (place : List Nat) : (listed.map f).idxOf (f place) = listed.idxOf place := by
  induction listed with
  | nil => rfl
  | cons first listed ih => simp [List.idxOf_cons, ih, hf.beq_eq]

/-- The first sibling comes first. -/
theorem idxOf_first : (declare name repeated children siblings).places.idxOf [0] = 0 := by
  simp [places]

/-- Behind the first sibling come the declarations that are embedded in it. -/
theorem idxOf_inner (h : place ∈ children.places) :
    (declare name repeated children siblings).places.idxOf (0 :: place)
      = children.places.idxOf place + 1 := by
  have hne : [0] ≠ 0 :: place := by
    intro heq
    rw [← (List.cons.inj heq).2] at h
    exact nil_notMem_places h
  have hmem : 0 :: place ∈ children.places.map (0 :: ·) := List.mem_map_of_mem h
  rw [places, List.idxOf_append_of_mem (List.mem_cons_of_mem _ hmem), List.idxOf_cons_ne _ hne,
    idxOf_map_of_injective List.cons_injective]

/-- Behind them come the later siblings. -/
theorem idxOf_later : (declare name repeated children siblings).places.idxOf ((i + 1) :: place)
    = 1 + children.size + siblings.places.idxOf (i :: place) := by
  have hnot : (i + 1) :: place ∉ [0] :: children.places.map (0 :: ·) := by simp
  have hinjective : Function.Injective (List.modifyHead (· + 1) : List Nat → List Nat) := by
    intro one another h
    cases one <;> cases another <;> simp_all
  have hmap := idxOf_map_of_injective hinjective siblings.places (i :: place)
  rw [places, List.idxOf_append_of_notMem hnot, List.length_cons, List.length_map, length_places,
    Nat.add_comm 1]
  exact congrArg _ hmap

/-- A declaration comes as far behind the one that it is embedded in as it is numbered there. -/
theorem idxOf_cons (h : attributes.declarations[i]? = some declaration)
    (hplace : place ∈ declaration.children.places) : attributes.places.idxOf (i :: place)
      = attributes.places.idxOf [i] + 1 + declaration.children.places.idxOf place := by
  induction attributes generalizing i with
  | none => simp [declarations] at h
  | declare name repeated children siblings _ ih =>
    cases i with
    | zero =>
      obtain rfl := Option.some.inj h
      rw [idxOf_inner hplace, idxOf_first]
      omega
    | succ i =>
      rw [idxOf_later, idxOf_later, ih h]
      omega

/-- The same for a declaration at any depth. -/
theorem idxOf_append (h : Declares attributes place declaration)
    (hother : other ∈ declaration.children.places) : attributes.places.idxOf (place ++ other)
      = attributes.places.idxOf place + 1 + declaration.children.places.idxOf other := by
  induction place generalizing attributes with
  | nil => exact absurd h not_declares_nil
  | cons i place ih =>
    obtain ⟨outer, hsibling, ⟨rfl, rfl⟩ | hinside⟩ := declares_cons_iff.mp h
    · exact idxOf_cons hsibling hother
    · obtain ⟨inner, hinner⟩ := mem_places.mp hother
      rw [List.cons_append, idxOf_cons hsibling (mem_places.mpr ⟨_, hinside⟩),
        idxOf_cons hsibling (mem_places.mpr ⟨inner, hinside.append hinner⟩), ih hinside]
      omega

end Attributes

end Percolator
