import Percolator.Path

/-!
# Schemas

A schema declares the attributes of the data instances, each with the attributes embedded in it. It is
a table with one entry for each attribute, whose place in the table is the number of the attribute. A
dotted name such as `address.street` is resolved by looking up its parts one after the other, from the
outermost attributes on.

A name must be nonempty and free of points, and siblings must have different names; a schema is only
made from declarations that keep these rules.
-/

namespace Percolator

/-- Declarations of sibling attributes, in order. -/
inductive Attributes where
  | none
  /-- An attribute, the attributes embedded in it, and the siblings after it. -/
  | declare (name : String) (repeated : Bool) (children siblings : Attributes)

/-- Why declarations make no schema. -/
inductive SchemaError where
  | alreadyPresent (name : String)
  | invalidName (name : String)
  deriving DecidableEq

/-- The message for the reader of an error. -/
def SchemaError.message : SchemaError → String
  | alreadyPresent name => "attribute " ++ name ++ " has already been defined"
  | invalidName name => "attribute name '" ++ name ++ "' is invalid"

/-- What the table holds of an attribute. -/
structure AttributeEntry where
  /-- Whether the attribute is a collection. -/
  repeated : Bool
  /-- The numbers of the attributes embedded in it, by their names. -/
  children : List (String × Nat)
  deriving DecidableEq

namespace Attributes

/-- A name that a dotted path can mention. -/
def validName (name : String) : Bool := !name.toList.isEmpty && !name.toList.contains '.'

/-- Add siblings to a table, each of them before what is embedded in it. `names` has the numbers of the
siblings before these. The entry of an attribute gets the names inside only when these are numbered. -/
def insertAll (table : Array AttributeEntry) (names : List (String × Nat)) :
    Attributes → Except SchemaError (Array AttributeEntry × List (String × Nat))
  | none => .ok (table, names)
  | declare name repeated children siblings =>
    if !validName name then .error (.invalidName name)
    else if (names.lookup name).isSome then .error (.alreadyPresent name)
    else match children.insertAll (table.push ⟨repeated, []⟩) [] with
      | .error e => .error e
      | .ok (filled, inner) =>
        siblings.insertAll
          (filled.modify table.size fun entry => { entry with children := inner })
          (names ++ [(name, table.size)])

end Attributes

/-- The parts of a text between its points; one empty part for the empty text. -/
def segments : List Char → List (List Char)
  | [] => [[]]
  | '.' :: rest => [] :: segments rest
  | c :: rest =>
    match segments rest with
    | [] => [[c]]
    | part :: parts => (c :: part) :: parts

/-- The table of the declared attributes. -/
structure Schema where
  /-- The numbers of the outermost attributes, by their names. -/
  roots : List (String × Nat)
  /-- The entries of all attributes, by their numbers. -/
  entries : Array AttributeEntry
  /-- The table was filled from declarations. -/
  built : ∃ attributes : Attributes, attributes.insertAll #[] [] = .ok (entries, roots)

namespace Schema

/-- Fill a table from declarations, or tell what is wrong with the first bad one. -/
def ofAttributes (attributes : Attributes) : Except SchemaError Schema :=
  match h : attributes.insertAll #[] [] with
  | .error e => .error e
  | .ok (entries, roots) => .ok ⟨roots, entries, attributes, h⟩

/-- The number of declared attributes, embedded ones included. -/
def size (schema : Schema) : Nat := schema.entries.size

/-- Whether no attribute is declared. -/
def isEmpty (schema : Schema) : Bool := schema.entries.isEmpty

/-- Look up names one after the other, each among the attributes embedded in the one before it. -/
def walk? (entries : Array AttributeEntry) : List String → List (String × Nat) → Option Path
  | [], _ => some ⟨[], false⟩
  | name :: rest, names => do
    let id ← names.lookup name
    let entry ← entries[id]?
    let path ← walk? entries rest entry.children
    return ⟨id :: path.ids, entry.repeated || path.repeated⟩

/-- The path that a dotted name stands for. -/
def resolve (schema : Schema) (name : String) : Option Path :=
  walk? schema.entries ((segments name.toList).map String.ofList) schema.roots

end Schema

end Percolator
