/-!
# Attribute paths

Attributes are numbered, and a path lists the numbers of the attributes that it goes through, from
the outside in. A path through a collection is repeated: it may yield many values for one instance.
-/

namespace Percolator

/-- The attributes that lead to a value. -/
structure Path where
  /-- The attribute numbers, outermost first. -/
  ids : List Nat
  /-- Whether one of the attributes is a collection. -/
  repeated : Bool
  deriving DecidableEq

namespace Path

/-- An attribute is shown by its number. -/
def renderId (id : Nat) : String := "attribute(" ++ toString id ++ ")"

/-- The attributes joined by points; `[*]` marks a repeated path. -/
def render (p : Path) : String :=
  ".".intercalate (p.ids.map renderId) ++ if p.repeated then "[*]" else ""

/-- Attribute lists are ordered by the first number in which they differ. -/
def orderIds : List Nat → List Nat → Ordering
  | [], [] => .eq
  | [], _ :: _ => .lt
  | _ :: _, [] => .gt
  | a :: as, b :: bs => (compare a b).then (orderIds as bs)

/-- How many different paths there are among some. -/
def distinct (paths : List Path) : Nat := paths.eraseDups.length

end Path

end Percolator
