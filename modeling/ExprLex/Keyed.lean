/-!
# Values by key

A collection of values by key that remembers the order in which its keys came in. A new value for a key that is there takes
the place of the old one.
-/

namespace ExprLex

/-- Values by key, in the order in which the keys came in. -/
abbrev Keyed (κ α : Type) : Type := List (κ × α)

namespace Keyed

variable {κ α : Type} [DecidableEq κ]

/-- The value of a key. -/
def get? (key : κ) : Keyed κ α → Option α
  | [] => none
  | (k, v) :: rest => if k = key then some v else get? key rest

/-- The collection with a value for a key. -/
def put (key : κ) (value : α) : Keyed κ α → Keyed κ α
  | [] => [(key, value)]
  | (k, v) :: rest => if k = key then (k, value) :: rest else (k, v) :: put key value rest

/-- The collection without a key. -/
def remove (key : κ) (m : Keyed κ α) : Keyed κ α := m.filter fun (k, _) => k ≠ key

/-- The keys, in the order in which they came in. -/
def keys (m : Keyed κ α) : List κ := m.map (·.1)

end Keyed

end ExprLex
