/-!
Maps that keep the order in which their keys first came. A map is the list of its pairs; putting a
value under a known key keeps the key's place.
-/

namespace Gamebook

/-- A map in insertion order. -/
abbrev Keyed (α : Type) := List (String × α)

namespace Keyed

variable {α : Type}

def get? (m : Keyed α) (key : String) : Option α :=
  match m with
  | [] => none
  | (k, v) :: rest => if k = key then some v else get? rest key

def has (m : Keyed α) (key : String) : Bool := (get? m key).isSome

/-- Sets the value under a key; a new key comes last. -/
def put (m : Keyed α) (key : String) (value : α) : Keyed α :=
  match m with
  | [] => [(key, value)]
  | (k, v) :: rest => if k = key then (k, value) :: rest else (k, v) :: put rest key value

/-- Sets the value under a key that is not present. -/
def putNew (m : Keyed α) (key : String) (value : α) : Keyed α :=
  if has m key then m else m ++ [(key, value)]

def erase (m : Keyed α) (key : String) : Keyed α := m.filter (·.1 ≠ key)

def without (m : Keyed α) (keys : List String) : Keyed α := m.filter (·.1 ∉ keys)

/-- Puts every pair of the second map over the first. -/
def update (m newer : Keyed α) : Keyed α := newer.foldl (fun acc kv => acc.put kv.1 kv.2) m

/-- The map with exactly the given pairs put in order. -/
def ofPairs (pairs : List (String × α)) : Keyed α := update [] pairs

def keys (m : Keyed α) : List String := m.map (·.1)

def values (m : Keyed α) : List α := m.map (·.2)

end Keyed

end Gamebook
