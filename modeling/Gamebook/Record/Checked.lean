/-!
Checked values. Reading a record either gives a value or the places of all its faults, not only the
first. A place names fields and list positions from the outside in.
-/

namespace Gamebook

/-- A place inside a record: field names and list positions. -/
abbrev Place := List String

/-- A value that passed its checks, or the places where it failed. -/
inductive Checked (α : Type) where
  | ok (value : α)
  | faults (places : List Place)

namespace Checked

variable {α β : Type}

/-- A fault of the value as a whole. -/
def fault : Checked α := .faults [[]]

/-- Applies a function to a checked value. -/
def map (f : α → β) : Checked α → Checked β
  | .ok a => .ok (f a)
  | .faults ps => .faults ps

/-- Applies a checked function; faults on both sides are kept. -/
def apply (f : Checked (α → β)) (x : Checked α) : Checked β :=
  match f, x with
  | .ok g, .ok a => .ok (g a)
  | .ok _, .faults ps => .faults ps
  | .faults ps, .ok _ => .faults ps
  | .faults ps, .faults qs => .faults (ps ++ qs)

instance : Functor Checked := ⟨fun f x => x.map f, fun a x => x.map fun _ => a⟩

instance : Seq Checked := ⟨fun f x => apply f (x ())⟩

/-- A second check that needs the value of the first. -/
def andThen (x : Checked α) (f : α → Checked β) : Checked β :=
  match x with
  | .ok a => f a
  | .faults ps => .faults ps

/-- Places the faults inside a field or at a list position. -/
def within (step : String) : Checked α → Checked α
  | .ok a => .ok a
  | .faults ps => .faults (ps.map (step :: ·))

/-- The value, if a condition holds of it. -/
def require (cond : Bool) (a : α) : Checked α := if cond then .ok a else fault

/-- An optional value; its absence is a fault. -/
def ofOption : Option α → Checked α
  | some a => .ok a
  | none => fault

/-- Checks the elements of a list, the first of which has the given position. -/
def allFrom (check : β → Checked α) (position : Nat) : List β → Checked (List α)
  | [] => .ok []
  | b :: rest =>
    apply (map List.cons ((check b).within (toString position))) (allFrom check (position + 1) rest)

/-- The value, if there was no fault. -/
def toOption : Checked α → Option α
  | .ok a => some a
  | .faults _ => none

end Checked

/-- A place as one text; the whole record has a name of its own. -/
def Place.text (p : Place) : String := if p.isEmpty then "(model)" else ".".intercalate p

/-- The distinct places in ascending order, as one text. -/
def placesText (places : List Place) : String :=
  ", ".intercalate ((places.map Place.text).eraseDups.mergeSort (· ≤ ·))

end Gamebook
