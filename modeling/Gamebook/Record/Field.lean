import Gamebook.Record.Checked
import Gamebook.Value

/-!
Fields of records. A field has a short name, under which it is written, and often a long one, under
which it may be read as well; the short one counts when both are given. What no field takes is left
over and may be kept.
-/

namespace Gamebook

/-- The names of a field. -/
structure Label where
  short : String
  long : Option String := none
  deriving Inhabited

/-- A field with one name. -/
instance : Coe String Label := ⟨fun name => ⟨name, none⟩⟩

namespace Label

/-- The field's value and the name under which it was found. -/
def find? (label : Label) (fields : Fields) : Option (String × Value) :=
  match fields.get? label.short with
  | some v => some (label.short, v)
  | none =>
    match label.long with
    | none => none
    | some name => (fields.get? name).map fun v => (name, v)

end Label

namespace Fields

/-- Reads a field that must be given. -/
def need {α : Type} (fields : Fields) (label : Label) (read : Value → Checked α) : Checked α :=
  match label.find? fields with
  | some (name, v) => (read v).within name
  | none => .faults [[label.short]]

/-- Reads a field that has a default. -/
def get {α : Type} (fields : Fields) (label : Label) (read : Value → Checked α) (default : α) :
    Checked α :=
  match label.find? fields with
  | some (name, v) => (read v).within name
  | none => .ok default

/-- The fields that none of the labels takes. -/
def leftOver (fields : Fields) (labels : List Label) : Fields :=
  fields.without (labels.filterMap fun label => (label.find? fields).map (·.1))

end Fields

/-- A field of a record as it is written: its name, its value and whether the value is the default,
which a short form leaves out. -/
structure Slot where
  name : String
  value : Value
  isDefault : Bool

namespace Slot

/-- The full form of a record. -/
def full (slots : List Slot) : Fields := slots.map fun slot => (slot.name, slot.value)

/-- The short form of a record: only what differs from the defaults. -/
def brief (slots : List Slot) : Fields :=
  (slots.filter (!·.isDefault)).map fun slot => (slot.name, slot.value)

/-- A text field whose default is empty. -/
def text (name : String) (s : String) : Slot := ⟨name, .text s, s.isEmpty⟩

def optText (name : String) (s : Option String) : Slot := ⟨name, .opt .text s, s.isNone⟩

def optNumber (name : String) (x : Option Number) : Slot := ⟨name, .opt .ofNumber x, x.isNone⟩

def optInt (name : String) (i : Option Int) : Slot := ⟨name, .opt .int i, i.isNone⟩

def optDouble (name : String) (x : Option Double) : Slot := ⟨name, .opt .float x, x.isNone⟩

/-- A truth value with its default. -/
def bool (name : String) (default b : Bool) : Slot := ⟨name, .bool b, b == default⟩

/-- A list of texts whose default is empty. -/
def texts (name : String) (xs : List String) : Slot := ⟨name, .texts xs, xs.isEmpty⟩

def optTexts (name : String) (xs : Option (List String)) : Slot := ⟨name, .opt .texts xs, xs.isNone⟩

/-- A whole number with its default. -/
def int (name : String) (default i : Int) : Slot := ⟨name, .int i, i == default⟩

/-- A natural number with its default. -/
def nat (name : String) (default n : Nat) : Slot := ⟨name, .int n, n == default⟩

end Slot

end Gamebook
