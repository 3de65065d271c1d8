import Gamebook.Keyed
import Gamebook.Number.Basic
import Gamebook.Quest.Objective

/-!
Values of open-ended attributes: what a tag may set, what an entity may carry beside its own
fields, and what a structured text holds. Beside the plain data there is one kind of record, the
objective, because a list of objectives may be set as an attribute of anything.
-/

namespace Gamebook

/-- A value of an attribute. -/
inductive Value where
  | null
  | bool (b : Bool)
  | int (i : Int)
  | float (x : Double)
  | text (s : String)
  | list (items : List Value)
  | object (fields : List (String × Value))
  | objective (o : Objective)
  deriving Inhabited

/-- Fields in the order in which they were written. -/
abbrev Fields := Keyed Value

namespace Value

def ofNumber : Number → Value
  | .int i => .int i
  | .float x => .float x

/-- The amount that a value is; truth values are none. -/
def number? : Value → Option Number
  | .int i => some (.int i)
  | .float x => some (.float x)
  | _ => none

/-- A list of texts as a value. -/
def texts (xs : List String) : Value := .list (xs.map .text)

/-- An optional value, null when absent. -/
def opt {α : Type} (f : α → Value) : Option α → Value
  | some a => f a
  | none => .null

/-- Whether a value counts as given: null, false, zero and everything empty do not. -/
def isGiven : Value → Bool
  | .null => false
  | .bool b => b
  | .int i => i != 0
  | .float x => !x.isZero
  | .text s => !s.isEmpty
  | .list items => !items.isEmpty
  | .object fields => !fields.isEmpty
  | .objective _ => true

/-- An objective spelled out as an object. -/
def ofObjective (o : Objective) : Value :=
  .object [("description", .text o.description), ("completed", .bool o.completed)]

mutual

/-- A value with every objective spelled out as an object. -/
def spelledOut : Value → Value
  | .objective o => ofObjective o
  | .list items => .list (spelledOutItems items)
  | .object fields => .object (spelledOutFields fields)
  | v => v

/-- A list of values with every objective spelled out. -/
def spelledOutItems : List Value → List Value
  | [] => []
  | v :: rest => v.spelledOut :: spelledOutItems rest

/-- Fields with every objective spelled out. -/
def spelledOutFields : List (String × Value) → List (String × Value)
  | [] => []
  | (k, v) :: rest => (k, v.spelledOut) :: spelledOutFields rest

end

/-- A field that is null when it is missing. -/
def field (fields : Fields) (key : String) : Value := (fields.get? key).getD .null

end Value

end Gamebook
