import Gamebook.Record.Field
import Gamebook.Record.Reading
import Gamebook.Text.Basic
import Gamebook.Text.Case

/-!
Status effects: buffs, debuffs and injuries of the player or of another character. The type is free
text because the narrative invents types; the known ones are written small.
-/

namespace Gamebook

/-- An active status effect. -/
structure Status where
  name : String
  owner : String := "pc"
  description : String := ""
  type : Option String := none
  source : Option String := none
  duration : Option String := none
  effects : Option String := none
  cureConditions : Option String := none
  extras : Fields := []
  deriving Inhabited

namespace Status

/-- The types that are known by name. -/
def knownTypes : List String := ["buff", "debuff", "neutral", "injury"]

/-- A type without blanks around it, and small if it is a known one. -/
def normalType (s : String) : String :=
  let trimmed := Text.trim s
  let small := Text.lower trimmed
  if small ∈ knownTypes then small else trimmed

def readType : Value → Checked (Option String)
  | .text s => .ok (some (normalType s))
  | v => Read.optional Read.text v

def labels : List Label :=
  ["name", "owner", "description", "type", "source", "duration", "effects",
    ⟨"cureConditions", some "cure_conditions"⟩]

/-- Reads a status from its fields. -/
def ofFields (f : Fields) : Checked Status :=
  mk <$> f.need "name" Read.nonEmpty
    <*> f.get "owner" Read.text "pc"
    <*> f.get "description" Read.text ""
    <*> f.get "type" readType none
    <*> f.get "source" (Read.optional Read.text) none
    <*> f.get "duration" (Read.optional Read.text) none
    <*> f.get "effects" (Read.optional Read.text) none
    <*> f.get ⟨"cureConditions", some "cure_conditions"⟩ (Read.optional Read.text) none
    <*> .ok (f.leftOver labels)

def read (v : Value) : Checked Status := (Read.object v).andThen ofFields

/-- The fields of a status with their defaults. -/
def slots (s : Status) : List Slot :=
  [⟨"name", .text s.name, false⟩,
    ⟨"owner", .text s.owner, s.owner == "pc"⟩,
    .text "description" s.description,
    .optText "type" s.type,
    .optText "source" s.source,
    .optText "duration" s.duration,
    .optText "effects" s.effects,
    .optText "cureConditions" s.cureConditions]

def toValue (s : Status) : Value :=
  .object (Slot.full s.slots ++ Value.spelledOutFields s.extras)

/-- The status without the fields that have their defaults. -/
def brief (s : Status) : Value := .object (Slot.brief s.slots ++ s.extras)

/-!
### The limit

An owner bears at most two statuses of one type. A newcomer replaces a status of its own name and
pushes out the oldest of its type.
-/

/-- How many statuses of one type an owner may bear. -/
def maxPerType : Nat := 2

/-- Whether a status has a type that counts for the limit. -/
def isTyped (s : Status) : Bool := s.type.any (!·.isEmpty)

/-- The last elements of a list. -/
def lastOf {α : Type} (n : Nat) (xs : List α) : List α := xs.drop (xs.length - n)

/-- Adds a status. Without a type it is simply added; otherwise the statuses of other owners come
first, then the owner's of other types, then the survivors of its type and the newcomer. -/
def addLimited (statuses : List Status) (new : Status) : List Status :=
  if !new.isTyped then statuses ++ [new]
  else
    let remaining := statuses.filter fun s => !(s.owner == new.owner && s.name == new.name)
    let others := remaining.filter (·.owner != new.owner)
    let owned := remaining.filter (·.owner == new.owner)
    let sameType := owned.filter (·.type == new.type)
    let otherTypes := owned.filter (·.type != new.type)
    let survivors :=
      if maxPerType ≤ sameType.length then lastOf (maxPerType - 1) sameType else sameType
    others ++ otherTypes ++ survivors ++ [new]

/-- The statuses without those of a name and owner; an absent name or owner matches none. -/
def cure (statuses : List Status) (name owner : Option String) : List Status :=
  statuses.filter fun s => !(some s.name == name && some s.owner == owner)

end Status

end Gamebook
