import Gamebook.Record.Field
import Gamebook.Record.Reading

/-!
The setting of a game: the table of realms that experience leads through, and whatever else the
world is said to be.
-/

namespace Gamebook

/-- One tier of the realm table. -/
structure RealmTier where
  name : String
  requiredExp : Double := .ofInt 0
  deriving DecidableEq, Inhabited

namespace RealmTier

/-- Reads a tier from its fields. -/
def ofFields (f : Fields) : Checked RealmTier :=
  mk <$> f.need "name" Read.text
    <*> f.get ⟨"requiredExp", some "required_exp"⟩ (Read.doubleBetween 0 none) (.ofInt 0)

def read (v : Value) : Checked RealmTier := (Read.object v).andThen ofFields

/-- The fields of a tier with their defaults. -/
def slots (t : RealmTier) : List Slot :=
  [⟨"name", .text t.name, false⟩, ⟨"requiredExp", .float t.requiredExp, t.requiredExp.isZero⟩]

def toValue (t : RealmTier) : Value := .object (Slot.full t.slots)

/-- The tier without the fields that have their defaults. -/
def brief (t : RealmTier) : Value := .object (Slot.brief t.slots)

end RealmTier

/-- The fixed setting of a game. -/
structure WorldData where
  realmTiers : List RealmTier := []
  extras : Fields := []
  deriving Inhabited

namespace WorldData

def labels : List Label := [⟨"realmTiers", some "realm_tiers"⟩]

/-- Reads a setting from its fields. -/
def ofFields (f : Fields) : Checked WorldData :=
  mk <$> f.get ⟨"realmTiers", some "realm_tiers"⟩ (Read.list RealmTier.read) []
    <*> .ok (f.leftOver labels)

def read (v : Value) : Checked WorldData := (Read.object v).andThen ofFields

/-- The fields of a setting with their defaults, its tiers written by `inner`. -/
def slots (inner : RealmTier → Value) (w : WorldData) : List Slot :=
  [⟨"realmTiers", .list (w.realmTiers.map inner), w.realmTiers.isEmpty⟩]

def toValue (w : WorldData) : Value :=
  .object (Slot.full (w.slots RealmTier.toValue) ++ Value.spelledOutFields w.extras)

/-- The setting without the fields that have their defaults. -/
def brief (w : WorldData) : Value := .object (Slot.brief (w.slots RealmTier.brief) ++ w.extras)

end WorldData

/-- The logs of a game. Each of them only grows. -/
structure Chronicle where
  turn : List String := []
  chapter : List String := []
  memoir : List String := []
  deriving DecidableEq, Inhabited

namespace Chronicle

/-- Reads the logs from their fields. -/
def ofFields (f : Fields) : Checked Chronicle :=
  mk <$> f.get "turn" Read.texts [] <*> f.get "chapter" Read.texts []
    <*> f.get "memoir" Read.texts []

def read (v : Value) : Checked Chronicle := (Read.object v).andThen ofFields

def slots (c : Chronicle) : List Slot :=
  [.texts "turn" c.turn, .texts "chapter" c.chapter, .texts "memoir" c.memoir]

def toValue (c : Chronicle) : Value := .object (Slot.full c.slots)

/-- The logs without the empty ones. -/
def brief (c : Chronicle) : Value := .object (Slot.brief c.slots)

end Chronicle

end Gamebook
