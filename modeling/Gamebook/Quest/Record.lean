import Gamebook.Quest.Basic
import Gamebook.Record.Field
import Gamebook.Record.Reading

/-!
Quests and objectives as records.
-/

namespace Gamebook

namespace Objective

/-- Reads an objective from its fields. -/
def ofFields (f : Fields) : Checked Objective :=
  mk <$> f.need "description" Read.text <*> f.get "completed" Read.bool false

def read (v : Value) : Checked Objective := (Read.object v).andThen ofFields

/-- The fields of an objective with their defaults. -/
def slots (o : Objective) : List Slot :=
  [⟨"description", .text o.description, false⟩, .bool "completed" false o.completed]

/-- The objective without the fields that have their defaults. -/
def brief (o : Objective) : Value := .object (Slot.brief o.slots)

end Objective

namespace Quest

def labels : List Label :=
  ["title", "description", "objectives", "giver", "reward",
    ⟨"isMainQuest", some "is_main_quest"⟩, "status"]

/-- Reads the status of a quest. -/
def readStatus (v : Value) : Checked QuestStatus :=
  (Read.text v).andThen fun s => .ofOption (QuestStatus.ofName? s)

/-- Reads a quest from its fields. -/
def ofFields (f : Fields) : Checked Quest :=
  mk <$> f.need "title" Read.nonEmpty
    <*> f.get "description" Read.text ""
    <*> f.get "objectives" (Read.list Objective.read) []
    <*> f.get "giver" (Read.optional Read.text) none
    <*> f.get "reward" (Read.optional Read.text) none
    <*> f.get ⟨"isMainQuest", some "is_main_quest"⟩ Read.bool false
    <*> f.get "status" readStatus .active
    <*> .ok (f.leftOver labels)

def read (v : Value) : Checked Quest := (Read.object v).andThen ofFields

/-- The fields of a quest with their defaults, its objectives written by `inner`. -/
def slots (inner : Objective → Value) (q : Quest) : List Slot :=
  [⟨"title", .text q.title, false⟩,
    .text "description" q.description,
    ⟨"objectives", .list (q.objectives.map inner), q.objectives.isEmpty⟩,
    .optText "giver" q.giver,
    .optText "reward" q.reward,
    .bool "isMainQuest" false q.isMainQuest,
    ⟨"status", .text q.status.name, q.status == .active⟩]

def toValue (q : Quest) : Value :=
  .object (Slot.full (q.slots Value.ofObjective) ++ Value.spelledOutFields q.extras)

/-- The quest without the fields that have their defaults. -/
def brief (q : Quest) : Value := .object (Slot.brief (q.slots Objective.brief) ++ q.extras)

end Quest

end Gamebook
