import Gamebook.Entity.Basic
import Gamebook.Record.Field
import Gamebook.Record.Reading
import Gamebook.Text.Basic

/-!
Entities as records: reading, writing, and laying attributes over an entity. An entity is updated
by writing it in full, replacing fields and reading the result, so an update is checked like any
other record.
-/

namespace Gamebook

namespace Read

def entityKind (v : Value) : Checked EntityKind :=
  (text v).andThen fun s => .ofOption (EntityKind.ofName? s)

/-- Names between commas, without blanks around them and without empty ones. -/
def commaNames (s : String) : List String :=
  ((Text.splitOn ',' s).map Text.trim).filter (!·.isEmpty)

/-- A list of skill names, which may come as one text with commas. -/
def skillList : Value → Checked (List String)
  | .null => .ok []
  | .text s => .ok (commaNames s)
  | v => texts v

end Read

namespace Entity

def labels : List Label :=
  ["name", "type", "description", ⟨"referenceId", some "reference_id"⟩, "owner", "quantities",
    "uses", "durability", "equippable", "equipped", "usable", "consumable",
    ⟨"learnedSkills", some "learned_skills"⟩, "skills", ⟨"currentExp", some "current_exp"⟩,
    "realm", "relationship", "motivation", "learnable", "mastery",
    ⟨"skillExp", some "skill_exp"⟩, ⟨"maxSkillExp", some "max_skill_exp"⟩,
    ⟨"skillCapped", some "skill_capped"⟩,
    ⟨"breakthroughEligible", some "breakthrough_eligible"⟩,
    ⟨"discoveredAt", some "discovered_at"⟩, ⟨"lastMentioned", some "last_mentioned"⟩, "archived"]

/-- Reads an entity from its fields. -/
def ofFields (f : Fields) : Checked Entity :=
  mk <$> f.need "name" Read.nonEmpty
    <*> f.need "type" Read.entityKind
    <*> f.get "description" Read.text ""
    <*> f.get ⟨"referenceId", some "reference_id"⟩ (Read.optional Read.text) none
    <*> f.get "owner" (Read.optional Read.text) none
    <*> f.get "quantities" (Read.optional Read.number) none
    <*> f.get "uses" (Read.optional Read.number) none
    <*> f.get "durability" (Read.optional Read.number) none
    <*> f.get "equippable" Read.bool false
    <*> f.get "equipped" Read.bool false
    <*> f.get "usable" Read.bool false
    <*> f.get "consumable" Read.bool false
    <*> f.get ⟨"learnedSkills", some "learned_skills"⟩ Read.skillList []
    <*> f.get "skills" Read.skillList []
    <*> f.get ⟨"currentExp", some "current_exp"⟩ (Read.optional Read.number) none
    <*> f.get "realm" (Read.optional Read.text) none
    <*> f.get "relationship" (Read.optional Read.text) none
    <*> f.get "motivation" (Read.optional Read.text) none
    <*> f.get "learnable" Read.bool false
    <*> f.get "mastery" (Read.optional Read.text) none
    <*> f.get ⟨"skillExp", some "skill_exp"⟩ (Read.optional Read.number) none
    <*> f.get ⟨"maxSkillExp", some "max_skill_exp"⟩ (Read.optional Read.number) none
    <*> f.get ⟨"skillCapped", some "skill_capped"⟩ Read.bool false
    <*> f.get ⟨"breakthroughEligible", some "breakthrough_eligible"⟩ Read.bool false
    <*> f.get ⟨"discoveredAt", some "discovered_at"⟩ (Read.optional Read.int) none
    <*> f.get ⟨"lastMentioned", some "last_mentioned"⟩ (Read.optional Read.int) none
    <*> f.get "archived" Read.bool false
    <*> .ok (f.leftOver labels)

def read (v : Value) : Checked Entity := (Read.object v).andThen ofFields

/-- The fields of an entity with their defaults. -/
def slots (e : Entity) : List Slot :=
  [⟨"name", .text e.name, false⟩,
    ⟨"type", .text e.kind.name, false⟩,
    .text "description" e.description,
    .optText "referenceId" e.referenceId,
    .optText "owner" e.owner,
    .optNumber "quantities" e.quantities,
    .optNumber "uses" e.uses,
    .optNumber "durability" e.durability,
    .bool "equippable" false e.equippable,
    .bool "equipped" false e.equipped,
    .bool "usable" false e.usable,
    .bool "consumable" false e.consumable,
    .texts "learnedSkills" e.learnedSkills,
    .texts "skills" e.skills,
    .optNumber "currentExp" e.currentExp,
    .optText "realm" e.realm,
    .optText "relationship" e.relationship,
    .optText "motivation" e.motivation,
    .bool "learnable" false e.learnable,
    .optText "mastery" e.mastery,
    .optNumber "skillExp" e.skillExp,
    .optNumber "maxSkillExp" e.maxSkillExp,
    .bool "skillCapped" false e.skillCapped,
    .bool "breakthroughEligible" false e.breakthroughEligible,
    .optInt "discoveredAt" e.discoveredAt,
    .optInt "lastMentioned" e.lastMentioned,
    .bool "archived" false e.archived]

/-- The entity in full: every field, then the extras with objectives spelled out. -/
def toFields (e : Entity) : Fields := Slot.full e.slots ++ Value.spelledOutFields e.extras

/-- The entity as a value without the fields that have their defaults. -/
def brief (e : Entity) : Value := .object (Slot.brief e.slots ++ e.extras)

/-- The entity with attributes laid over its fields. -/
def merged (e : Entity) (attributes : Fields) : Checked Entity :=
  ofFields (Keyed.update e.toFields attributes)

end Entity

end Gamebook
