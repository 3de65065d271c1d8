import Gamebook.Record.Field
import Gamebook.Record.Reading

/-!
Memories: short pieces of narrative that are told to the narrator again. What a memory is about is
unknown until it has been enhanced; an empty list then says that nothing was found.
-/

namespace Gamebook

/-- The themes of memories. -/
inductive MemoryCategory where
  | combat
  | social
  | discovery
  | story
  | relationship
  | general
  | archived
  deriving DecidableEq, Inhabited

namespace MemoryCategory

def name : MemoryCategory → String
  | .combat => "combat"
  | .social => "social"
  | .discovery => "discovery"
  | .story => "story"
  | .relationship => "relationship"
  | .general => "general"
  | .archived => "archived"

/-- The name of a category with a capital. -/
def title : MemoryCategory → String
  | .combat => "Combat"
  | .social => "Social"
  | .discovery => "Discovery"
  | .story => "Story"
  | .relationship => "Relationship"
  | .general => "General"
  | .archived => "Archived"

def ofName? (s : String) : Option MemoryCategory :=
  [combat, social, discovery, story, relationship, general, archived].find? (·.name = s)

end MemoryCategory

/-- Where memories come from. -/
inductive MemorySource where
  | chronicle
  | manual
  | autoGenerated
  deriving DecidableEq, Inhabited

namespace MemorySource

def name : MemorySource → String
  | .chronicle => "chronicle"
  | .manual => "manual"
  | .autoGenerated => "auto_generated"

def ofName? (s : String) : Option MemorySource :=
  [chronicle, manual, autoGenerated].find? (·.name = s)

end MemorySource

/-- A piece of narrative worth keeping. -/
structure Memory where
  text : String
  pinned : Bool := false
  importance : Option Double := none
  category : Option MemoryCategory := none
  source : Option MemorySource := none
  createdAt : Option Int := none
  lastAccessed : Option Int := none
  relatedEntities : Option (List String) := none
  tags : Option (List String) := none
  emotionalWeight : Option Double := none
  extras : Fields := []
  deriving Inhabited

namespace Memory

/-- The importance, zero when it is unknown. -/
def weight (m : Memory) : Double := m.importance.getD 0

/-- Whether the importance lies below a threshold. -/
def importanceBelow (m : Memory) (threshold : Number) : Bool :=
  (Number.float m.weight).lt threshold

/-- The related entities, none when they are unknown. -/
def related (m : Memory) : List String := m.relatedEntities.getD []

/-- The tags, none when they are unknown. -/
def tagList (m : Memory) : List String := m.tags.getD []

def labels : List Label :=
  ["text", "pinned", "importance", "category", "source", ⟨"createdAt", some "created_at"⟩,
    ⟨"lastAccessed", some "last_accessed"⟩, ⟨"relatedEntities", some "related_entities"⟩, "tags",
    ⟨"emotionalWeight", some "emotional_weight"⟩]

def readCategory (v : Value) : Checked MemoryCategory :=
  (Read.text v).andThen fun s => .ofOption (MemoryCategory.ofName? s)

def readSource (v : Value) : Checked MemorySource :=
  (Read.text v).andThen fun s => .ofOption (MemorySource.ofName? s)

/-- Reads a memory from its fields. -/
def ofFields (f : Fields) : Checked Memory :=
  mk <$> f.need "text" Read.text
    <*> f.get "pinned" Read.bool false
    <*> f.get "importance" (Read.optional (Read.doubleBetween 0 (some 100))) none
    <*> f.get "category" (Read.optional readCategory) none
    <*> f.get "source" (Read.optional readSource) none
    <*> f.get ⟨"createdAt", some "created_at"⟩ (Read.optional Read.int) none
    <*> f.get ⟨"lastAccessed", some "last_accessed"⟩ (Read.optional Read.int) none
    <*> f.get ⟨"relatedEntities", some "related_entities"⟩ (Read.optional Read.texts) none
    <*> f.get "tags" (Read.optional Read.texts) none
    <*> f.get ⟨"emotionalWeight", some "emotional_weight"⟩
      (Read.optional (Read.doubleBetween (-10) (some 10))) none
    <*> .ok (f.leftOver labels)

def read (v : Value) : Checked Memory := (Read.object v).andThen ofFields

/-- The fields of a memory with their defaults. -/
def slots (m : Memory) : List Slot :=
  [⟨"text", .text m.text, false⟩,
    .bool "pinned" false m.pinned,
    .optDouble "importance" m.importance,
    .optText "category" (m.category.map (·.name)),
    .optText "source" (m.source.map (·.name)),
    .optInt "createdAt" m.createdAt,
    .optInt "lastAccessed" m.lastAccessed,
    .optTexts "relatedEntities" m.relatedEntities,
    .optTexts "tags" m.tags,
    .optDouble "emotionalWeight" m.emotionalWeight]

def toValue (m : Memory) : Value :=
  .object (Slot.full m.slots ++ Value.spelledOutFields m.extras)

/-- The memory without the fields that have their defaults. -/
def brief (m : Memory) : Value := .object (Slot.brief m.slots ++ m.extras)

end Memory

end Gamebook
