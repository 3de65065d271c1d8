import Gamebook.Memory.Importance

/-!
Enhancement of memories: what a memory lacks is filled in from its text and from the state, and its
importance is computed anew. What is set stays as it is.
-/

namespace Gamebook

open Text

/-- How many tags a memory is given at most. -/
def maxTags : Nat := 10

/-- Tags for what happens, with the words that tell it. -/
def actionTags : List (String × List String) :=
  [("combat", ["tấn công", "đánh", "chiến đấu"]),
    ("dialogue", ["nói", "thuyết phục", "trò chuyện"]),
    ("trade", ["mua", "bán", "giao dịch"]),
    ("progression", ["học", "nâng cấp", "tiến bộ"]),
    ("exploration", ["tìm", "khám phá", "phát hiện"]),
    ("romance", ["yêu", "cưới", "hôn"]),
    ("death", ["chết", "tử vong", "hi sinh"]),
    ("mystery", ["bí mật", "bí ẩn", "ẩn giấu"])]

/-- Tags for mood and time of day, with the words that tell them. -/
def moodTags : List (String × List String) :=
  [("positive", ["vui", "hạnh phúc"]),
    ("negative", ["buồn", "khó chịu"]),
    ("important", ["quan trọng", "đặc biệt"]),
    ("night", ["đêm", "tối"]),
    ("day", ["ngày", "sáng"])]

/-- The tags of a table whose words occur in a text. -/
def tagsIn (table : List (String × List String)) (lowered : String) : List String :=
  (table.filter fun entry => occursAny entry.2 lowered).map (·.1)

/-- Where a memory comes from, by its wording. -/
def detectSource (text : String) : MemorySource :=
  if opensWith "⭐".toList text.toList || occursAny ["Biên niên sử", "Chronicle"] text then
    .chronicle
  else if occursAny ["tự động", "hệ thống", "AI generated"] text then .autoGenerated
  else .manual

/-- Parts of a name of several words that still tell whom it means. -/
def nameVariations (name : String) : List String :=
  let parts := (splitOn ' ' name).filter fun w => 1 < w.length
  let long := parts.filter fun w => 2 < w.length
  match parts.head?, parts.getLast? with
  | some first, some last =>
    if 1 < parts.length then long ++ [first, last, first ++ " " ++ last] else long
  | _, _ => long

/-- Whether a text in small letters mentions an entity: by its name, by a part of it, or by one of
its skills. -/
def mentions (lowered : String) (name : String) (e : Entity) : Bool :=
  occurs (lower name) lowered ||
    (nameVariations name).any (fun v => occurs (lower v) lowered) ||
    e.skills.any fun skill => occurs (lower skill) lowered

/-- The names of the known entities that a text mentions, in their order. -/
def relatedEntities (text : String) (known : Keyed Entity) : List String :=
  let lowered := lower text
  (known.filter fun (name, e) => mentions lowered name e).map (·.1)

/-- The tag of an entity: its name in small letters, with hyphens for blanks. -/
def entityTag (name : String) : String :=
  "entity:" ++ String.ofList ((collapseChars (lowerChars name.toList)).map fun c =>
    if isBlank c then '-' else c)

/-- The tags of a text and its related entities. -/
def generateTags (text : String) (related : List String) : List String :=
  let lowered := lower text
  (distinct (tagsIn actionTags lowered ++ related.map entityTag ++ tagsIn moodTags lowered)).take
    maxTags

/-- An enhanced memory with what was changed and advice on the rest. -/
structure Enhancement where
  enhanced : Memory
  changes : List String
  suggestions : List String

namespace Memory

/-- Sets a moment that is unknown or zero. -/
def stamp (turn : Nat) (moment : Option Int) : Option Int :=
  if isUnset moment then some turn else moment

/-- The memory with its source and its category, and the moments of its making and last use. -/
def classified (m : Memory) (turn : Nat) : Memory :=
  { m with
    createdAt := stamp turn m.createdAt
    lastAccessed := stamp turn m.lastAccessed
    source := some (m.source.getD (detectSource m.text))
    category := some (m.category.getD (suggestCategory m.text)) }

/-- The memory with its related entities and its feeling. -/
def connected (m : Memory) (s : GameState) : Memory :=
  { m with
    relatedEntities :=
      if m.related.isEmpty then some (Gamebook.relatedEntities m.text s.knownEntities)
      else m.relatedEntities
    emotionalWeight := some (m.emotionalWeight.getD (Gamebook.emotionalWeight m.text)) }

def tagged (m : Memory) : Memory :=
  { m with tags := if m.tagList.isEmpty then some (generateTags m.text m.related) else m.tags }

/-- The memory with everything filled in but its importance. -/
def filled (m : Memory) (s : GameState) : Memory :=
  ((m.classified s.turnCount).connected s).tagged

/-- What filling in changed, item by item. -/
def changeLog (m filled : Memory) : List String :=
  (if isUnset m.createdAt then ["Added creation timestamp"] else []) ++
  (if isUnset m.lastAccessed then ["Added last accessed timestamp"] else []) ++
  (match m.source, filled.source with
    | none, some source => ["Detected source: " ++ source.name]
    | _, _ => []) ++
  (match m.category, filled.category with
    | none, some category => ["Auto-categorized as: " ++ category.name]
    | _, _ => []) ++
  (if m.related.isEmpty && !filled.related.isEmpty then
    ["Found related entities: " ++ join ", " filled.related] else []) ++
  (match m.emotionalWeight, filled.emotionalWeight with
    | none, some w => if w.isZero then [] else ["Emotional weight: " ++ w.text]
    | _, _ => []) ++
  (if m.tagList.isEmpty && !filled.tagList.isEmpty then
    ["Generated tags: " ++ join ", " filled.tagList] else [])

/-- Fills in what a memory lacks and computes its importance. -/
def enhance (m : Memory) (s : GameState) : Outcome Enhancement := do
  let filled := m.filled s
  let analysis ← filled.analyze s
  return {
    enhanced := { filled with importance := some analysis.score }
    changes := m.changeLog filled ++ ["Importance score: " ++ analysis.score.text ++ "/100"]
    suggestions := analysis.suggestions }

def enhanced (m : Memory) (s : GameState) : Outcome Memory := (m.enhance s).map (·.enhanced)

/-- The memory, marked as used in a turn. -/
def accessedAt (m : Memory) (turn : Nat) : Memory := { m with lastAccessed := some turn }

/-- How many texts of the first list, each once, are in the second. -/
def sharedCount (xs ys : List String) : Nat := ((distinct xs).filter (· ∈ ys)).length

/-- Whether two memories share an entity or two tags. -/
def isRelatedTo (target m : Memory) : Bool :=
  0 < sharedCount target.related m.related || 2 ≤ sharedCount target.tagList m.tagList

end Memory

/-- Memories by descending importance; equal ones keep their order. -/
def byImportance (memories : List Memory) : List Memory :=
  memories.mergeSort fun a b => !a.weight.lt b.weight

/-- The memories related to a target, most important first; none if the target has no entities. -/
def relatedMemories (target : Memory) (memories : List Memory) : List Memory :=
  if target.related.isEmpty then []
  else byImportance (memories.filter target.isRelatedTo)

end Gamebook
