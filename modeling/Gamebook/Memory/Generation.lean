import Gamebook.Memory.Enhancement
import Gamebook.Memory.Similarity
import Gamebook.Text.Sentence

/-!
Generation of memories from the last turns: from notable events that the narrator tells, from the
party's relationships, from completed quests and from places that were just discovered. For a given
state and configuration the result is always the same.
-/

namespace Gamebook

open Text

/-- What memories are generated from, and how many. -/
structure GenerationConfig where
  eventMemories : Bool := true
  relationshipMemories : Bool := true
  discoveryMemories : Bool := true
  combatMemories : Bool := true
  achievementMemories : Bool := true
  minImportance : Number := .int 50
  maxPerTurn : Nat := 1
  lookbackTurns : Nat := 2
  deriving DecidableEq, Inhabited

namespace GenerationConfig

/-- Reads a configuration from its fields; `lookback` is the default number of turns. -/
def ofFields (f : Fields) : Checked GenerationConfig :=
  mk <$> f.get "enable_event_memories" Read.bool true
    <*> f.get "enable_relationship_memories" Read.bool true
    <*> f.get "enable_discovery_memories" Read.bool true
    <*> f.get "enable_combat_memories" Read.bool true
    <*> f.get "enable_achievement_memories" Read.bool true
    <*> f.get "min_importance_threshold" (Read.amountBetween 0 (some 100)) (.int 50)
    <*> f.get "max_memories_per_turn" (Read.natBetween 0 10) 1
    <*> f.get "lookback_turns" (Read.natBetween 1 20) 2

def read (v : Value) : Checked GenerationConfig := (Read.object v).andThen ofFields

def toValue (c : GenerationConfig) : Value :=
  .object
    [("enable_event_memories", .bool c.eventMemories),
      ("enable_relationship_memories", .bool c.relationshipMemories),
      ("enable_discovery_memories", .bool c.discoveryMemories),
      ("enable_combat_memories", .bool c.combatMemories),
      ("enable_achievement_memories", .bool c.achievementMemories),
      ("min_importance_threshold", .ofNumber c.minImportance),
      ("max_memories_per_turn", .int c.maxPerTurn),
      ("lookback_turns", .int c.lookbackTurns)]

end GenerationConfig

/-- A kind of event worth remembering: the phrases that tell it, the memory it makes and the switch
that allows it. -/
structure EventKind where
  phrases : List String
  category : MemoryCategory
  importance : Int
  enabled : GenerationConfig → Bool

/-- The kinds of events, in the order in which a story is searched for them. -/
def eventKinds : List EventKind :=
  [⟨["khám phá", "tìm thấy", "phát hiện"], .discovery, 60, (·.discoveryMemories)⟩,
    ⟨["chiến đấu", "tấn công", "đánh bại", "chiến thắng", "thất bại"], .combat, 65,
      (·.combatMemories)⟩,
    ⟨["gặp gỡ", "nói chuyện", "thuyết phục", "giao dịch"], .social, 55,
      (·.relationshipMemories)⟩,
    ⟨["nhận được", "thu thập", "học được"], .general, 50, (·.eventMemories)⟩,
    ⟨["hoàn thành", "đạt được", "thành công"], .story, 70, (·.achievementMemories)⟩]

/-- Tags for what a memory is about, with the words that tell it. -/
def contextTags : List (String × List String) :=
  [("combat", ["chiến đấu", "tấn công", "đánh"]),
    ("exploration", ["khám phá", "tìm thấy", "phát hiện"]),
    ("learning", ["học", "kỹ năng", "phép thuật"]),
    ("commerce", ["giao dịch", "mua", "bán"]),
    ("dialogue", ["nói chuyện", "thuyết phục"])]

/-- The tags of an event: the entities in its text and what it is about. -/
def eventTags (text : String) (s : GameState) : List String :=
  let lowered := lower text
  let named := s.knownEntities.values.filter fun e => occurs (lower e.name) lowered
  distinct (named.flatMap (fun e => [lower e.name, e.kind.name]) ++ tagsIn contextTags lowered)

/-- The sentence of a story that tells an event, if it is not too long, or else the event. -/
def sentenceOf (event story : String) : String :=
  let event := trim event
  match (sentences story).find? fun s => occurs (lower event) (lower s) with
  | some sentence => if sentence.length < 200 then trim sentence else event
  | none => event

namespace Memory

/-- A memory generated in the present turn, before it is enhanced. -/
def draft (s : GameState) (text : String) (category : MemoryCategory) (importance : Int)
    (tags : List String) : Memory :=
  { text
    source := some .autoGenerated
    category := some category
    createdAt := some s.turnCount
    lastAccessed := some s.turnCount
    importance := some (.ofInt importance)
    tags := some tags }

/-- The memory of a told event; none if its text is too short or too long. -/
def ofTelling? (kind : EventKind) (story : String) (s : GameState) (telling : String) :
    Option Memory :=
  let text := sentenceOf telling story
  if 10 < text.length && text.length < 300 then
    some (draft s text kind.category kind.importance (eventTags text s))
  else none

/-- The memory of a party member's relationship. -/
def ofRelationship? (s : GameState) (member : Entity) : Option Memory :=
  match member.relationship with
  | none => none
  | some relationship =>
    if relationship.isEmpty then none
    else some
      { draft s ("Mối quan hệ với " ++ member.name ++ ": " ++ relationship) .relationship 60
          ["relationship", "party", lower member.name] with
        relatedEntities := some [member.name] }

/-- The memory of a completed quest. -/
def ofQuest? (s : GameState) (q : Quest) : Option Memory :=
  if q.status ≠ .completed then none
  else some
    { draft s ("Hoàn thành nhiệm vụ: " ++ q.title) .story (if q.isMainQuest then 80 else 60)
        ["achievement", "quest", if q.isMainQuest then "main_quest" else "side_quest"] with
      relatedEntities := some ((q.giver.filter (!·.isEmpty)).toList) }

/-- The memory of a place that is described and was discovered within the last turns. -/
def ofPlace? (s : GameState) (lookback : Nat) (place : Entity) : Option Memory :=
  let recent := place.discoveredAt.all fun t => (s.turnCount : Int) - t ≤ lookback
  if !recent || place.description.isEmpty then none
  else some
    { draft s ("Khám phá địa điểm mới: " ++ place.name) .discovery 55
        ["discovery", EntityKind.location.name, lower place.name] with
      relatedEntities := some [place.name] }

end Memory

/-- The counts of a generation. -/
structure GenerationStats where
  eventsAnalyzed : Nat := 0
  memoriesGenerated : Nat := 0
  highImportance : Nat := 0
  categories : List String := []
  deriving DecidableEq, Inhabited

/-- Generated memories with remarks and counts. -/
structure Generation where
  memories : List Memory := []
  insights : List String := []
  stats : GenerationStats := {}
  deriving Inhabited

namespace GenerationConfig

/-- The candidates that a story gives. -/
def analyzeStory (c : GenerationConfig) (story : String) (s : GameState) : Outcome (List Memory) :=
  ((eventKinds.filter (·.enabled c)).flatMap fun kind =>
    (tellings kind.phrases story).filterMap (Memory.ofTelling? kind story s)).mapM
      (·.enhanced s)

/-- The entries of the last turns, two for a turn. -/
def recentEntries (c : GenerationConfig) (history : List Entry) : List Entry :=
  history.drop (history.length - c.lookbackTurns * 2)

/-- Whether a candidate is important enough and new. -/
def qualifies (c : GenerationConfig) (known : List Memory) (m : Memory) : Bool :=
  c.minImportance.le (.float m.weight) && !m.isDuplicate known

/-- Adds the memories of one entry, unless there are enough; counts the stories. -/
def collectEntry (c : GenerationConfig) (s : GameState) (acc : List Memory × Nat) (e : Entry) :
    Outcome (List Memory × Nat) :=
  if c.maxPerTurn ≤ acc.1.length then .ok acc
  else do
    match ← e.story? with
    | none => return acc
    | some story =>
      if story.isEmpty then return acc
      else
        let candidates ← c.analyzeStory story s
        return (acc.1 ++ candidates.filter (c.qualifies (s.memories ++ acc.1)), acc.2 + 1)

/-- The memories that do not come from stories, in order. -/
def standing (c : GenerationConfig) (s : GameState) : Outcome (List Memory) :=
  ((if c.relationshipMemories then s.party.filterMap (Memory.ofRelationship? s) else []) ++
    (if c.achievementMemories then
      s.quests.filterMap (Memory.ofQuest? s) ++
        (s.ofKind .location).filterMap (Memory.ofPlace? s c.lookbackTurns)
    else [])).mapM (·.enhanced s)

/-- Adds a memory unless it repeats one that is known. -/
def addNew (s : GameState) (memories : List Memory) (m : Memory) : List Memory :=
  if m.isDuplicate (s.memories ++ memories) then memories else memories ++ [m]

def remarks (final : List Memory) (high : Nat) (categories : List String) : List String :=
  if final.isEmpty then []
  else
    ["Generated " ++ toString final.length ++ " smart memories from recent events"] ++
    (if high = 0 then [] else [toString high ++ " high-importance memories created"]) ++
    (if categories.isEmpty then [] else ["Covered categories: " ++ join ", " categories])

/-- Generates memories for the present turn, the most important ones first. -/
def generate (c : GenerationConfig) (s : GameState) : Outcome Generation := do
  let (told, analyzed) ← (c.recentEntries s.gameHistory).foldlM (c.collectEntry s) ([], 0)
  let standing ← c.standing s
  let memories := standing.foldl (addNew s) told
  let final := (byImportance (deduplicate memories)).take c.maxPerTurn
  let categories := distinct (final.filterMap fun m => m.category.map (·.name))
  let high := (final.filter fun m => (Double.ofInt 70).le m.weight).length
  return {
    memories := final
    insights := remarks final high categories
    stats := {
      eventsAnalyzed := analyzed
      memoriesGenerated := final.length
      highImportance := high
      categories } }

end GenerationConfig

/-- How memories are spread over categories and importance. -/
structure GenerationSummary where
  total : Nat
  byCategory : Keyed Nat
  high : Nat
  medium : Nat
  low : Nat
  average : Double

/-- Counts one more under a key. -/
def countKey (counts : Keyed Nat) (key : String) : Keyed Nat :=
  counts.put key ((counts.get? key).getD 0 + 1)

/-- The sum of importances divided by their number, zero for none. -/
def averageImportance (memories : List Memory) : Double :=
  if memories.isEmpty then 0
  else (memories.foldl (fun (sum : Double) m => sum + m.weight) 0).div (.ofInt memories.length)

def summarizeMemories (memories : List Memory) : GenerationSummary :=
  let isHigh (m : Memory) := (Double.ofInt 70).le m.weight
  let isMedium (m : Memory) := !isHigh m && (Double.ofInt 40).le m.weight
  { total := memories.length
    byCategory := (memories.filterMap fun m => m.category.map (·.name)).foldl countKey []
    high := memories.countP isHigh
    medium := memories.countP isMedium
    low := memories.countP fun m => !isHigh m && !isMedium m
    average := averageImportance memories }

end Gamebook
