import Gamebook.Entity.Record
import Gamebook.Quest.Record
import Gamebook.State.Basic

/-!
Game states as records. The known entities are a list of pairs of a key and an entity, because their
order counts. The calendar is always written in full, everything else only if it is not empty.
-/

namespace Gamebook

namespace Read

/-- Pairs of a key and a value, as a map in order. -/
def pairs : Value → Checked Fields
  | .list items =>
    (Checked.allFrom (fun v =>
      match v with
      | .list [.text key, inner] => .ok (key, inner)
      | _ => .fault) 0 items).map Keyed.ofPairs
  | v => object v

/-- The entities of a map, each checked under its key. -/
def entitiesOf : List (String × Value) → Checked (Keyed Entity)
  | [] => .ok []
  | (key, v) :: rest =>
    (fun e es => (key, e) :: es) <$> (Entity.read v).within key <*> entitiesOf rest

def knownEntities (v : Value) : Checked (Keyed Entity) := (pairs v).andThen entitiesOf

end Read

namespace GameState

/-- Reads a state from its fields. -/
def ofFields (f : Fields) : Checked GameState :=
  mk <$> f.get ⟨"knownEntities", some "known_entities"⟩ Read.knownEntities []
    <*> f.get "party" (Read.list Entity.read) []
    <*> f.get "statuses" (Read.list Status.read) []
    <*> f.get "quests" (Read.list Quest.read) []
    <*> f.get "memories" (Read.list Memory.read) []
    <*> f.get ⟨"archivedMemories", some "archived_memories"⟩ (Read.list Memory.read) []
    <*> f.get ⟨"gameHistory", some "game_history"⟩ (Read.list Entry.read) []
    <*> f.get ⟨"compressedHistory", some "compressed_history"⟩ (Read.list Segment.read) []
    <*> f.get "chronicle" Chronicle.read {}
    <*> f.get ⟨"gameTime", some "game_time"⟩ GameTime.read {}
    <*> f.get ⟨"turnCount", some "turn_count"⟩ (Read.natFrom 0) 0
    <*> f.get ⟨"totalTokens", some "total_tokens"⟩ (Read.natFrom 0) 0
    <*> f.get ⟨"locationDiscoveryOrder", some "location_discovery_order"⟩ Read.texts []
    <*> f.get ⟨"worldData", some "world_data"⟩ WorldData.read {}

def read (v : Value) : Checked GameState := (Read.object v).andThen ofFields

/-- A list as a field that is left out when it is empty. -/
def listSlot {α : Type} (name : String) (write : α → Value) (xs : List α) : Slot :=
  ⟨name, .list (xs.map write), xs.isEmpty⟩

/-- A record as a field that is left out when nothing of it is written. -/
def recordSlot (name : String) (v : Value) : Slot := ⟨name, v, !v.isGiven⟩

/-- The fields of a state in their brief form. -/
def slots (s : GameState) : List Slot :=
  [listSlot "knownEntities" (fun (kv : String × Entity) => .list [.text kv.1, kv.2.brief])
      s.knownEntities,
    listSlot "party" Entity.brief s.party,
    listSlot "statuses" Status.brief s.statuses,
    listSlot "quests" Quest.brief s.quests,
    listSlot "memories" Memory.brief s.memories,
    listSlot "archivedMemories" Memory.brief s.archivedMemories,
    listSlot "gameHistory" Entry.brief s.gameHistory,
    listSlot "compressedHistory" Segment.toValue s.compressedHistory,
    recordSlot "chronicle" s.chronicle.brief,
    ⟨"gameTime", s.gameTime.toValue, false⟩,
    .nat "turnCount" 0 s.turnCount,
    .nat "totalTokens" 0 s.totalTokens,
    .texts "locationDiscoveryOrder" s.locationDiscoveryOrder,
    recordSlot "worldData" s.worldData.brief]

/-- The state without what is empty. -/
def brief (s : GameState) : Value := .object (Slot.brief s.slots)

end GameState

end Gamebook
