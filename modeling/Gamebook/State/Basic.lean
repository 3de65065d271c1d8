import Gamebook.Entity.Basic
import Gamebook.History.Entry
import Gamebook.History.Segment
import Gamebook.Memory.Basic
import Gamebook.Quest.Basic
import Gamebook.Status.Basic
import Gamebook.World.Calendar
import Gamebook.World.Setting

/-!
The state of a game: one snapshot of everything that tags change and that cleanup keeps within
bounds. Party members are copies of known entities, found by name.
-/

namespace Gamebook

/-- A snapshot of a game. -/
structure GameState where
  knownEntities : Keyed Entity := []
  party : List Entity := []
  statuses : List Status := []
  quests : List Quest := []
  memories : List Memory := []
  archivedMemories : List Memory := []
  gameHistory : List Entry := []
  compressedHistory : List Segment := []
  chronicle : Chronicle := {}
  gameTime : GameTime := {}
  turnCount : Nat := 0
  totalTokens : Nat := 0
  locationDiscoveryOrder : List String := []
  worldData : WorldData := {}
  deriving Inhabited

/-- Replaces the first entity that has the name of a given one. -/
def replaceNamed (entity : Entity) : List Entity → List Entity
  | [] => []
  | member :: rest =>
    if member.name = entity.name then entity :: rest else member :: replaceNamed entity rest

namespace GameState

/-- The known entity with a name. -/
def find? (s : GameState) (name : String) : Option Entity := s.knownEntities.get? name

/-- The player character: the first known entity of that kind. -/
def pc? (s : GameState) : Option Entity := s.knownEntities.values.find? (·.kind = .pc)

/-- The known entities of a kind, in order. -/
def ofKind (s : GameState) (kind : EntityKind) : List Entity :=
  s.knownEntities.values.filter (·.kind = kind)

/-- The party member with a name. -/
def partyMember? (s : GameState) (name : String) : Option Entity :=
  s.party.find? (·.name = name)

/-- Stores an entity under a key, leaving the party alone. -/
def putKnown (s : GameState) (key : String) (entity : Entity) : GameState :=
  { s with knownEntities := s.knownEntities.put key entity }

/-- Swaps the party copy of an entity, if there is one. -/
def refreshParty (s : GameState) (entity : Entity) : GameState :=
  { s with party := replaceNamed entity s.party }

/-- Stores an entity under its name and refreshes its party copy. -/
def put (s : GameState) (entity : Entity) : GameState :=
  (s.putKnown entity.name entity).refreshParty entity

def forget (s : GameState) (name : String) : GameState :=
  { s with knownEntities := s.knownEntities.erase name }

end GameState

/-- The known entities with `entity` at the place of an old name. Any other entry under the new
name is dropped; if the old name is missing, the entity comes last. -/
def renameKnown (old : String) (entity : Entity) (known : Keyed Entity) : Keyed Entity :=
  let rebuilt := known.filterMap fun (key, existing) =>
    if key = old then some (entity.name, entity)
    else if key = entity.name then none
    else some (key, existing)
  if known.has old then rebuilt else rebuilt ++ [(entity.name, entity)]

namespace GameState

/-- Puts an entity in the place of an old name, among the known entities and in the party. -/
def rename (s : GameState) (old : String) (entity : Entity) : GameState :=
  { s with
    knownEntities := renameKnown old entity s.knownEntities
    party := s.party.map fun member => if member.name = old then entity else member }

end GameState

end Gamebook
