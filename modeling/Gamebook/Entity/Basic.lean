import Gamebook.Value

/-!
Entities: every named thing that the narrative can introduce. One record serves the player
character, other characters, items, skills, places, factions and concepts; what a tag says beyond
the fields of the record is kept in `extras`.
-/

namespace Gamebook

/-- The kinds of entities. -/
inductive EntityKind where
  | pc
  | npc
  | companion
  | item
  | skill
  | location
  | faction
  | concept
  | statusEffect
  deriving DecidableEq, Inhabited

namespace EntityKind

def name : EntityKind → String
  | .pc => "pc"
  | .npc => "npc"
  | .companion => "companion"
  | .item => "item"
  | .skill => "skill"
  | .location => "location"
  | .faction => "faction"
  | .concept => "concept"
  | .statusEffect => "status_effect"

def all : List EntityKind :=
  [.pc, .npc, .companion, .item, .skill, .location, .faction, .concept, .statusEffect]

def ofName? (s : String) : Option EntityKind := all.find? (·.name = s)

/-- Whether entities of the kind can hold skills. -/
def isCharacter : EntityKind → Bool
  | .pc => true
  | .npc => true
  | .companion => true
  | _ => false

end EntityKind

/-- A named thing in the game world. -/
structure Entity where
  name : String
  kind : EntityKind
  description : String := ""
  referenceId : Option String := none
  owner : Option String := none
  quantities : Option Number := none
  uses : Option Number := none
  durability : Option Number := none
  equippable : Bool := false
  equipped : Bool := false
  usable : Bool := false
  consumable : Bool := false
  learnedSkills : List String := []
  skills : List String := []
  currentExp : Option Number := none
  realm : Option String := none
  relationship : Option String := none
  motivation : Option String := none
  learnable : Bool := false
  mastery : Option String := none
  skillExp : Option Number := none
  maxSkillExp : Option Number := none
  skillCapped : Bool := false
  breakthroughEligible : Bool := false
  discoveredAt : Option Int := none
  lastMentioned : Option Int := none
  archived : Bool := false
  extras : Fields := []
  deriving Inhabited

namespace Entity

/-- Whether the entity can hold skills. -/
def isCharacter (e : Entity) : Bool := e.kind.isCharacter

/-- The names of the skills that the entity holds; the player character keeps them in a list of its
own. -/
def skillNames (e : Entity) : List String :=
  if e.kind = .pc then e.learnedSkills else e.skills

/-- The entity with another list of skills. -/
def withSkills (e : Entity) (names : List String) : Entity :=
  if e.kind = .pc then { e with learnedSkills := names } else { e with skills := names }

/-- Whether the entity is an item of the player. -/
def isOwnedItem (e : Entity) : Bool := e.kind = .item && e.owner = some "pc"

end Entity

end Gamebook
