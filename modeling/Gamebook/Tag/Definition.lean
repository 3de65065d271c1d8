import Gamebook.Number.Decimal
import Gamebook.Skill.Merge
import Gamebook.Tag.Scene
import Gamebook.Text.Word
import Gamebook.World.Realm

/-!
Tags that introduce entities. Items, factions, concepts and skills are defined anew each time; other
characters and places are brought up to date; the player character is too, and stands first in the
party.
-/

namespace Gamebook.Scene

open Text Attribute

/-- Defines an entity, in the place of any other with its name. An id is drawn even if the tag
brings one. -/
def define (kind : EntityKind) (attrs : Fields) (c : Scene) : Play Played := do
  match text? attrs "name" with
  | none => return c.kept
  | some _ =>
    let id ← c.newId kind
    let e ← entityOf (withDefaultId id (withKind kind attrs))
    return (c.put e).changed

/-- The kinds of records that a tag for a kind may bring up to date. A character that has become a
companion stays one. -/
def refreshedKinds (kind : EntityKind) : List EntityKind :=
  if kind = .npc then [.npc, .companion] else [kind]

/-- Attributes that keep a record's kind, id and name. -/
def keepingIdentity (e : Entity) (name : String) (attrs : Fields) : Fields :=
  Keyed.update attrs
    [("type", .text e.kind.name), ("referenceId", .opt .text e.referenceId), ("name", .text name)]

/-- Brings a record up to date, or introduces it. -/
def refresh (kind : EntityKind) (attrs : Fields) (name : String) (c : Scene) : Play Entity :=
  match (c.find? (some name)).filter fun e => (refreshedKinds kind).contains e.kind with
  | some existing => mergedWith existing (keepingIdentity existing name attrs)
  | none => do
    let id ← c.newId kind
    entityOf (withId id (withKind kind attrs))

/-- Brings the record that a tag names up to date, or introduces it. -/
def describe (kind : EntityKind) (attrs : Fields) (c : Scene) : Play Played := do
  match text? attrs "name" with
  | none => return c.kept
  | some name =>
    let e ← c.refresh kind attrs name
    return (c.put e).changed

/-- Whether a name is not yet that of a place. -/
def isNewPlace (c : Scene) (name : String) : Bool :=
  (c.find? (some name)).all (·.kind ≠ .location)

/-- Adds a place to those discovered, once. -/
def discover (s : GameState) (name : String) : GameState :=
  if s.locationDiscoveryOrder.contains name then s
  else { s with locationDiscoveryOrder := s.locationDiscoveryOrder ++ [name] }

/-- Introduces a place or brings it up to date; a new one is marked as discovered. -/
def describePlace (attrs : Fields) (c : Scene) : Play Played := do
  match text? attrs "name" with
  | none => return c.kept
  | some name =>
    if c.isNewPlace name then
      let e ← c.refresh .location (Keyed.put attrs "discoveredAt" (.int c.state.turnCount)) name
      return ((c.put e).onState (discover · e.name)).changed
    else
      let e ← c.refresh .location attrs name
      return (c.put e).changed

/-- Defines a skill, which needs a description. The id of a skill is never taken from the tag. -/
def defineSkill (attrs : Fields) (c : Scene) : Play Played :=
  match text? attrs "description" with
  | none => pure c.kept
  | some _ => c.define .skill (attrs.without ["referenceId"])

/-- The words of a motivation, in small letters and without marks. -/
def motivationWords (s : String) : List String :=
  (wordChars ((trimChars (lowerChars s.toList)).filter fun c => isWord c || isBlank c)).map
    String.ofList

/-- The share of words that two motivations have in common. -/
def motivationSimilarity (current proposed : String) : Double :=
  let xs := motivationWords current
  let ys := motivationWords proposed
  let longest := Nat.max xs.length ys.length
  if longest = 0 then .ofInt 1 else .ofRatio (xs.countP (ys.contains ·)) longest

/-- Beyond this similarity a motivation counts as the same. -/
def sameMotivation : Double := .ofRatio 7 10

def stated (attrs : Fields) : Fields :=
  attrs.filter fun kv =>
    match kv.2 with
    | .null => false
    | .text s => !s.isEmpty
    | _ => true

/-- The skill names that a value lists. -/
def skillsOf : Value → List String
  | .text s => Read.commaNames s
  | .list items => (items.map fun v => trim v.display).filter (!·.isEmpty)
  | _ => []

/-- The attributes of the player: what says nothing and what names no skill is dropped. -/
def playerAttributes (attrs : Fields) : Fields :=
  let attrs := stated attrs
  match attrs.get? "learnedSkills" with
  | none => attrs
  | some v =>
    Keyed.put attrs "learnedSkills" (.texts ((skillsOf v).filter (!Skill.isPlaceholder ·)))

/-- Drops a motivation that hardly differs from the present one. -/
def keepMotivation (pc : Entity) (attrs : Fields) : Fields :=
  match text? attrs "motivation", pc.motivation with
  | some proposed, some current =>
    if !current.isEmpty && sameMotivation.lt (motivationSimilarity current proposed) then
      Keyed.erase attrs "motivation"
    else attrs
  | _, _ => attrs

/-- Merges the skills of a tag into those that the player has learned. -/
def mergeLearned (pc : Entity) (attrs : Fields) : Fields :=
  match attrs.get? "learnedSkills" with
  | some (.list names) =>
    if pc.learnedSkills.isEmpty then attrs
    else
      let new := names.map Value.display
      Keyed.put attrs "learnedSkills" (.texts (Skill.merge pc.learnedSkills new).skills)
  | _ => attrs

/-- Puts the player first in the party and brings the realm up to date. -/
def leadParty (pc : Entity) (s : GameState) : GameState :=
  GameState.progressRealm { s with party := pc :: s.party.filter (·.kind ≠ .pc) }

/-- Stores the player under a name that may be new. -/
def storePlayer (s : GameState) (old : String) (pc : Entity) : GameState :=
  if pc.name = old then s.putKnown pc.name pc else s.rename old pc

def introducePlayer (attrs : Fields) (c : Scene) : Play Played := do
  match text? attrs "name" with
  | none => return c.kept
  | some _ =>
    let id ← c.newId .pc
    let pc ← entityOf (withDefaultId id (withKind .pc attrs))
    return (c.onState fun s => leadParty pc (s.putKnown pc.name pc)).changed

/-- Brings the player character up to date. -/
def refreshPlayer (existing : Entity) (attrs : Fields) (c : Scene) : Play Played := do
  let name := (text? attrs "name").getD existing.name
  let updates := mergeLearned existing (keepMotivation existing attrs)
  let id ← keptId existing .pc c
  let pc ← mergedWith existing
    (withId id (Keyed.put (withKind .pc updates) "name" (.text name)))
  return (c.onState fun s => leadParty pc (storePlayer s existing.name pc)).changed

/-- Introduces the player character or brings it up to date. -/
def describePlayer (attrs : Fields) (c : Scene) : Play Played :=
  match c.state.pc? with
  | none => c.introducePlayer (playerAttributes attrs)
  | some existing => c.refreshPlayer existing (playerAttributes attrs)

end Gamebook.Scene
