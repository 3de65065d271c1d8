import Gamebook.Skill.Holders
import Gamebook.Tag.Scene
import Gamebook.World.Realm

/-!
Tags that update entities and their bonds: the general update of any entity, the realm of a
character, companions and relationships. The player's realm is never set by hand where it follows
from experience.
-/

namespace Gamebook.Scene

open Text Attribute

/-- Attributes of a general update that are instructions and not fields. -/
def updateInstructions : List String :=
  ["name", "newDescription", "change", "attribute", "newName"]

/-- The fields that an update sets outright. -/
def plainUpdates (attrs : Fields) : Fields :=
  let fields := attrs.without updateInstructions
  match text? attrs "newDescription" with
  | some description => Keyed.put fields "description" (.text description)
  | none => fields

/-- A value, or zero for one that does not count as given. -/
def orZero (v : Value) : Value := if v.isGiven then v else .int 0

/-- Adds a signed amount to a field, if both the amount and the field are numbers. -/
def applyChange (e : Entity) (attrs updates : Fields) : Outcome Fields :=
  match text? attrs "attribute", Value.field attrs "change" with
  | none, _ => .ok updates
  | some _, .null => .ok updates
  | some key, change => do
    match ← asDelta? change, asNumber? (orZero (Value.field e.toFields key)) with
    | some delta, some current => do
      let sum ← Outcome.ofArithmetic (current.add? (.int delta))
      return Keyed.put updates key (.ofNumber sum)
    | _, _ => return updates

/-- A number that is not zero, or the whole number zero. -/
def numberOrZero (v : Value) : Value :=
  match Number.nonzero? (asNumber? v) with
  | some x => .ofNumber x
  | none => .int 0

/-- The updates with experience as a number. -/
def withPlainExp (updates : Fields) : Fields :=
  match updates.get? "currentExp" with
  | some v => Keyed.put updates "currentExp" (numberOrZero v)
  | none => updates

/-- Whether the entity is a player whose realm follows from experience. -/
def followsExperience (s : GameState) (e : Entity) (updates : Fields) : Bool :=
  e.kind = .pc && !s.worldData.realmTiers.isEmpty &&
    ((updates.get? "currentExp").getD (.opt .ofNumber e.currentExp)).isGiven

/-- Brings the realm up to date under a condition. -/
def progressIf (cond : Bool) (s : GameState) : GameState := if cond then s.progressRealm else s

/-- A state with a renamed entity; for a skill its references follow. -/
def renameEverywhere (e updated : Entity) (newName : String) (s : GameState) : GameState :=
  let renamed := s.rename e.name updated
  if e.kind = .skill then (Skill.replaceReferences renamed e.name newName).1 else renamed

/-- Updates any field of a known entity. -/
def updateEntity (attrs : Fields) (c : Scene) : Play Played := do
  let name := text? attrs "name"
  match c.find? name with
  | none => return c.kept
  | some e =>
    let changed ← Play.ofOutcome (applyChange e attrs (plainUpdates attrs))
    let updates := withPlainExp changed
    let derived := followsExperience c.state e updates
    let updates := if derived then Keyed.erase updates "realm" else updates
    let progress := Keyed.has updates "currentExp" || derived
    match (text? attrs "newName").filter fun n => some n ≠ name with
    | some newName =>
      let updated ← mergedWith e (Keyed.put updates "name" (.text newName))
      return (c.onState fun s => progressIf progress (renameEverywhere e updated newName s)).changed
    | none =>
      let updated ← mergedWith e updates
      return (c.onState fun s => progressIf progress (s.put updated)).changed

/-- The realm that a player's experience gives, if it gives one. -/
def derivedRealm? (s : GameState) (e : Entity) : Option String :=
  if e.kind = .pc && !s.worldData.realmTiers.isEmpty then
    (Number.nonzero? e.currentExp).bind (evaluateRealm · s.worldData.realmTiers)
  else none

/-- Sets the realm of a character, unless it follows from experience. -/
def updateRealm (attrs : Fields) (c : Scene) : Play Played :=
  match c.find? (text? attrs "target"), text? attrs "realm" with
  | some target, some realm =>
    match derivedRealm? c.state target with
    | some _ => pure (c.onState (·.progressRealm)).changed
    | none => pure (c.put { target with realm := some realm }).changed
  | _, _ => pure c.kept

/-- The bond of a companion when none is told. -/
def companionBond : String := "Đồng hành"

/-- The attributes of a companion with a bond. -/
def withBond (attrs : Fields) : Fields :=
  match text? attrs "relationship" with
  | some _ => attrs
  | none => Keyed.put attrs "relationship" (.text companionBond)

/-- Puts an entity last in the party, in the place of any other with its name. -/
def joinParty (e : Entity) (s : GameState) : GameState :=
  { s with party := s.party.filter (·.name ≠ e.name) ++ [e] }

/-- A text, or the word for none. -/
def textOrNone (s : Option String) : String := s.getD "None"

/-- Takes a companion into the party. -/
def addCompanion (attrs : Fields) (c : Scene) : Play Played := do
  match text? attrs "name", text? attrs "description" with
  | some _, some _ =>
    let id ← c.newId .companion
    let e ← entityOf (withBond (withDefaultId id (withKind .companion attrs)))
    let next := c.onState fun s => (joinParty e s).putKnown e.name e
    if (c.state.partyMember? e.name).isNone then
      return (next.tell
        ("Companion joined: " ++ e.name ++ " (" ++ textOrNone e.relationship ++ ")")).changed
    else return next.changed
  | _, _ => return c.kept

/-- Sets the relationship of an entity to the player; without one it is forgotten. -/
def changeRelationship (attrs : Fields) (c : Scene) : Play Played :=
  match c.find? (text? attrs "npcName") with
  | none => pure c.kept
  | some e =>
    let relationship := text? attrs "relationship"
    let next := c.put { e with relationship }
    if relationship = e.relationship then pure next.changed
    else
      pure (next.tell ("Relationship with " ++ e.name ++ ": " ++
        textOr "unknown" e.relationship ++ " -> " ++ textOrNone relationship)).changed

end Gamebook.Scene
