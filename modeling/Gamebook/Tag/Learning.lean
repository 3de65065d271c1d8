import Gamebook.Skill.Holders
import Gamebook.Tag.Scene

/-!
Tags for learning skills. A higher mastery of a skill takes the place of a lower one wherever it is
held, and a lower mastery than the known one is not learned. Who learns a skill is looked up, or
guessed from the words of the tag, and is the player in the end.
-/

namespace Gamebook.Scene

open Text Attribute

/-- Whether an entity is a character other than the player. -/
def isOtherCharacter (e : Entity) : Bool := e.kind = .npc || e.kind = .companion

/-- A skill with another name but the same base name. -/
def sameBaseSkill? (s : GameState) (name : String) : Option Entity :=
  (s.ofKind .skill).find? fun e =>
    e.name ≠ name && Skill.baseName e.name = Skill.baseName name

/-- The skill that has a name but for case and outer blanks. -/
def sameSkill? (s : GameState) (name : String) : Option Entity :=
  (s.ofKind .skill).find? fun e => Skill.sameName e.name name

/-- Whether an entity has a skill of the will. -/
def hasHaki (e : Entity) : Bool := e.skills.any fun skill => occurs "haki" (lower skill)

/-- A guess who learns a skill, from its name and description. -/
def guessLearner? (s : GameState) (name description : String) : Option String :=
  let characters := s.knownEntities.values.filter isOtherCharacter
  let context := lower (name ++ " " ++ description)
  let named := characters.find? fun e => occurs (lower e.name) context
  let gifted := if occurs "haki" (lower name) then characters.find? hasHaki else none
  (named.orElse fun _ => gifted).map (·.name)

/-- Whether a name is that of another character, known or in the party. -/
def isLearner (c : Scene) (learner : String) : Bool :=
  (c.find? (some learner)).any isOtherCharacter ||
    (c.state.partyMember? learner).any isOtherCharacter

/-- Who learns a skill, and the scene in which a doubtful answer is told. -/
def resolveLearner (c : Scene) (learner : Option String) (name description : String) :
    Option String × Scene :=
  let player := c.state.pc?.map (·.name)
  match learner with
  | some wanted =>
    if c.isLearner wanted then (some wanted, c)
    else if player.isSome && (some wanted = player || lower wanted = "pc") then (player, c)
    else
      (player, c.tell
        ("Learner '" ++ wanted ++ "' for " ++ name ++ " not found; defaulted to player"))
  | none =>
    match guessLearner? c.state name description with
    | some guess =>
      (some guess, c.tell
        ("Learner for " ++ name ++ " inferred as " ++ guess ++ " (low confidence)"))
    | none => (player, c.tell ("Learner for " ++ name ++ " not given; defaulted to player"))

/-- Adds a skill to whoever learns it. -/
def teach (c : Scene) (learner : Option String) (name description : String) (skill : Entity) :
    Scene :=
  let (holder, c) := c.resolveLearner learner name description
  match holder with
  | some holder => c.onState fun s => (Skill.addToHolder s holder skill.name).1
  | none => c

/-- Replaces a lower mastery by a higher one everywhere and forgets it. -/
def supersede (c : Scene) (old : Entity) (name : String) : Scene :=
  (c.onState fun s => (Skill.replaceReferences s old.name name).1.forget old.name).tell
    ("Skill upgraded: " ++ old.name ++ " -> " ++ name)

/-- The scene in which a new skill may be defined; none if a higher mastery is known. -/
def makeWay? (c : Scene) (name : String) : Option Scene :=
  match sameBaseSkill? c.state name with
  | none => some c
  | some old =>
    if Skill.rank name < Skill.rank old.name then none
    else if Skill.rank old.name < Skill.rank name then some (c.supersede old name)
    else some c

/-- The attributes of a learned skill. -/
def skillFields (attrs : Fields) : Fields :=
  withKind .skill (attrs.without ["learner", "target", "referenceId"])

/-- Defines a skill and adds it to whoever learns it. -/
def learn (attrs : Fields) (c : Scene) : Play Played := do
  match text? attrs "name", text? attrs "description" with
  | some name, some description =>
    let learner := (text? attrs "learner").orElse fun _ => text? attrs "target"
    let fields := skillFields attrs
    match sameSkill? c.state name with
    | some known =>
      let id ← keptId known .skill c
      let skill ← mergedWith known (withId id (Keyed.put fields "name" (.text known.name)))
      return ((c.put skill).teach learner name description skill).changed
    | none =>
      match c.makeWay? name with
      | none => return c.kept
      | some cleared =>
        let id ← cleared.newId .skill
        let skill ← entityOf (withId id fields)
        return ((cleared.put skill).teach learner name description skill).changed
  | _, _ => return c.kept

/-- The steps of mastery, as names tell them. -/
def masterySteps : List (String × String) :=
  [("Cơ Bản", "Sơ Cấp"), ("Sơ Cấp", "Trung Cấp"), ("Trung Cấp", "Cao Cấp"),
    ("Cao Cấp", "Đại Thành"), ("Đại Thành", "Viên Mãn")]

/-- How the change of a skill is called: a step of mastery, or else an evolution. -/
def changeLabel (old new : String) : String :=
  if masterySteps.any fun step => occurs step.1 old && occurs step.2 new then "Mastery"
  else "Evolved"

/-- The holders that a target stands for; all of them without a target. -/
def targetHolders (s : GameState) (target : Option String) : Option (List String) :=
  target.map fun name =>
    match s.pc? with
    | some pc => if lower name = "pc" then [name, pc.name] else [name]
    | none => [name]

/-- Forgets a skill that nobody holds any more. -/
def forgetUnheld (name : String) (s : GameState) : GameState :=
  if (s.find? name).isSome && !Skill.isHeld s name then s.forget name else s

/-- Defines the skill that a held one becomes, if the tag describes it. -/
def defineSuccessor (attrs : Fields) (newSkill : String) (c : Scene) : Play Scene := do
  match text? attrs "description" with
  | none => return c
  | some _ =>
    let fields := attrs.without ["oldSkill", "newSkill", "target", "referenceId"]
    let id ← c.newId .skill
    let skill ← entityOf (withId id (withKind .skill (Keyed.put fields "name" (.text newSkill))))
    return c.put skill

/-- Renames a held skill for one holder or for all. -/
def changeSkill (attrs : Fields) (c : Scene) : Play Played := do
  match text? attrs "oldSkill", text? attrs "newSkill" with
  | some old, some new =>
    if old = new then return c.kept
    else
      let defined ← c.defineSuccessor attrs new
      let holders := targetHolders defined.state (text? attrs "target")
      let (state, updated) := Skill.replaceReferences defined.state old new holders
      let next := { defined with state }
      if updated.isEmpty then return ⟨(text? attrs "description").isSome, next⟩
      else
        let event := changeLabel old new ++ ": " ++ old ++ " -> " ++ new ++ " for " ++
          join ", " updated
        return ((next.onState (forgetUnheld old)).tell event).changed
  | _, _ => return c.kept

end Gamebook.Scene
