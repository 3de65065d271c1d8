import Gamebook.Tag.Definition
import Gamebook.Tag.Grammar
import Gamebook.Tag.Inventory
import Gamebook.Tag.Journal
import Gamebook.Tag.Learning
import Gamebook.Tag.Passage
import Gamebook.Tag.Practice
import Gamebook.Tag.Update

/-!
Interpretation of a narrative. Its tags are played one after another, each on the state that the one
before has left; a tag that fails leaves the state as it was. If anything changed, the names of held
skills are brought in line at the end. What is shown is the text without tags and reasoning.
-/

namespace Gamebook

namespace TagKind

/-- Plays a tag of a kind with its attributes. -/
def play (kind : TagKind) (attrs : Fields) (c : Scene) : Play Played :=
  match kind with
  | .timeElapsed => c.passTime attrs
  | .chronicleTurn => c.chronicleTurn attrs
  | .chronicleChapter => pure (c.chronicleChapter attrs)
  | .chronicleMemoir => pure (c.chronicleMemoir attrs)
  | .statusAppliedSelf => c.applyStatus (some "pc") attrs
  | .statusAppliedNpc => c.applyStatus (Attribute.text? attrs "npcName") attrs
  | .statusCuredSelf => pure (c.cureStatus (some "pc") attrs)
  | .statusCuredNpc => pure (c.cureStatus (Attribute.text? attrs "npcName") attrs)
  | .lorePc => c.describePlayer attrs
  | .loreNpc => c.describe .npc attrs
  | .loreItem => c.define .item attrs
  | .loreLocation => c.describePlace attrs
  | .loreFaction => c.define .faction attrs
  | .loreConcept => c.define .concept attrs
  | .loreSkill => c.defineSkill attrs
  | .skillExpReward => c.rewardSkills attrs
  | .skillExpGain => c.gainSkillExp attrs
  | .skillBreakthrough => c.breakThrough attrs
  | .skillBreakthroughRoll => c.rollForSkills
  | .skillLearned => c.learn attrs
  | .skillUpdate => c.changeSkill attrs
  | .entityUpdate => c.updateEntity attrs
  | .itemAcquired => c.acquire attrs
  | .itemConsumed => c.consume attrs
  | .itemEquipped => c.equip attrs
  | .itemUnequipped => c.unequip attrs
  | .itemTransformed => c.transform attrs
  | .itemUpdated => c.updateItem attrs
  | .itemDamaged => c.damage attrs
  | .itemRepaired => c.repair attrs
  | .itemDiscarded => c.lose attrs
  | .itemLost => c.lose attrs
  | .specialItemGenerate => c.requestSpecialItem attrs
  | .realmUpdate => c.updateRealm attrs
  | .companion => c.addCompanion attrs
  | .relationshipChanged => c.changeRelationship attrs
  | .questAssigned => c.assignQuest attrs
  | .questUpdated => c.updateQuest attrs
  | .questObjectiveCompleted => c.completeQuestObjective attrs
  | .defineRealmSystem => pure c.kept

end TagKind

/-- What has come of the tags so far. -/
structure Progress where
  state : GameState
  applied : List String := []
  unprocessed : List String := []
  failed : List String := []
  events : List String := []
  appended : List String := []

/-- What a narrative has come to. -/
structure Interpretation where
  displayText : String
  state : GameState
  applied : List String := []
  unprocessed : List String := []
  failed : List String := []
  events : List String := []
  reasoning : Option String := none

namespace Interpretation

/-- Whether any tag changed the state. -/
def changed (i : Interpretation) : Bool := !i.applied.isEmpty

end Interpretation

namespace Progress

/-- The progress after a tag that was played. -/
def afterPlaying (p : Progress) (raw : String) (played : Played) : Progress :=
  { p with
    state := played.scene.state
    applied := if played.changed then p.applied ++ [raw] else p.applied
    events := p.events ++ played.scene.events
    appended := p.appended ++ played.scene.appended }

/-- Plays a tag of a known kind. Of a failed one only its draws remain. -/
def playKind (rules : List Rule) (kind : TagKind) (raw : String) (attrs : Fields)
    (p : Progress) (d : Draws) : Progress × Draws :=
  match kind.play attrs { state := p.state, rules } d with
  | (.ok played, d) => (p.afterPlaying raw played, d)
  | (.error _, d) => ({ p with failed := p.failed ++ [raw] }, d)

/-- Plays a tag. One of an unknown kind or without attributes is left unprocessed. -/
def playTag (rules : List Rule) (acc : Progress × Draws) (t : Tag) : Progress × Draws :=
  let (p, d) := acc
  match t.kind? with
  | some .defineRealmSystem => (p, d)
  | none => ({ p with unprocessed := p.unprocessed ++ [t.raw] }, d)
  | some kind =>
    match Attribute.parse t.body with
    | [] => ({ p with unprocessed := p.unprocessed ++ [t.raw] }, d)
    | attrs => p.playKind rules kind t.raw attrs d

def playAll (rules : List Rule) (tags : List Tag) (s : GameState) (d : Draws) :
    Progress × Draws :=
  tags.foldl (playTag rules) ({ state := s }, d)

/-- The progress with skill names in line, if anything changed. -/
def settled (p : Progress) : Play Progress := do
  if p.applied.isEmpty then return p
  else
    let (state, _) ← Skill.synchronize p.state
    return { p with state }

end Progress

/-- The text that is shown and the reasoning, from the text without tags and what tags append. -/
def shownText (stripped : String) (appended : List String) : String × Option String :=
  let extended := appended.foldl (fun text extra => Text.trimEnd text ++ " " ++ extra) stripped
  let (text, reasoning) := Reasoning.split (Text.trim extended)
  (Text.trim text, reasoning)

def interpret (rules : List Rule) (text : String) (s : GameState) : Play Interpretation :=
  fun d =>
    let (p, d) := Progress.playAll rules (Tag.find text) s d
    match p.settled d with
    | (.error e, d) => (.error e, d)
    | (.ok p, d) =>
      let (displayText, reasoning) := shownText (Tag.strip text) p.appended
      (.ok {
        displayText
        state := p.state
        applied := p.applied
        unprocessed := p.unprocessed
        failed := p.failed
        events := p.events
        reasoning }, d)

/-- A narrative as it is shown when its tags have no effect. -/
def preview (text : String) (s : GameState) : Interpretation :=
  let (displayText, reasoning) := shownText (Tag.strip text) []
  { displayText, state := s, reasoning }

end Gamebook
