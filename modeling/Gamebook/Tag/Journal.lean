import Gamebook.Tag.Scene
import Gamebook.Text.Fold
import Gamebook.World.Realm

/-!
Tags of the quest journal. A quest that becomes completed pays the experience that its reward text
names; one that is completed already pays nothing.
-/

namespace Gamebook.Scene

open Text Attribute

def experienceWords : List (List Char) :=
  ["exp".toList, "kinh nghiệm".toList, "experience".toList]

/-- The digits at the front of a text, if a word for experience follows them. -/
def rewardAt? (cs : List Char) : Option (List Nat) :=
  let digits := (cs.takeWhile isDigit).filterMap digitValue?
  let rest := (cs.dropWhile isDigit).dropWhile isBlank
  if !digits.isEmpty && experienceWords.any fun word => (afterOpeningFold? word rest).isSome then
    some digits
  else none

/-- The digits of the first experience that a reward text names. -/
def rewardDigits? : List Char → Option (List Nat)
  | [] => none
  | c :: rest =>
    match rewardAt? (c :: rest) with
    | some digits => some digits
    | none => rewardDigits? rest

/-- The experience that a quest pays, if its reward names any. -/
def rewardOf? (q : Quest) : Outcome (Option Nat) :=
  match rewardDigits? ((q.reward.getD "").toList) with
  | none => .ok none
  | some digits =>
    if Numeral.maxDigits < digits.length then .error (.numeralTooLong digits.length)
    else .ok (some (Numeral.valueOf digits))

/-- Pays the experience of a quest to the player. -/
def payReward (q : Quest) (c : Scene) : Outcome Scene := do
  match c.state.pc? with
  | none => return c
  | some pc =>
    match ← rewardOf? q with
    | none => return c
    | some amount =>
      let current := (Number.nonzero? pc.currentExp).getD (.int 0)
      let total ← Outcome.ofArithmetic (current.add? (.int amount))
      let paid := c.onState fun s => (s.put { pc with currentExp := some total }).progressRealm
      return paid.tell
        ("Quest '" ++ q.title ++ "' completed: +" ++ toString amount ++ " exp")

/-- Replaces the first quest that has the title of a given one. -/
def replaceQuest (q : Quest) : List Quest → List Quest
  | [] => []
  | other :: rest => if other.title = q.title then q :: rest else other :: replaceQuest q rest

/-- The first quest with a title. -/
def quest? (c : Scene) (title : Option String) : Option Quest :=
  title.bind fun t => c.state.quests.find? (·.title = t)

/-- Stores a quest in the place of the one with its title. -/
def putQuest (q : Quest) (c : Scene) : Scene :=
  c.onState fun s => { s with quests := replaceQuest q s.quests }

/-- Completes a quest; the reward is paid when it was not completed before. -/
def completeQuest (q : Quest) (c : Scene) : Outcome Scene :=
  let next := c.putQuest { q with status := .completed }
  if q.status = .completed then .ok next else payReward q next

def objectivesGiven : Value → List Objective
  | .list items => items.filterMap fun v =>
    match v with
    | .objective o => some o
    | _ => none
  | _ => []

/-- Enters a quest into the journal, in the place of any other with its title. -/
def assignQuest (attrs : Fields) (c : Scene) : Play Played :=
  match text? attrs "title" with
  | none => pure c.kept
  | some title =>
    let quest : Quest :=
      { title
        description := (text? attrs "description").getD ""
        objectives := objectivesGiven (Value.field attrs "objectives")
        giver := text? attrs "giver"
        reward := text? attrs "reward"
        isMainQuest := match Value.field attrs "isMainQuest" with
          | .bool b => b
          | _ => false }
    pure (c.onState fun s =>
      { s with quests := s.quests.filter (·.title ≠ title) ++ [quest] }).changed

/-- Sets the status of a quest. -/
def updateQuest (attrs : Fields) (c : Scene) : Play Played := do
  match c.quest? (text? attrs "title"), text? attrs "status" with
  | some quest, some word =>
    match QuestStatus.ofName? (lower word) with
    | none => return c.kept
    | some .completed => return (← Play.ofOutcome (c.completeQuest quest)).changed
    | some status => return (c.putQuest { quest with status }).changed
  | _, _ => return c.kept

/-- Completes an objective, and with the last of them the quest. -/
def completeQuestObjective (attrs : Fields) (c : Scene) : Play Played := do
  match c.quest? (text? attrs "questTitle"), text? attrs "objectiveDescription" with
  | some quest, some description =>
    match quest.complete? description with
    | none => return c.kept
    | some quest =>
      if quest.allComplete then return (← Play.ofOutcome (c.completeQuest quest)).changed
      else return (c.putQuest quest).changed
  | _, _ => return c.kept

end Gamebook.Scene
