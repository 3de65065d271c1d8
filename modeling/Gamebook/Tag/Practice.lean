import Gamebook.Skill.Progress
import Gamebook.Tag.Scene

/-!
Tags for the practice of skills: experience, breakthroughs and rolls for eligibility.
-/

namespace Gamebook.Scene

open Text Attribute

/-- Grants experience to one of the player's skills and counts it if it gained any. -/
def rewardSkill (amount : Int) (acc : Scene × Nat) (name : String) : Outcome (Scene × Nat) :=
  match acc.1.skill? (some name) with
  | none => .ok acc
  | some skill => do
    let gain ← Skill.addExp skill (.int amount)
    let count := if (Number.int 0).lt gain.expGained then acc.2 + 1 else acc.2
    return (acc.1.put gain.skill, count)

/-- Grants experience to every skill that the player has learned. -/
def rewardSkills (attrs : Fields) (c : Scene) : Play Played := do
  let amount ← Play.ofOutcome (asInt 0 (Value.field attrs "amount"))
  if amount ≤ 0 then return c.kept
  else
    match c.state.pc? with
    | none => return c.kept
    | some pc =>
      let (next, count) ← Play.ofOutcome (pc.learnedSkills.foldlM (rewardSkill amount) (c, 0))
      return ⟨decide (0 < count), next⟩

def gainSkillExp (attrs : Fields) (c : Scene) : Play Played := do
  let name := text? attrs "skillName"
  let amount ← Play.ofOutcome (asInt 0 (Value.field attrs "amount"))
  if amount ≤ 0 then return c.kept
  else
    match c.skill? name with
    | none => return c.kept
    | some skill =>
      let gain ← Play.ofOutcome (Skill.addExp skill (.int amount))
      return ⟨(Number.int 0).lt gain.expGained, c.put gain.skill⟩

/-- The chance of success that a tag gives, or the usual one. -/
def successRate (attrs : Fields) : Outcome Double :=
  (asDouble 0 (Value.field attrs "successRate")).map fun rate =>
    if rate.isZero then Skill.defaultRate else rate

def breakthroughEvent (name : String) (gain : Skill.Gain) : String :=
  "Breakthrough: " ++ name ++ " " ++ gain.previousMastery.getD "None" ++ " -> " ++
    gain.newMastery.getD "None"

/-- Attempts the breakthrough of a skill. -/
def breakThrough (attrs : Fields) (c : Scene) : Play Played := do
  match text? attrs "skillName" with
  | none => return c.kept
  | some name =>
    match c.skill? (some name) with
    | none => return c.kept
    | some skill =>
      let rate ← Play.ofOutcome (successRate attrs)
      let gain ← Skill.attempt skill (.float rate)
      let next := c.put gain.skill
      return (if gain.masteryLevelUp then next.tell (breakthroughEvent name gain)
        else next).changed

/-- Rolls for the eligibility of all skills. -/
def rollForSkills (c : Scene) : Play Played := do
  let skills := c.state.ofKind .skill
  let rolled ← skills.mapM Skill.rollEligibility
  return ⟨!skills.isEmpty, rolled.foldl Scene.put c⟩

end Gamebook.Scene
