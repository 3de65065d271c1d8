import Gamebook.Skill.Name
import Gamebook.Skill.Progress

/-!
Experience from use. A player's action uses a skill if it names the skill, or its base name after a
verb of use; how much is gained depends on the kind of action.
-/

namespace Gamebook.Skill

/-- Verbs that tell the use of a skill. -/
def usageVerbs : List String :=
  ["dùng", "sử dụng", "kích hoạt", "thi triển", "phản đòn bằng", "tu luyện", "luyện tập", "with",
    "using", "practice", "train"]

def trainingWords : List String := ["tu luyện", "luyện tập", "train", "practice"]

def combatWords : List String :=
  ["chiến đấu", "đánh", "tấn công", "phản đòn", "combat", "attack", "fight"]

/-- Whether a text in small letters uses a skill. -/
def isUsedIn (lowered : String) (e : Entity) : Bool :=
  let base := baseName e.name
  e.kind = .skill &&
    (Text.occurs (Text.lower e.name) lowered ||
      (!base.isEmpty && usageVerbs.any fun verb => Text.occurs (verb ++ " " ++ base) lowered))

/-- The skills that a text uses. -/
def usedIn (text : String) (skills : List Entity) : List Entity :=
  skills.filter (isUsedIn (Text.lower text))

/-- The experience for one use in a text. -/
def usageGain (text : String) : Nat :=
  let lowered := Text.lower text
  if Text.occursAny trainingWords lowered then 15
  else if Text.occursAny combatWords lowered then 10
  else 5

/-- The skill entities that the player has learned, in the order of the player's list. -/
def learnedEntities (s : GameState) : List Entity :=
  match s.pc? with
  | some pc => pc.learnedSkills.filterMap s.find?
  | none => []

/-- Grants experience to one skill, unless it is capped. -/
def awardOne (amount : Nat) (acc : GameState × List Gain) (e : Entity) :
    Outcome (GameState × List Gain) :=
  if canGain e then do
    let gain ← addExp e (.int amount)
    return (acc.1.putKnown e.name gain.skill, acc.2 ++ [gain])
  else .ok acc

/-- Grants experience to the player's skills that an action uses. -/
def awardUsage (s : GameState) (action : String) : Outcome (GameState × List Gain) :=
  (usedIn action (learnedEntities s)).foldlM (awardOne (usageGain action)) (s, [])

end Gamebook.Skill
