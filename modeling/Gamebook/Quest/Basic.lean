import Gamebook.Quest.Objective
import Gamebook.Value

/-!
Quests of the player's journal. A quest is addressed by its title and its objectives by their
descriptions.
-/

namespace Gamebook

/-- Where a quest stands. -/
inductive QuestStatus where
  | active
  | completed
  | failed
  deriving DecidableEq, Inhabited

namespace QuestStatus

def name : QuestStatus → String
  | .active => "active"
  | .completed => "completed"
  | .failed => "failed"

def ofName? (s : String) : Option QuestStatus :=
  [active, completed, failed].find? (·.name = s)

end QuestStatus

/-- A quest of the player's journal. -/
structure Quest where
  title : String
  description : String := ""
  objectives : List Objective := []
  giver : Option String := none
  reward : Option String := none
  isMainQuest : Bool := false
  status : QuestStatus := .active
  extras : Fields := []
  deriving Inhabited

/-- Completes the first objective with a description; none if there is no such objective. -/
def completeObjective (description : String) : List Objective → Option (List Objective)
  | [] => none
  | o :: rest =>
    if o.description = description then some ({ o with completed := true } :: rest)
    else (completeObjective description rest).map (o :: ·)

namespace Quest

/-- Completes the objective with a description; none if there is no such objective. -/
def complete? (q : Quest) (description : String) : Option Quest :=
  (completeObjective description q.objectives).map fun os => { q with objectives := os }

/-- Whether there are objectives and all of them are done. -/
def allComplete (q : Quest) : Bool := !q.objectives.isEmpty && q.objectives.all (·.completed)

end Quest

end Gamebook
