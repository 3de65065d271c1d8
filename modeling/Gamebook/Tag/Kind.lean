/-!
The kinds of tags. The set is closed: a tag of any other name is left to others.
-/

namespace Gamebook

/-- What a tag tells. -/
inductive TagKind where
  | timeElapsed
  | chronicleTurn
  | chronicleChapter
  | chronicleMemoir
  | statusAppliedSelf
  | statusAppliedNpc
  | statusCuredSelf
  | statusCuredNpc
  | lorePc
  | loreNpc
  | loreItem
  | loreLocation
  | loreFaction
  | loreConcept
  | loreSkill
  | skillExpReward
  | skillExpGain
  | skillBreakthrough
  | skillBreakthroughRoll
  | skillLearned
  | skillUpdate
  | entityUpdate
  | itemAcquired
  | itemConsumed
  | itemEquipped
  | itemUnequipped
  | itemTransformed
  | itemUpdated
  | itemDamaged
  | itemRepaired
  | itemDiscarded
  | itemLost
  | specialItemGenerate
  | realmUpdate
  | companion
  | relationshipChanged
  | questAssigned
  | questUpdated
  | questObjectiveCompleted
  | defineRealmSystem
  deriving DecidableEq, Inhabited

namespace TagKind

/-- The name of a kind, as the narrator writes it. -/
def name : TagKind → String
  | .timeElapsed => "TIME_ELAPSED"
  | .chronicleTurn => "CHRONICLE_TURN"
  | .chronicleChapter => "CHRONICLE_CHAPTER"
  | .chronicleMemoir => "CHRONICLE_MEMOIR"
  | .statusAppliedSelf => "STATUS_APPLIED_SELF"
  | .statusAppliedNpc => "STATUS_APPLIED_NPC"
  | .statusCuredSelf => "STATUS_CURED_SELF"
  | .statusCuredNpc => "STATUS_CURED_NPC"
  | .lorePc => "LORE_PC"
  | .loreNpc => "LORE_NPC"
  | .loreItem => "LORE_ITEM"
  | .loreLocation => "LORE_LOCATION"
  | .loreFaction => "LORE_FACTION"
  | .loreConcept => "LORE_CONCEPT"
  | .loreSkill => "LORE_SKILL"
  | .skillExpReward => "SKILL_EXP_REWARD"
  | .skillExpGain => "SKILL_EXP_GAIN"
  | .skillBreakthrough => "SKILL_BREAKTHROUGH"
  | .skillBreakthroughRoll => "SKILL_BREAKTHROUGH_ROLL"
  | .skillLearned => "SKILL_LEARNED"
  | .skillUpdate => "SKILL_UPDATE"
  | .entityUpdate => "ENTITY_UPDATE"
  | .itemAcquired => "ITEM_AQUIRED"
  | .itemConsumed => "ITEM_CONSUMED"
  | .itemEquipped => "ITEM_EQUIPPED"
  | .itemUnequipped => "ITEM_UNEQUIPPED"
  | .itemTransformed => "ITEM_TRANSFORMED"
  | .itemUpdated => "ITEM_UPDATED"
  | .itemDamaged => "ITEM_DAMAGED"
  | .itemRepaired => "ITEM_REPAIRED"
  | .itemDiscarded => "ITEM_DISCARDED"
  | .itemLost => "ITEM_LOST"
  | .specialItemGenerate => "SPECIAL_ITEM_GENERATE"
  | .realmUpdate => "REALM_UPDATE"
  | .companion => "COMPANION"
  | .relationshipChanged => "RELATIONSHIP_CHANGED"
  | .questAssigned => "QUEST_ASSIGNED"
  | .questUpdated => "QUEST_UPDATED"
  | .questObjectiveCompleted => "QUEST_OBJECTIVE_COMPLETED"
  | .defineRealmSystem => "DEFINE_REALM_SYSTEM"

def all : List TagKind :=
  [.timeElapsed, .chronicleTurn, .chronicleChapter, .chronicleMemoir, .statusAppliedSelf,
    .statusAppliedNpc, .statusCuredSelf, .statusCuredNpc, .lorePc, .loreNpc, .loreItem,
    .loreLocation, .loreFaction, .loreConcept, .loreSkill, .skillExpReward, .skillExpGain,
    .skillBreakthrough, .skillBreakthroughRoll, .skillLearned, .skillUpdate, .entityUpdate,
    .itemAcquired, .itemConsumed, .itemEquipped, .itemUnequipped, .itemTransformed, .itemUpdated,
    .itemDamaged, .itemRepaired, .itemDiscarded, .itemLost, .specialItemGenerate, .realmUpdate,
    .companion, .relationshipChanged, .questAssigned, .questUpdated, .questObjectiveCompleted,
    .defineRealmSystem]

def ofName? (s : String) : Option TagKind := all.find? (·.name = s)

end TagKind

end Gamebook
