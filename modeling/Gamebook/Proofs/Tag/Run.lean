import Gamebook.Proofs.Skill.Synchronization
import Gamebook.Proofs.Tag.Definition
import Gamebook.Proofs.Tag.Inventory
import Gamebook.Proofs.Tag.Learning
import Gamebook.Proofs.Tag.Update
import Gamebook.Tag.Interpretation

/-!
A narrative tag by tag. Each tag is played on the state that the ones before have left, and what
every tag keeps of a state, the whole narrative keeps.
-/

namespace Gamebook

open Play (Yields yields_pure)
open Skill (Settled)

theorem TagKind.play_recasts {kind : TagKind} {attrs : Fields} {c : Scene} {p : Played}
    (h : c.state.WellKeyed) (distinct : attrs.keys.Nodup) (y : Yields (kind.play attrs c) p) :
    Recasts kind attrs c.state p.scene.state := by
  cases kind with
  | timeElapsed => exact .retold (Scene.passTime_rewords y).retold
  | chronicleTurn => exact .retold (Scene.chronicleTurn_rewords y).retold
  | chronicleChapter => exact yields_pure.mp y ▸ .retold Scene.chronicleChapter_rewords.retold
  | chronicleMemoir => exact yields_pure.mp y ▸ .retold Scene.chronicleMemoir_rewords.retold
  | statusAppliedSelf => exact .retold (Scene.applyStatus_rewords y).retold
  | statusAppliedNpc => exact .retold (Scene.applyStatus_rewords y).retold
  | statusCuredSelf => exact yields_pure.mp y ▸ .retold Scene.cureStatus_rewords.retold
  | statusCuredNpc => exact yields_pure.mp y ▸ .retold Scene.cureStatus_rewords.retold
  | lorePc => exact Scene.describePlayer_recasts h distinct y
  | loreNpc => exact Scene.describe_recasts rfl rfl (by decide) h distinct y
  | loreItem => exact Scene.define_recasts rfl (.inl rfl) (by decide) rfl y
  | loreLocation => exact Scene.describePlace_recasts h distinct y
  | loreFaction => exact Scene.define_recasts rfl (.inl rfl) (by decide) rfl y
  | loreConcept => exact Scene.define_recasts rfl (.inl rfl) (by decide) rfl y
  | loreSkill => exact Scene.defineSkill_recasts y
  | skillExpReward => exact .retold (Scene.rewardSkills_drilled h y).reworded.retold
  | skillExpGain => exact .retold (Scene.gainSkillExp_drilled h y).reworded.retold
  | skillBreakthrough => exact .retold (Scene.breakThrough_drilled h y).reworded.retold
  | skillBreakthroughRoll => exact .retold (Scene.rollForSkills_drilled h y).reworded.retold
  | skillLearned => exact Scene.learn_recasts h distinct y
  | skillUpdate => exact Scene.changeSkill_recasts y
  | entityUpdate => exact Scene.updateEntity_recasts h distinct y
  | itemAcquired => exact Scene.acquire_recasts h distinct y
  | itemConsumed => exact Scene.consume_recasts h y
  | itemEquipped => exact .retold (Scene.equip_rewords h y).retold
  | itemUnequipped => exact .retold (Scene.unequip_rewords h y).retold
  | itemTransformed => exact Scene.transform_recasts y
  | itemUpdated => exact Scene.updateItem_recasts h distinct y
  | itemDamaged => exact .retold (Scene.wear_rewords h y).retold
  | itemRepaired => exact .retold (Scene.wear_rewords h y).retold
  | itemDiscarded => exact Scene.lose_recasts rfl h y
  | itemLost => exact Scene.lose_recasts rfl h y
  | specialItemGenerate => exact .retold (Scene.requestSpecialItem_rewords y).retold
  | realmUpdate => exact .retold (Scene.updateRealm_rewords h y).retold
  | companion => exact Scene.addCompanion_recasts y
  | relationshipChanged => exact .retold (Scene.changeRelationship_rewords h y).retold
  | questAssigned => exact .retold (Scene.assignQuest_rewords y).retold
  | questUpdated => exact .retold (Scene.updateQuest_rewords h y).retold
  | questObjectiveCompleted => exact .retold (Scene.completeQuestObjective_rewords h y).retold
  | defineRealmSystem => exact yields_pure.mp y ▸ .retold .refl

theorem Defines.wellKeyed {attrs : Fields} {name : String} {s r : GameState}
    (defined : Defines attrs name s r) (h : s.WellKeyed) : r.WellKeyed := by
  obtain rfl | ⟨e, -, -, -, rfl⟩ := defined
  · exact h
  · exact h.put e

/-- Whatever a tag does to the cast, the known entities stay under their own names. -/
theorem Recasts.wellKeyed {kind : TagKind} {attrs : Fields} {s t : GameState}
    (step : Recasts kind attrs s t) (h : s.WellKeyed) : t.WellKeyed := by
  cases step with
  | retold rest => exact rest.wellKeyed h
  | introduced named kinded rest => exact rest.wellKeyed (h.put _)
  | superseded found skill named kinded rest =>
    exact rest.wellKeyed (((h.replaceReferences _ _ none).forget _).put _)
  | joined named kinded companion => exact h.putKnown _
  | forgotten found item => exact h.forget _
  | transformed tag source target item => exact (h.forget _).put _
  | succeeded tag source target apart defined rest dropped =>
    have reached := rest.wellKeyed (defined.wellKeyed h)
    split_ifs
    · exact reached.forget _
    · exact reached
  | updated tag found asked named kinded rest => exact rest.wellKeyed (h.put _)
  | renamed tag found asked named apart kinded rest => exact rest.wellKeyed (h.rename _ _)
  | playerIntroduced tag absent named kinded rest => exact rest.wellKeyed (h.putKnown _)
  | playerDescribed tag present named kinded rest =>
    exact rest.wellKeyed (Scene.storePlayer_wellKeyed h _ _)

namespace Progress

variable {rules : List Rule} {acc : Progress × Draws} {t : Tag} {tags : List Tag}

/-- The tags with the states that they are played on. -/
def stages (rules : List Rule) : List Tag → Progress × Draws → List (Tag × GameState)
  | [], _ => []
  | t :: rest, acc => (t, acc.1.state) :: stages rules rest (playTag rules acc t)

theorem stages_tag {stage : Tag × GameState} (member : stage ∈ stages rules tags acc) :
    stage.1 ∈ tags := by
  induction tags generalizing acc with
  | nil => exact nomatch member
  | cons tag tags ih =>
    rcases List.mem_cons.mp member with rfl | later
    · exact List.mem_cons_self
    · exact List.mem_cons_of_mem tag (ih later)

/-- A tag that has an effect is of a known kind and does what such a tag can do. -/
theorem playTag_recasts (h : acc.1.state.WellKeyed) :
    (playTag rules acc t).1.state = acc.1.state ∨ ∃ kind, t.kind? = some kind ∧
      Recasts kind (Attribute.parse t.body) acc.1.state (playTag rules acc t).1.state := by
  obtain ⟨p, d⟩ := acc
  rw [playTag]
  dsimp only
  split
  · exact .inl rfl
  · exact .inl rfl
  · rename_i kind _ known
    split
    · exact .inl rfl
    · rw [playKind]
      split
      · rename_i played d' ok
        refine .inr ⟨kind, known, ?_⟩
        exact TagKind.play_recasts (c := { state := p.state, rules }) h
          (Keyed.nodup_ofPairs _) ⟨d, d', ok⟩
      · exact .inl rfl

/-- What every tag keeps on the state that it is played on, all of them keep. -/
theorem foldl_playTag_preserves {P : GameState → Prop} (keyed : ∀ s, P s → s.WellKeyed)
    (step : ∀ stage ∈ stages rules tags acc, ∀ kind t, stage.1.kind? = some kind → P stage.2 →
      Recasts kind (Attribute.parse stage.1.body) stage.2 t → P t)
    (h : P acc.1.state) : P (tags.foldl (playTag rules) acc).1.state := by
  induction tags generalizing acc with
  | nil => exact h
  | cons tag tags ih =>
    refine ih (fun stage member => step stage (List.mem_cons_of_mem _ member)) ?_
    have played : (playTag rules acc tag).1.state = acc.1.state ∨ _ := playTag_recasts (keyed _ h)
    rcases played with same | ⟨kind, known, change⟩
    · rw [same]
      exact h
    · exact step _ List.mem_cons_self kind _ known h change

theorem settled_gives {p : Progress} (h : p.state.WellKeyed) :
    Play.Gives p.settled fun done => Settled p.state done.state := by
  rw [settled]
  split_ifs
  · exact Play.gives_pure .refl
  · exact (Skill.synchronize_gives h).bind fun done run => Play.gives_pure run

end Progress

/-- The tags of a narrative with the states that they are played on. -/
def stagesOf (rules : List Rule) (text : String) (s : GameState) (d : Draws) :
    List (Tag × GameState) :=
  Progress.stages rules (Tag.find text) ({ state := s }, d)

/-- Interpretation of a narrative gives a result, which keeps what every tag keeps and
synchronization does. -/
theorem interpret_preserves {P : GameState → Prop} {rules : List Rule} {text : String}
    {s : GameState} {d : Draws} (keyed : ∀ s, P s → s.WellKeyed)
    (step : ∀ stage ∈ stagesOf rules text s d, ∀ kind t, stage.1.kind? = some kind → P stage.2 →
      Recasts kind (Attribute.parse stage.1.body) stage.2 t → P t)
    (settle : ∀ s t, P s → Settled s t → P t) (h : P s) :
    ∃ i d', interpret rules text s d = (.ok i, d') ∧ P i.state := by
  have played : P (Progress.playAll rules (Tag.find text) s d).1.state :=
    Progress.foldl_playTag_preserves keyed step h
  rw [interpret]
  generalize Progress.playAll rules (Tag.find text) s d = reached at played
  obtain ⟨p, d₁⟩ := reached
  obtain ⟨done, d', ok, run⟩ := Progress.settled_gives (keyed _ played) d₁
  dsimp only at ok ⊢
  rw [ok]
  exact ⟨_, d', rfl, settle _ _ played run⟩

end Gamebook
