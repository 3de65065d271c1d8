import Gamebook.Proofs.Acting.Course
import Gamebook.Proofs.Acting.Player
import Gamebook.Proofs.Tag.Run

/-!
A narrative by what its tags touch and report. What every tag keeps of the state and the applied tags
so far, playing all of them keeps; the result of an interpretation is the state that the tags leave,
synchronized if any of them was applied.
-/

namespace Gamebook

open Play (Yields yields_pure)

variable {rules : List Rule} {text : String} {s : GameState} {d d' : Draws} {i : Interpretation}

theorem TagKind.play_acts {kind : TagKind} {attrs : Fields} {c : Scene} {p : Played}
    (distinct : attrs.keys.Nodup) (y : Yields (kind.play attrs c) p) : Acts kind attrs c p := by
  cases kind with
  | timeElapsed => exact Scene.passTime_acts y
  | chronicleTurn => exact Scene.chronicleTurn_acts y
  | chronicleChapter => exact yields_pure.mp y ▸ Scene.chronicleChapter_acts
  | chronicleMemoir => exact yields_pure.mp y ▸ Scene.chronicleMemoir_acts
  | statusAppliedSelf => exact Scene.applyStatus_acts (by decide) y
  | statusAppliedNpc => exact Scene.applyStatus_acts (by decide) y
  | statusCuredSelf => exact yields_pure.mp y ▸ Scene.cureStatus_acts (by decide)
  | statusCuredNpc => exact yields_pure.mp y ▸ Scene.cureStatus_acts (by decide)
  | lorePc => exact Scene.describePlayer_acts y
  | loreNpc => exact Scene.describe_acts (by decide) distinct y
  | loreItem => exact Scene.define_acts (by decide) y
  | loreLocation => exact Scene.describePlace_acts distinct y
  | loreFaction => exact Scene.define_acts (by decide) y
  | loreConcept => exact Scene.define_acts (by decide) y
  | loreSkill => exact Scene.defineSkill_acts y
  | skillExpReward => exact Scene.rewardSkills_acts y
  | skillExpGain => exact Scene.gainSkillExp_acts y
  | skillBreakthrough => exact Scene.breakThrough_acts y
  | skillBreakthroughRoll => exact Scene.rollForSkills_acts y
  | skillLearned => exact Scene.learn_acts distinct y
  | skillUpdate => exact Scene.changeSkill_acts y
  | entityUpdate => exact Scene.updateEntity_acts distinct y
  | itemAcquired => exact Scene.acquire_acts distinct y
  | itemConsumed => exact Scene.consume_acts y
  | itemEquipped => exact Scene.equip_acts y
  | itemUnequipped => exact Scene.unequip_acts y
  | itemTransformed => exact Scene.transform_acts y
  | itemUpdated => exact Scene.updateItem_acts distinct y
  | itemDamaged => exact Scene.wear_acts y
  | itemRepaired => exact Scene.wear_acts y
  | itemDiscarded => exact Scene.lose_acts y
  | itemLost => exact Scene.lose_acts y
  | specialItemGenerate => exact Scene.requestSpecialItem_acts y
  | realmUpdate => exact Scene.updateRealm_acts y
  | companion => exact Scene.addCompanion_acts y
  | relationshipChanged => exact Scene.changeRelationship_acts y
  | questAssigned => exact Scene.assignQuest_acts (by decide) y
  | questUpdated => exact Scene.updateQuest_acts (by decide) y
  | questObjectiveCompleted => exact Scene.completeQuestObjective_acts (by decide) y
  | defineRealmSystem => exact yields_pure.mp y ▸ .kept

namespace Progress

variable {acc : Progress × Draws} {t : Tag} {tags : List Tag}

/-- A tag is passed over, or it is of a known kind and has been played. -/
theorem playTag_cases (rules : List Rule) (acc : Progress × Draws) (t : Tag) :
    (playTag rules acc t).1.state = acc.1.state ∧ (playTag rules acc t).1.applied = acc.1.applied ∨
      ∃ kind p, t.kind? = some kind ∧
        Yields (kind.play (Attribute.parse t.body) { state := acc.1.state, rules }) p ∧
        (playTag rules acc t).1.state = p.scene.state ∧
        (playTag rules acc t).1.applied =
          if p.changed then acc.1.applied ++ [t.raw] else acc.1.applied := by
  obtain ⟨progress, d⟩ := acc
  rw [playTag]
  dsimp only
  split
  · exact .inl ⟨rfl, rfl⟩
  · exact .inl ⟨rfl, rfl⟩
  · rename_i kind _ known
    split
    · exact .inl ⟨rfl, rfl⟩
    · rw [playKind]
      split
      · rename_i p d' ok
        exact .inr ⟨kind, p, known, ⟨d, d', ok⟩, rfl, rfl⟩
      · exact .inl ⟨rfl, rfl⟩

/-- What every tag keeps of the state that it is played on and of the tags applied by then, all of
them keep. -/
theorem foldl_playTag_keeps {P : GameState → List String → Prop}
    (step : ∀ stage ∈ stages rules tags acc, ∀ kind p, stage.1.kind? = some kind →
      Yields (kind.play (Attribute.parse stage.1.body) { state := stage.2, rules }) p →
      ∀ applied, P stage.2 applied →
        P p.scene.state (if p.changed then applied ++ [stage.1.raw] else applied))
    (h : P acc.1.state acc.1.applied) :
    P (tags.foldl (playTag rules) acc).1.state (tags.foldl (playTag rules) acc).1.applied := by
  induction tags generalizing acc with
  | nil => exact h
  | cons tag tags ih =>
    refine ih (fun stage member => step stage (List.mem_cons_of_mem _ member)) ?_
    rcases playTag_cases rules acc tag with ⟨state, applied⟩ | ⟨kind, p, known, y, state, applied⟩
    · rw [state, applied]
      exact h
    · rw [state, applied]
      exact step _ List.mem_cons_self kind p known y _ h

end Progress

/-- On well-keyed states interpretation gives a result. -/
theorem interpret_gives (keyed : s.WellKeyed) (rules : List Rule) (text : String) (d : Draws) :
    ∃ i d', interpret rules text s d = (.ok i, d') := by
  have given : ∃ i d', interpret rules text s d = (.ok i, d') ∧ i.state.WellKeyed :=
    interpret_preserves (fun _ keyed => keyed)
      (fun _ _ _ _ _ keyed change => change.wellKeyed keyed)
      (fun _ _ keyed run => run.wellKeyed keyed) keyed
  obtain ⟨i, d', ok, -⟩ := given
  exact ⟨i, d', ok⟩

/-- An interpretation has the state that its tags leave, synchronized if any was applied. -/
theorem interpret_ok (ok : interpret rules text s d = (.ok i, d')) :
    ∃ p : Progress, (∃ d₁, Progress.playAll rules (Tag.find text) s d = (p, d₁)) ∧
      i.applied = p.applied ∧ (p.applied = [] → i.state = p.state) ∧
      (p.applied ≠ [] → ∃ done, Yields (Skill.synchronize p.state) done ∧ i.state = done.1) := by
  rw [interpret] at ok
  generalize Progress.playAll rules (Tag.find text) s d = reached at ok
  obtain ⟨p, d₁⟩ := reached
  refine ⟨p, ⟨d₁, rfl⟩, ?_⟩
  dsimp only at ok
  rcases settled : p.settled d₁ with ⟨e | q, d₂⟩
  · rw [settled] at ok
    cases ok
  rw [settled] at ok
  obtain rfl := Except.ok.inj (Prod.mk.inj ok).1
  have settles : Yields p.settled q := ⟨d₁, d₂, settled⟩
  rw [Progress.settled] at settles
  split_ifs at settles with none
  · obtain rfl := yields_pure.mp settles
    exact ⟨rfl, fun _ => rfl, fun some => absurd (List.isEmpty_iff.mp none) some⟩
  · obtain ⟨done, synchronized, settles⟩ := settles.bind
    obtain rfl := yields_pure.mp settles
    exact ⟨rfl, fun empty => absurd (List.isEmpty_iff.mpr empty) none,
      fun _ => ⟨done, synchronized, rfl⟩⟩

/-- An interpretation keeps what every tag keeps on the state that it is played on, and what
synchronization keeps of the state that the tags leave. -/
theorem interpret_keeps {P : GameState → List String → Prop} {Q : GameState → Prop}
    (step : ∀ stage ∈ stagesOf rules text s d, ∀ kind p, stage.1.kind? = some kind →
      Yields (kind.play (Attribute.parse stage.1.body) { state := stage.2, rules }) p →
      ∀ applied, P stage.2 applied →
        P p.scene.state (if p.changed then applied ++ [stage.1.raw] else applied))
    (still : ∀ s, P s [] → Q s)
    (settle : ∀ s applied done, P s applied → Yields (Skill.synchronize s) done → Q done.1)
    (h : P s []) (ok : interpret rules text s d = (.ok i, d')) : Q i.state := by
  obtain ⟨p, ⟨d₁, played⟩, -, kept, settled⟩ := interpret_ok ok
  have reached : P p.state p.applied := by
    have all : P (Progress.playAll rules (Tag.find text) s d).1.state
        (Progress.playAll rules (Tag.find text) s d).1.applied :=
      Progress.foldl_playTag_keeps step h
    rwa [played] at all
  by_cases none : p.applied = []
  · rw [kept none]
    exact still _ (none ▸ reached)
  · obtain ⟨done, synchronized, state⟩ := settled none
    rw [state]
    exact settle _ _ done reached synchronized

end Gamebook
