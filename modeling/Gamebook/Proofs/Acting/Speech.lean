import Gamebook.Proofs.Outcome
import Gamebook.Proofs.Play
import Gamebook.Tag.Interpretation

/-!
What tags append to the text that is shown. Only the request for special items appends anything, so
without such a request a narrative is shown as it is previewed.
-/

namespace Gamebook

open Play (Yields yields_pure yields_ofOutcome)

namespace Scene

variable {c next : Scene} {attrs : Fields} {e : Entity}

/-- Whether whatever a play may give appends nothing to what a scene shows. -/
def Mute (c : Scene) (x : Play Played) : Prop :=
  ∀ p, Yields x p → p.scene.appended = c.appended

theorem Mute.pure {p : Played} (same : p.scene.appended = c.appended) : c.Mute (pure p) := by
  intro q y
  obtain rfl := yields_pure.mp y
  exact same

theorem Mute.kept : c.Mute (Pure.pure c.kept) := .pure rfl

theorem Mute.bind {α : Type} {x : Play α} {f : α → Play Played}
    (rest : ∀ a, Yields x a → c.Mute (f a)) : c.Mute (x >>= f) := by
  intro p y
  obtain ⟨a, first, later⟩ := y.bind
  exact rest a first p later

/-! ### Passage and practice -/

theorem passTime_mute : c.Mute (c.passTime attrs) :=
  .bind fun _ _ => .bind fun _ _ => .pure rfl

theorem chronicleTurn_mute : c.Mute (c.chronicleTurn attrs) := by
  rw [chronicleTurn]
  split
  · exact .kept
  · exact .bind fun _ _ => .bind fun _ _ => .bind fun _ _ => .pure rfl

theorem chronicleChapter_mute : c.Mute (pure (c.chronicleChapter attrs)) := by
  rw [chronicleChapter]
  split <;> exact .pure rfl

theorem chronicleMemoir_mute : c.Mute (pure (c.chronicleMemoir attrs)) := by
  rw [chronicleMemoir]
  split <;> exact .pure rfl

theorem applyStatus_mute {owner : Option String} : c.Mute (c.applyStatus owner attrs) := by
  unfold applyStatus
  split
  · exact .bind fun _ _ => .pure rfl
  · exact .kept

theorem rewardSkill_appended {amount : Int} {acc next : Scene × Nat} {name : String}
    (ok : rewardSkill amount acc name = .ok next) : next.1.appended = acc.1.appended := by
  rw [rewardSkill] at ok
  split at ok
  · cases ok
    rfl
  · obtain ⟨gain, -, ok⟩ := Outcome.bind_eq_ok.mp ok
    obtain rfl := Outcome.pure_eq_ok.mp ok
    rfl

theorem rewards_appended {amount : Int} {names : List String} {acc next : Scene × Nat}
    (ok : names.foldlM (rewardSkill amount) acc = .ok next) :
    next.1.appended = acc.1.appended := by
  induction names generalizing acc with
  | nil =>
    cases ok
    rfl
  | cons name names ih =>
    obtain ⟨mid, first, rest⟩ := Outcome.bind_eq_ok.mp ok
    exact (ih rest).trans (rewardSkill_appended first)

theorem rewardSkills_mute : c.Mute (c.rewardSkills attrs) := by
  refine .bind fun amount _ => ?_
  split_ifs
  · exact .kept
  split
  · exact .kept
  · exact .bind fun acc granted => .pure (rewards_appended (yields_ofOutcome.mp granted))

theorem gainSkillExp_mute : c.Mute (c.gainSkillExp attrs) := by
  refine .bind fun amount _ => ?_
  split_ifs
  · exact .kept
  split
  · exact .kept
  · exact .bind fun _ _ => .pure rfl

theorem breakThrough_mute : c.Mute (c.breakThrough attrs) := by
  rw [breakThrough]
  split
  · exact .kept
  split
  · exact .kept
  refine .bind fun _ _ => .bind fun _ _ => .pure ?_
  split_ifs <;> rfl

theorem puts_appended (es : List Entity) : (es.foldl Scene.put c).appended = c.appended := by
  induction es generalizing c with
  | nil => rfl
  | cons e es ih => exact ih.trans rfl

theorem rollForSkills_mute : c.Mute c.rollForSkills :=
  .bind fun rolled _ => .pure (puts_appended rolled)

/-! ### Definitions -/

theorem define_mute {kind : EntityKind} : c.Mute (c.define kind attrs) := by
  rw [define]
  split
  · exact .kept
  · exact .bind fun _ _ => .bind fun _ _ => .pure rfl

theorem describe_mute {kind : EntityKind} : c.Mute (c.describe kind attrs) := by
  rw [describe]
  split
  · exact .kept
  · exact .bind fun _ _ => .pure rfl

theorem describePlace_mute : c.Mute (c.describePlace attrs) := by
  rw [describePlace]
  split
  · exact .kept
  split_ifs <;> exact .bind fun _ _ => .pure rfl

theorem defineSkill_mute : c.Mute (c.defineSkill attrs) := by
  rw [defineSkill]
  split
  · exact .kept
  · exact define_mute

theorem describePlayer_mute : c.Mute (c.describePlayer attrs) := by
  rw [describePlayer]
  split
  · rw [introducePlayer]
    split
    · exact .kept
    · exact .bind fun _ _ => .bind fun _ _ => .pure rfl
  · exact .bind fun _ _ => .bind fun _ _ => .pure rfl

/-! ### Learning -/

theorem resolveLearner_appended (learner : Option String) (name description : String) :
    (c.resolveLearner learner name description).2.appended = c.appended := by
  unfold resolveLearner
  dsimp only
  split
  · split_ifs <;> rfl
  · split <;> rfl

theorem teach_appended (learner : Option String) (name description : String) (skill : Entity) :
    (c.teach learner name description skill).appended = c.appended := by
  have same := resolveLearner_appended (c := c) learner name description
  rw [teach]
  split
  rename_i holder next resolved
  rw [resolved] at same
  split <;> exact same

theorem makeWay?_appended {name : String} (way : c.makeWay? name = some next) :
    next.appended = c.appended := by
  rw [makeWay?] at way
  split at way
  · exact Option.some.inj way ▸ rfl
  · split_ifs at way <;> exact Option.some.inj way ▸ rfl

theorem learn_mute : c.Mute (c.learn attrs) := by
  unfold learn
  split
  · dsimp only
    split
    · exact .bind fun _ _ => .bind fun skill _ => .pure (teach_appended ..)
    split
    · exact .kept
    · rename_i cleared way
      have before : cleared.appended = c.appended := makeWay?_appended way
      exact .bind fun _ _ => .bind fun skill _ => .pure ((teach_appended ..).trans before)
  · exact .kept

theorem defineSuccessor_appended {new : String} (y : Yields (c.defineSuccessor attrs new) next) :
    next.appended = c.appended := by
  rw [defineSuccessor] at y
  split at y
  · obtain rfl := yields_pure.mp y
    rfl
  · obtain ⟨id, -, y⟩ := y.bind
    obtain ⟨skill, -, y⟩ := y.bind
    obtain rfl := yields_pure.mp y
    rfl

theorem changeSkill_mute : c.Mute (c.changeSkill attrs) := by
  unfold changeSkill
  split
  · split_ifs
    · exact .kept
    · refine .bind fun defined succeeds => ?_
      have before : defined.appended = c.appended := defineSuccessor_appended succeeds
      dsimp only
      split_ifs <;> exact .pure before
  · exact .kept

/-! ### Updates -/

theorem updateEntity_mute : c.Mute (c.updateEntity attrs) := by
  rw [updateEntity]
  dsimp only
  split
  · exact .kept
  · refine .bind fun _ _ => ?_
    split <;> exact .bind fun _ _ => .pure rfl

theorem updateRealm_mute : c.Mute (c.updateRealm attrs) := by
  rw [updateRealm]
  split
  · split <;> exact .pure rfl
  · exact .kept

theorem addCompanion_mute : c.Mute (c.addCompanion attrs) := by
  unfold addCompanion
  split
  · refine .bind fun _ _ => .bind fun _ _ => ?_
    dsimp only
    split <;> exact .pure rfl
  · exact .kept

theorem changeRelationship_mute : c.Mute (c.changeRelationship attrs) := by
  rw [changeRelationship]
  split
  · exact .kept
  · dsimp only
    split <;> exact .pure rfl

/-! ### The inventory -/

theorem acquire_mute : c.Mute (c.acquire attrs) := by
  rw [acquire]
  split
  · exact .kept
  dsimp only
  split <;> exact .bind fun _ _ => .bind fun _ _ => .pure rfl

theorem consume_mute : c.Mute (c.consume attrs) := by
  rw [consume]
  split
  · exact .kept
  refine .bind fun _ _ => ?_
  split
  · exact .pure rfl
  split_ifs
  · exact .pure rfl
  · exact .bind fun _ _ => .pure rfl

theorem equip_mute : c.Mute (c.equip attrs) := by
  rw [equip]
  split <;> exact .pure rfl

theorem unequip_mute : c.Mute (c.unequip attrs) := by
  rw [unequip]
  split <;> exact .pure rfl

theorem transform_mute : c.Mute (c.transform attrs) := by
  unfold transform
  split
  · exact .bind fun _ _ => .bind fun _ _ => .pure rfl
  · exact .kept

theorem updateItem_mute : c.Mute (c.updateItem attrs) := by
  rw [updateItem]
  split
  · exact .kept
  · exact .bind fun _ _ => .pure rfl

theorem wear_mute {effect : Number → Outcome Number} : c.Mute (c.wear effect attrs) := by
  rw [wear]
  split
  · exact .kept
  split
  · exact .kept
  · exact .bind fun _ _ => .pure rfl

theorem lose_mute : c.Mute (c.lose attrs) := by
  rw [lose]
  split <;> exact .pure rfl

/-! ### Quests -/

theorem completeQuest_appended {q : Quest} (ok : c.completeQuest q = .ok next) :
    next.appended = c.appended := by
  rw [completeQuest] at ok
  split_ifs at ok
  · cases ok
    rfl
  rw [payReward] at ok
  split at ok
  · cases ok
    rfl
  obtain ⟨reward, -, ok⟩ := Outcome.bind_eq_ok.mp ok
  split at ok
  · cases ok
    rfl
  · obtain ⟨total, -, ok⟩ := Outcome.bind_eq_ok.mp ok
    obtain rfl := Outcome.pure_eq_ok.mp ok
    rfl

theorem assignQuest_mute : c.Mute (c.assignQuest attrs) := by
  rw [assignQuest]
  split <;> exact .pure rfl

theorem updateQuest_mute : c.Mute (c.updateQuest attrs) := by
  unfold updateQuest
  split
  · split
    · exact .kept
    · exact .bind fun _ done => .pure (completeQuest_appended (yields_ofOutcome.mp done))
    · exact .pure rfl
  · exact .kept

theorem completeQuestObjective_mute : c.Mute (c.completeQuestObjective attrs) := by
  unfold completeQuestObjective
  split
  · split
    · exact .kept
    split_ifs
    · exact .bind fun _ done => .pure (completeQuest_appended (yields_ofOutcome.mp done))
    · exact .pure rfl
  · exact .kept

end Scene

theorem TagKind.play_mute {kind : TagKind} {attrs : Fields} {c : Scene}
    (plain : kind ≠ .specialItemGenerate) : c.Mute (kind.play attrs c) := by
  cases kind with
  | timeElapsed => exact Scene.passTime_mute
  | chronicleTurn => exact Scene.chronicleTurn_mute
  | chronicleChapter => exact Scene.chronicleChapter_mute
  | chronicleMemoir => exact Scene.chronicleMemoir_mute
  | statusAppliedSelf => exact Scene.applyStatus_mute
  | statusAppliedNpc => exact Scene.applyStatus_mute
  | statusCuredSelf => exact .pure rfl
  | statusCuredNpc => exact .pure rfl
  | lorePc => exact Scene.describePlayer_mute
  | loreNpc => exact Scene.describe_mute
  | loreItem => exact Scene.define_mute
  | loreLocation => exact Scene.describePlace_mute
  | loreFaction => exact Scene.define_mute
  | loreConcept => exact Scene.define_mute
  | loreSkill => exact Scene.defineSkill_mute
  | skillExpReward => exact Scene.rewardSkills_mute
  | skillExpGain => exact Scene.gainSkillExp_mute
  | skillBreakthrough => exact Scene.breakThrough_mute
  | skillBreakthroughRoll => exact Scene.rollForSkills_mute
  | skillLearned => exact Scene.learn_mute
  | skillUpdate => exact Scene.changeSkill_mute
  | entityUpdate => exact Scene.updateEntity_mute
  | itemAcquired => exact Scene.acquire_mute
  | itemConsumed => exact Scene.consume_mute
  | itemEquipped => exact Scene.equip_mute
  | itemUnequipped => exact Scene.unequip_mute
  | itemTransformed => exact Scene.transform_mute
  | itemUpdated => exact Scene.updateItem_mute
  | itemDamaged => exact Scene.wear_mute
  | itemRepaired => exact Scene.wear_mute
  | itemDiscarded => exact Scene.lose_mute
  | itemLost => exact Scene.lose_mute
  | specialItemGenerate => exact absurd rfl plain
  | realmUpdate => exact Scene.updateRealm_mute
  | companion => exact Scene.addCompanion_mute
  | relationshipChanged => exact Scene.changeRelationship_mute
  | questAssigned => exact Scene.assignQuest_mute
  | questUpdated => exact Scene.updateQuest_mute
  | questObjectiveCompleted => exact Scene.completeQuestObjective_mute
  | defineRealmSystem => exact .kept

namespace Progress

variable {rules : List Rule} {acc : Progress × Draws} {t : Tag} {tags : List Tag}

/-- A tag appends nothing, unless it asks for special items and has attributes. -/
theorem playTag_appended
    (plain : t.kind? = some .specialItemGenerate → Attribute.parse t.body = []) :
    (playTag rules acc t).1.appended = acc.1.appended := by
  obtain ⟨p, d⟩ := acc
  rw [playTag]
  dsimp only
  split
  · rfl
  · rfl
  · rename_i kind _ known
    split
    · rfl
    · rename_i told
      have ordinary : kind ≠ .specialItemGenerate := fun special => told (plain (special ▸ known))
      rw [playKind]
      split
      · rename_i played d' ok
        have mute : played.scene.appended = [] := TagKind.play_mute ordinary played ⟨d, d', ok⟩
        change p.appended ++ played.scene.appended = p.appended
        rw [mute, List.append_nil]
      · rfl

theorem foldl_playTag_appended
    (plain : ∀ t ∈ tags, t.kind? = some .specialItemGenerate → Attribute.parse t.body = []) :
    (tags.foldl (playTag rules) acc).1.appended = acc.1.appended := by
  induction tags generalizing acc with
  | nil => rfl
  | cons tag tags ih =>
    obtain ⟨first, rest⟩ := List.forall_mem_cons.mp plain
    exact (ih rest).trans (playTag_appended first)

theorem settled_appended {p q : Progress} (y : Yields p.settled q) : q.appended = p.appended := by
  rw [settled] at y
  split_ifs at y
  · obtain rfl := yields_pure.mp y
    rfl
  · obtain ⟨done, -, y⟩ := y.bind
    obtain rfl := yields_pure.mp y
    rfl

end Progress

/-- Without a request for special items that has attributes, a narrative is shown as it is previewed. -/
theorem interpret_shown {rules : List Rule} {text : String} {s : GameState} {d d' : Draws}
    {i : Interpretation}
    (plain : ∀ t ∈ Tag.find text, t.kind? = some .specialItemGenerate → Attribute.parse t.body = [])
    (ok : interpret rules text s d = (.ok i, d')) :
    i.displayText = (preview text s).displayText := by
  have appended : (Progress.playAll rules (Tag.find text) s d).1.appended = [] :=
    Progress.foldl_playTag_appended plain
  rw [interpret] at ok
  generalize Progress.playAll rules (Tag.find text) s d = reached at ok appended
  obtain ⟨p, d₁⟩ := reached
  dsimp only at ok appended
  rcases settled : p.settled d₁ with ⟨e | q, d₂⟩
  · rw [settled] at ok
    cases ok
  rw [settled] at ok
  obtain rfl := Except.ok.inj (Prod.mk.inj ok).1
  have none : q.appended = [] := (Progress.settled_appended ⟨d₁, d₂, settled⟩).trans appended
  rw [none, preview]

/-- Without a request for special items, a narrative is shown as it is previewed. -/
theorem interpret_displayText {rules : List Rule} {text : String} {s : GameState} {d d' : Draws}
    {i : Interpretation} (plain : ∀ t ∈ Tag.find text, t.kind? ≠ some .specialItemGenerate)
    (ok : interpret rules text s d = (.ok i, d')) :
    i.displayText = (preview text s).displayText :=
  interpret_shown (fun t member special => absurd special (plain t member)) ok

end Gamebook
