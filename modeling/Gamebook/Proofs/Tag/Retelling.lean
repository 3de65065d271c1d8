import Gamebook.Proofs.Cast.Identity
import Gamebook.Proofs.Outcome
import Gamebook.Proofs.Play
import Gamebook.Tag.Inventory
import Gamebook.Tag.Journal
import Gamebook.Tag.Passage
import Gamebook.Tag.Practice
import Gamebook.Tag.Update

/-!
Tags that leave every known entity its name, its kind and its reference id: those of what passes, of
practice and of the journal, and those that set a single field of an entity.
-/

namespace Gamebook

open Play (Yields yields_pure yields_ofOutcome)

/-- Whether two entities have the same name and the same kind. -/
structure Entity.Alike (updated e : Entity) : Prop where
  name : updated.name = e.name
  kind : updated.kind = e.kind

/-- Whether two entities are alike and have the same reference id. -/
structure Entity.Akin (updated e : Entity) : Prop extends Alike updated e where
  id : updated.id? = e.id?

theorem Entity.Akin.refl (e : Entity) : Akin e e := ⟨⟨rfl, rfl⟩, rfl⟩

open Entity (Alike Akin)

/-! ### Practice -/

namespace Skill

variable {e : Entity} {gain : Gain}

theorem prepared_akin (e : Entity) : Akin (prepared e) e := by
  rw [prepared]
  split_ifs <;> exact ⟨⟨rfl, rfl⟩, rfl⟩

theorem addExp_akin {amount : Number} (h : addExp e amount = .ok gain) : Akin gain.skill e := by
  have same := prepared_akin e
  rw [addExp] at h
  split_ifs at h
  · cases h
    exact .refl e
  dsimp only at h
  split_ifs at h
  · cases h
    exact ⟨⟨same.name, same.kind⟩, same.id⟩
  · obtain ⟨raised, -, h⟩ := Outcome.bind_eq_ok.mp h
    obtain ⟨gained, -, h⟩ := Outcome.bind_eq_ok.mp h
    cases h
    exact ⟨⟨same.name, same.kind⟩, same.id⟩

theorem breakthrough_akin (e : Entity) (roll rate : Number) :
    Akin (breakthrough e roll rate).skill e := by
  rw [breakthrough]
  cases nextMastery? (masteryOf e) masteryLadder with
  | none => exact ⟨⟨rfl, rfl⟩, rfl⟩
  | some next =>
    dsimp only
    split_ifs <;> exact ⟨⟨rfl, rfl⟩, rfl⟩

theorem attempt_akin {rate : Number} (h : Yields (attempt e rate) gain) :
    Akin gain.skill e := by
  rw [attempt] at h
  split_ifs at h
  · obtain ⟨roll, -, h⟩ := h.bind
    obtain rfl := yields_pure.mp h
    exact breakthrough_akin e roll rate
  · obtain rfl := yields_pure.mp h
    exact .refl e

theorem rollEligibility_akin {rolled : Entity} (h : Yields (rollEligibility e) rolled) :
    Akin rolled e := by
  rw [rollEligibility] at h
  split_ifs at h
  · obtain ⟨roll, -, h⟩ := h.bind
    obtain rfl := yields_pure.mp h
    split_ifs <;> exact ⟨⟨rfl, rfl⟩, rfl⟩
  · obtain rfl := yields_pure.mp h
    exact .refl e

end Skill

/-- A skill that is stored anew under the name of a known skill. -/
inductive Practises : GameState → GameState → Prop
  | store {s : GameState} {e : Entity} (known : s.kindOf? e.name = some .skill)
    (skill : e.kind = .skill) : Practises s (s.put e)

/-- Any number of such skills, one after another. -/
abbrev Practised : GameState → GameState → Prop := Relation.ReflTransGen Practises

theorem Practises.retells {s t : GameState} (step : Practises s t) : Retells s t := by
  obtain ⟨known, skill⟩ := step
  obtain ⟨old, found, kind⟩ := Option.map_eq_some_iff.mp known
  exact .put found (skill.trans kind.symm)

theorem Practised.retold {s t : GameState} (run : Practised s t) : Retold s t := by
  induction run with
  | refl => exact .refl
  | tail _ step ih => exact ih.tail step.retells

/-- A skill that is stored so with its own reference id. -/
inductive Drills : GameState → GameState → Prop
  | store {s : GameState} {e : Entity} (known : s.kindOf? e.name = some .skill)
    (skill : e.kind = .skill) (id : s.idAt? e.name = e.id?) : Drills s (s.put e)

/-- Any number of such skills, one after another. -/
abbrev Drilled : GameState → GameState → Prop := Relation.ReflTransGen Drills

theorem Drills.practises {s t : GameState} (step : Drills s t) : Practises s t := by
  cases step with
  | store known skill id => exact .store known skill

theorem Drills.rewords {s t : GameState} (step : Drills s t) : Rewords s t := by
  cases step with
  | store known skill id =>
    obtain ⟨old, found, kind⟩ := Option.map_eq_some_iff.mp known
    rw [GameState.idAt?_of_find? found] at id
    exact .put found (skill.trans kind.symm) id.symm

theorem Drilled.practised {s t : GameState} (run : Drilled s t) : Practised s t := by
  induction run with
  | refl => exact .refl
  | tail _ step ih => exact ih.tail step.practises

theorem Drilled.reworded {s t : GameState} (run : Drilled s t) : Reworded s t := by
  induction run with
  | refl => exact .refl
  | tail _ step ih => exact ih.tail step.rewords

theorem Drilled.storeAkin {s : GameState} {updated e : Entity} (found : s.find? e.name = some e)
    (skill : e.kind = .skill) (same : Akin updated e) : Drilled s (s.put updated) := by
  refine .single (.store ?_ (same.kind.trans skill) ?_)
  · rw [same.name, GameState.kindOf?_of_find? found, skill]
  · rw [same.name, GameState.idAt?_of_find? found, same.id]

theorem Retold.putAlike {s : GameState} {updated e : Entity} (found : s.find? e.name = some e)
    (h : Alike updated e) : Retold s (s.put updated) :=
  .put (h.name ▸ found) h.kind

theorem Reworded.putAkin {s : GameState} {updated e : Entity} (found : s.find? e.name = some e)
    (h : Akin updated e) : Reworded s (s.put updated) :=
  .single (.put (h.name ▸ found) h.kind h.id)

namespace Scene

variable {c : Scene} {p : Played} {attrs : Fields} {name : Option String} {e : Entity}

theorem find?_known (h : c.state.WellKeyed) (found : c.find? name = some e) :
    name = some e.name ∧ c.state.find? e.name = some e := by
  cases name with
  | none => exact nomatch found
  | some n =>
    rw [find?] at found
    split_ifs at found
    obtain rfl := h.name_eq found
    exact ⟨rfl, found⟩

theorem skill?_known (h : c.state.WellKeyed) (found : c.skill? name = some e) :
    name = some e.name ∧ c.state.find? e.name = some e ∧ e.kind = .skill := by
  obtain ⟨held, isSkill⟩ := Option.filter_eq_some_iff.mp found
  obtain ⟨named, known⟩ := find?_known h held
  exact ⟨named, known, of_decide_eq_true isSkill⟩

theorem ownedItem?_known (h : c.state.WellKeyed) (found : c.ownedItem? name = some e) :
    name = some e.name ∧ c.state.find? e.name = some e ∧ e.kind = .item := by
  obtain ⟨held, owned⟩ := Option.filter_eq_some_iff.mp found
  obtain ⟨named, known⟩ := find?_known h held
  rw [Entity.isOwnedItem, Bool.and_eq_true] at owned
  exact ⟨named, known, of_decide_eq_true owned.1⟩

theorem rewardSkill_drilled {amount : Int} {acc next : Scene × Nat} {name : String}
    (h : acc.1.state.WellKeyed) (ok : rewardSkill amount acc name = .ok next) :
    Drilled acc.1.state next.1.state := by
  rw [rewardSkill] at ok
  cases found : acc.1.skill? (some name) with
  | none =>
    rw [found] at ok
    cases ok
    exact .refl
  | some skill =>
    rw [found] at ok
    obtain ⟨gain, grown, ok⟩ := Outcome.bind_eq_ok.mp ok
    obtain rfl := Outcome.pure_eq_ok.mp ok
    obtain ⟨-, known, isSkill⟩ := skill?_known h found
    exact .storeAkin known isSkill (Skill.addExp_akin grown)

theorem rewards_drilled {amount : Int} {names : List String} {acc next : Scene × Nat}
    (h : acc.1.state.WellKeyed) (ok : names.foldlM (rewardSkill amount) acc = .ok next) :
    Drilled acc.1.state next.1.state := by
  induction names generalizing acc with
  | nil =>
    cases ok
    exact .refl
  | cons name names ih =>
    obtain ⟨mid, first, rest⟩ := Outcome.bind_eq_ok.mp ok
    have start := rewardSkill_drilled h first
    exact start.trans (ih (start.reworded.retold.wellKeyed h) rest)

theorem rewardSkills_drilled (h : c.state.WellKeyed) (y : Yields (c.rewardSkills attrs) p) :
    Drilled c.state p.scene.state := by
  obtain ⟨amount, -, y⟩ := y.bind
  split_ifs at y
  · obtain rfl := yields_pure.mp y
    exact .refl
  · split at y
    · obtain rfl := yields_pure.mp y
      exact .refl
    · obtain ⟨next, granted, y⟩ := y.bind
      obtain rfl := yields_pure.mp y
      exact rewards_drilled (show (c, 0).1.state.WellKeyed from h) (yields_ofOutcome.mp granted)

theorem gainSkillExp_drilled (h : c.state.WellKeyed) (y : Yields (c.gainSkillExp attrs) p) :
    Drilled c.state p.scene.state := by
  obtain ⟨amount, -, y⟩ := y.bind
  split_ifs at y
  · obtain rfl := yields_pure.mp y
    exact .refl
  · split at y
    · obtain rfl := yields_pure.mp y
      exact .refl
    · rename_i found
      obtain ⟨gain, grown, y⟩ := y.bind
      obtain rfl := yields_pure.mp y
      obtain ⟨-, known, isSkill⟩ := skill?_known h found
      exact .storeAkin known isSkill (Skill.addExp_akin (yields_ofOutcome.mp grown))

theorem breakThrough_drilled (h : c.state.WellKeyed) (y : Yields (c.breakThrough attrs) p) :
    Drilled c.state p.scene.state := by
  rw [breakThrough] at y
  split at y
  · obtain rfl := yields_pure.mp y
    exact .refl
  · split at y
    · obtain rfl := yields_pure.mp y
      exact .refl
    · rename_i found
      obtain ⟨rate, -, y⟩ := y.bind
      obtain ⟨gain, tried, y⟩ := y.bind
      obtain rfl := yields_pure.mp y
      obtain ⟨-, known, isSkill⟩ := skill?_known h found
      have put := Drilled.storeAkin known isSkill (Skill.attempt_akin tried)
      simp only [changed]
      split_ifs <;> exact put

theorem puts_drilled {rolled : List Entity}
    (h : ∀ e ∈ rolled, c.state.kindOf? e.name = some .skill ∧ e.kind = .skill ∧
      c.state.idAt? e.name = e.id?) :
    Drilled c.state (rolled.foldl Scene.put c).state := by
  induction rolled generalizing c with
  | nil => exact .refl
  | cons e rolled ih =>
    obtain ⟨known, skill, id⟩ := h e List.mem_cons_self
    have first : Drills c.state (c.put e).state := .store known skill id
    refine (ih fun later member => ?_).head first
    rw [first.rewords.retells.kindOf?, first.rewords.idAt?]
    exact h later (List.mem_cons_of_mem e member)

theorem rollForSkills_drilled (h : c.state.WellKeyed) (y : Yields c.rollForSkills p) :
    Drilled c.state p.scene.state := by
  obtain ⟨rolled, rolls, y⟩ := y.bind
  obtain rfl := yields_pure.mp y
  refine puts_drilled fun e member => ?_
  obtain ⟨skill, listed, rolling⟩ := rolls.mapM e member
  obtain ⟨member, isSkill⟩ := List.mem_filter.mp listed
  have known := h.find?_name member
  have same := Skill.rollEligibility_akin rolling
  rw [same.name, same.kind, GameState.kindOf?_of_find? known, GameState.idAt?_of_find? known,
    of_decide_eq_true isSkill, same.id]
  exact ⟨rfl, rfl, rfl⟩

/-! ### Time, chronicle and statuses -/

theorem passTime_rewords (y : Yields (c.passTime attrs) p) : Reworded c.state p.scene.state := by
  obtain ⟨span, -, y⟩ := y.bind
  obtain ⟨gameTime, -, y⟩ := y.bind
  obtain rfl := yields_pure.mp y
  exact .aside rfl rfl

theorem chronicleTurn_rewords (y : Yields (c.chronicleTurn attrs) p) :
    Reworded c.state p.scene.state := by
  rw [chronicleTurn] at y
  split at y
  · obtain rfl := yields_pure.mp y
    exact .refl
  · obtain ⟨macros, -, y⟩ := y.bind
    obtain ⟨processed, -, y⟩ := y.bind
    obtain ⟨memory, -, y⟩ := y.bind
    obtain rfl := yields_pure.mp y
    exact .aside rfl rfl

theorem chronicleChapter_rewords : Reworded c.state (c.chronicleChapter attrs).scene.state := by
  rw [chronicleChapter]
  split <;> exact .aside rfl rfl

theorem chronicleMemoir_rewords : Reworded c.state (c.chronicleMemoir attrs).scene.state := by
  rw [chronicleMemoir]
  split <;> exact .aside rfl rfl

theorem applyStatus_rewords {owner : Option String} (y : Yields (c.applyStatus owner attrs) p) :
    Reworded c.state p.scene.state := by
  unfold applyStatus at y
  split at y
  · obtain ⟨status, -, y⟩ := y.bind
    obtain rfl := yields_pure.mp y
    exact .aside rfl rfl
  · obtain rfl := yields_pure.mp y
    exact .refl

theorem cureStatus_rewords {owner : Option String} :
    Reworded c.state (c.cureStatus owner attrs).scene.state :=
  .aside rfl rfl

/-! ### Single fields -/

theorem equip_rewords (h : c.state.WellKeyed) (y : Yields (c.equip attrs) p) :
    Reworded c.state p.scene.state := by
  rw [equip] at y
  split at y
  · rename_i item found
    obtain rfl := yields_pure.mp y
    exact .putAkin (ownedItem?_known h (Option.filter_eq_some_iff.mp found).1).2.1 ⟨⟨rfl, rfl⟩, rfl⟩
  · obtain rfl := yields_pure.mp y
    exact .refl

theorem unequip_rewords (h : c.state.WellKeyed) (y : Yields (c.unequip attrs) p) :
    Reworded c.state p.scene.state := by
  rw [unequip] at y
  split at y
  · rename_i item found
    obtain rfl := yields_pure.mp y
    exact .putAkin (ownedItem?_known h found).2.1 ⟨⟨rfl, rfl⟩, rfl⟩
  · obtain rfl := yields_pure.mp y
    exact .refl

theorem wear_rewords {effect : Number → Outcome Number} (h : c.state.WellKeyed)
    (y : Yields (c.wear effect attrs) p) : Reworded c.state p.scene.state := by
  rw [wear] at y
  split at y
  · obtain rfl := yields_pure.mp y
    exact .refl
  · rename_i e found
    split at y
    · obtain rfl := yields_pure.mp y
      exact .refl
    · obtain ⟨durability, -, y⟩ := y.bind
      obtain rfl := yields_pure.mp y
      exact .putAkin (find?_known h found).2 ⟨⟨rfl, rfl⟩, rfl⟩

theorem updateRealm_rewords (h : c.state.WellKeyed) (y : Yields (c.updateRealm attrs) p) :
    Reworded c.state p.scene.state := by
  rw [updateRealm] at y
  split at y
  · rename_i found _
    split at y
    · obtain rfl := yields_pure.mp y
      exact .progressRealm h
    · obtain rfl := yields_pure.mp y
      exact .putAkin (find?_known h found).2 ⟨⟨rfl, rfl⟩, rfl⟩
  · obtain rfl := yields_pure.mp y
    exact .refl

theorem changeRelationship_rewords (h : c.state.WellKeyed)
    (y : Yields (c.changeRelationship attrs) p) : Reworded c.state p.scene.state := by
  rw [changeRelationship] at y
  split at y
  · obtain rfl := yields_pure.mp y
    exact .refl
  · rename_i e found
    dsimp only at y
    split at y
    all_goals
      obtain rfl := yields_pure.mp y
      exact .putAkin (find?_known h found).2 ⟨⟨rfl, rfl⟩, rfl⟩

theorem requestSpecialItem_rewords (y : Yields (c.requestSpecialItem attrs) p) :
    Reworded c.state p.scene.state := by
  obtain rfl := yields_pure.mp y
  exact .refl

/-! ### Quests -/

theorem payReward_rewords {quest : Quest} {next : Scene} (h : c.state.WellKeyed)
    (ok : payReward quest c = .ok next) : Reworded c.state next.state := by
  rw [payReward] at ok
  split at ok
  · cases ok
    exact .refl
  · rename_i pc found
    obtain ⟨reward, -, ok⟩ := Outcome.bind_eq_ok.mp ok
    split at ok
    · cases ok
      exact .refl
    · obtain ⟨total, -, ok⟩ := Outcome.bind_eq_ok.mp ok
      obtain rfl := Outcome.pure_eq_ok.mp ok
      have known := h.find?_name (GameState.pc?_eq_some found).1
      have paid : Reworded c.state (c.state.put { pc with currentExp := some total }) :=
        .putAkin known ⟨⟨rfl, rfl⟩, rfl⟩
      exact paid.trans (Reworded.progressRealm (paid.retold.wellKeyed h))

theorem completeQuest_rewords {quest : Quest} {next : Scene} (h : c.state.WellKeyed)
    (ok : c.completeQuest quest = .ok next) : Reworded c.state next.state := by
  have entered : Reworded c.state (c.putQuest { quest with status := .completed }).state :=
    .aside rfl rfl
  rw [completeQuest] at ok
  split at ok
  · cases ok
    exact entered
  · exact entered.trans (payReward_rewords (entered.retold.wellKeyed h) ok)

theorem assignQuest_rewords (y : Yields (c.assignQuest attrs) p) :
    Reworded c.state p.scene.state := by
  rw [assignQuest] at y
  split at y
  all_goals
    obtain rfl := yields_pure.mp y
    exact .aside rfl rfl

theorem updateQuest_rewords (h : c.state.WellKeyed) (y : Yields (c.updateQuest attrs) p) :
    Reworded c.state p.scene.state := by
  rw [updateQuest] at y
  split at y
  · split at y
    · obtain rfl := yields_pure.mp y
      exact .refl
    · obtain ⟨next, completed, y⟩ := y.bind
      obtain rfl := yields_pure.mp y
      exact completeQuest_rewords h (yields_ofOutcome.mp completed)
    · obtain rfl := yields_pure.mp y
      exact .aside rfl rfl
  · obtain rfl := yields_pure.mp y
    exact .refl

theorem completeQuestObjective_rewords (h : c.state.WellKeyed)
    (y : Yields (c.completeQuestObjective attrs) p) : Reworded c.state p.scene.state := by
  rw [completeQuestObjective] at y
  split at y
  · split at y
    · obtain rfl := yields_pure.mp y
      exact .refl
    · split_ifs at y
      · obtain ⟨next, completed, y⟩ := y.bind
        obtain rfl := yields_pure.mp y
        exact completeQuest_rewords h (yields_ofOutcome.mp completed)
      · obtain rfl := yields_pure.mp y
        exact .aside rfl rfl
  · obtain rfl := yields_pure.mp y
    exact .refl

end Scene

end Gamebook
