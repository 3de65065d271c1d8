import Gamebook.Proofs.Keyed
import Gamebook.Proofs.Play
import Gamebook.Tag.Interpretation

/-!
Tags that leave out what they need. Each kind of tag needs certain texts, and a tag without one of
them does nothing: it reports no change, tells nothing, draws nothing and leaves the scene as it was.
There are two exceptions. A bond that is not told ends the one that there was, and an amount of
experience is read before the skill is looked for, so that one that cannot be read is a failure.
-/

namespace Gamebook

open Attribute

variable {kind : TagKind} {attrs : Fields} {c : Scene} {field : String} {owner : Option String}

namespace TagKind

/-- The fields that a tag cannot do without. -/
def required : TagKind → List String
  | .chronicleTurn => ["text"]
  | .chronicleChapter => ["text"]
  | .chronicleMemoir => ["text"]
  | .statusAppliedSelf => ["name"]
  | .statusAppliedNpc => ["name", "npcName"]
  | .statusCuredSelf => ["name"]
  | .statusCuredNpc => ["name", "npcName"]
  | .loreNpc => ["name"]
  | .loreItem => ["name"]
  | .loreLocation => ["name"]
  | .loreFaction => ["name"]
  | .loreConcept => ["name"]
  | .loreSkill => ["name", "description"]
  | .skillExpGain => ["skillName"]
  | .skillBreakthrough => ["skillName"]
  | .skillLearned => ["name", "description"]
  | .skillUpdate => ["oldSkill", "newSkill"]
  | .itemAcquired => ["name"]
  | .itemConsumed => ["name"]
  | .itemEquipped => ["name"]
  | .itemUnequipped => ["name"]
  | .itemTransformed => ["oldName", "newName"]
  | .itemUpdated => ["name"]
  | .itemDamaged => ["name"]
  | .itemRepaired => ["name"]
  | .itemDiscarded => ["name"]
  | .itemLost => ["name"]
  | .realmUpdate => ["target", "realm"]
  | .companion => ["name", "description"]
  | .relationshipChanged => ["npcName", "relationship"]
  | .questAssigned => ["title"]
  | .questUpdated => ["title", "status"]
  | .questObjectiveCompleted => ["questTitle", "objectiveDescription"]
  | _ => []

/-- Whether a kind of tag overlooks that a field is missing. -/
def overlooks (kind : TagKind) (field : String) (attrs : Fields) (c : Scene) : Bool :=
  match kind with
  | .relationshipChanged => field = "relationship" && (c.find? (text? attrs "npcName")).isSome
  | .skillExpGain => !(asInt 0 (Value.field attrs "amount")).isOk
  | _ => false

end TagKind

namespace Scene

/-! ### Tags of what passes -/

theorem chronicleTurn_lacking (missing : text? attrs "text" = none) :
    c.chronicleTurn attrs = pure c.kept := by
  simp only [chronicleTurn, missing]

theorem chronicleChapter_lacking (missing : text? attrs "text" = none) :
    c.chronicleChapter attrs = c.kept := by
  simp only [chronicleChapter, missing]

theorem chronicleMemoir_lacking (missing : text? attrs "text" = none) :
    c.chronicleMemoir attrs = c.kept := by
  simp only [chronicleMemoir, missing]

theorem applyStatus_lacking (missing : text? attrs "name" = none ∨ owner = none) :
    c.applyStatus owner attrs = pure c.kept := by
  cases missing with
  | inl unnamed => cases owner <;> simp only [applyStatus, unnamed]
  | inr unowned => simp only [applyStatus, unowned]

/-- A status has a name and an owner, so where one is missing nobody is cured. -/
theorem cureStatus_lacking (missing : text? attrs "name" = none ∨ owner = none) :
    c.cureStatus owner attrs = c.kept := by
  have same : Status.cure c.state.statuses (text? attrs "name") owner = c.state.statuses := by
    refine List.filter_eq_self.mpr fun s _ => ?_
    cases missing with
    | inl unnamed => simp [unnamed]
    | inr unowned => simp [unowned]
  simp only [cureStatus, same, bne_self_eq_false]
  rfl

/-! ### Tags that introduce entities -/

theorem define_lacking {entityKind : EntityKind} (missing : text? attrs "name" = none) :
    c.define entityKind attrs = pure c.kept := by
  simp only [define, missing]

theorem describe_lacking {entityKind : EntityKind} (missing : text? attrs "name" = none) :
    c.describe entityKind attrs = pure c.kept := by
  simp only [describe, missing]

theorem describePlace_lacking (missing : text? attrs "name" = none) :
    c.describePlace attrs = pure c.kept := by
  simp only [describePlace, missing]

theorem defineSkill_lacking
    (missing : text? attrs "name" = none ∨ text? attrs "description" = none) :
    c.defineSkill attrs = pure c.kept := by
  rw [defineSkill]
  split
  · rfl
  · rename_i told
    have unnamed := missing.resolve_right (told ▸ Option.some_ne_none _)
    refine define_lacking ?_
    rwa [text?, Value.field, Keyed.get?_without (by decide)]

theorem addCompanion_lacking
    (missing : text? attrs "name" = none ∨ text? attrs "description" = none) :
    c.addCompanion attrs = pure c.kept := by
  rw [addCompanion]
  split
  · rename_i named told
    simp [named, told] at missing
  · rfl

theorem changeRelationship_lacking (missing : c.find? (text? attrs "npcName") = none) :
    c.changeRelationship attrs = pure c.kept := by
  simp only [changeRelationship, missing]

/-- A bond that is not told is forgotten. -/
theorem changeRelationship_untold {e : Entity} (found : c.find? (text? attrs "npcName") = some e)
    (missing : text? attrs "relationship" = none) :
    ∃ next : Scene, c.changeRelationship attrs = pure next.changed ∧
      next.state = c.state.put { e with relationship := none } := by
  simp only [changeRelationship, found, missing]
  split
  · exact ⟨_, rfl, rfl⟩
  · exact ⟨_, rfl, rfl⟩

theorem updateRealm_lacking
    (missing : text? attrs "target" = none ∨ text? attrs "realm" = none) :
    c.updateRealm attrs = pure c.kept := by
  rw [updateRealm]
  split
  · rename_i found told
    cases missing with
    | inl nobody => rw [nobody] at found; exact nomatch found
    | inr untold => rw [untold] at told; exact nomatch told
  · rfl

/-! ### Tags of skills -/

theorem gainSkillExp_lacking {amount : Int} (missing : text? attrs "skillName" = none)
    (readable : asInt 0 (Value.field attrs "amount") = .ok amount) :
    c.gainSkillExp attrs = pure c.kept := by
  unfold gainSkillExp
  rw [missing, readable]
  change (if amount ≤ 0 then (pure c.kept : Play Played) else pure c.kept) = _
  exact ite_self _

/-- An amount that cannot be read fails, whoever is to gain it. -/
theorem gainSkillExp_unreadable {e : Failure}
    (unreadable : asInt 0 (Value.field attrs "amount") = .error e) (d : Draws) :
    c.gainSkillExp attrs d = (.error e, d) := by
  unfold gainSkillExp
  rw [unreadable]
  rfl

theorem breakThrough_lacking (missing : text? attrs "skillName" = none) :
    c.breakThrough attrs = pure c.kept := by
  simp only [breakThrough, missing]

theorem learn_lacking (missing : text? attrs "name" = none ∨ text? attrs "description" = none) :
    c.learn attrs = pure c.kept := by
  rw [learn]
  split
  · rename_i named told
    simp [named, told] at missing
  · rfl

theorem changeSkill_lacking
    (missing : text? attrs "oldSkill" = none ∨ text? attrs "newSkill" = none) :
    c.changeSkill attrs = pure c.kept := by
  rw [changeSkill]
  split
  · rename_i old new
    simp [old, new] at missing
  · rfl

/-! ### Tags of the inventory -/

theorem acquire_lacking (missing : text? attrs "name" = none) :
    c.acquire attrs = pure c.kept := by
  simp only [acquire, missing]

theorem ownedItem?_none : c.ownedItem? none = none := rfl

theorem consume_lacking (missing : text? attrs "name" = none) :
    c.consume attrs = pure c.kept := by
  simp only [consume, missing, ownedItem?_none]

theorem equip_lacking (missing : text? attrs "name" = none) : c.equip attrs = pure c.kept := by
  simp only [equip, missing, ownedItem?_none, Option.filter_none]

theorem unequip_lacking (missing : text? attrs "name" = none) : c.unequip attrs = pure c.kept := by
  simp only [unequip, missing, ownedItem?_none]

theorem transform_lacking
    (missing : text? attrs "oldName" = none ∨ text? attrs "newName" = none) :
    c.transform attrs = pure c.kept := by
  rw [transform]
  split
  · rename_i old new
    simp [old, new] at missing
  · rfl

theorem updateItem_lacking (missing : text? attrs "name" = none) :
    c.updateItem attrs = pure c.kept := by
  simp only [updateItem, missing, ownedItem?_none]

theorem wear_lacking {effect : Number → Outcome Number} (missing : text? attrs "name" = none) :
    c.wear effect attrs = pure c.kept := by
  simp only [wear, missing, find?]

theorem lose_lacking (missing : text? attrs "name" = none) : c.lose attrs = pure c.kept := by
  simp only [lose, missing, ownedItem?_none]

/-! ### Tags of the journal -/

theorem assignQuest_lacking (missing : text? attrs "title" = none) :
    c.assignQuest attrs = pure c.kept := by
  simp only [assignQuest, missing]

theorem updateQuest_lacking (missing : text? attrs "title" = none ∨ text? attrs "status" = none) :
    c.updateQuest attrs = pure c.kept := by
  rw [updateQuest]
  split
  · rename_i found told
    cases missing with
    | inl untitled => rw [untitled] at found; exact nomatch found
    | inr untold => rw [untold] at told; exact nomatch told
  · rfl

theorem completeQuestObjective_lacking
    (missing : text? attrs "questTitle" = none ∨ text? attrs "objectiveDescription" = none) :
    c.completeQuestObjective attrs = pure c.kept := by
  rw [completeQuestObjective]
  split
  · rename_i found told
    cases missing with
    | inl untitled => rw [untitled] at found; exact nomatch found
    | inr untold => rw [untold] at told; exact nomatch told
  · rfl

end Scene

namespace TagKind

open Scene

theorem missing_of_single {only : String} (needed : field ∈ [only])
    (missing : text? attrs field = none) : text? attrs only = none :=
  List.mem_singleton.mp needed ▸ missing

theorem missing_of_pair {first second : String} (needed : field ∈ [first, second])
    (missing : text? attrs field = none) :
    text? attrs first = none ∨ text? attrs second = none := by
  rcases List.mem_cons.mp needed with rfl | last
  · exact .inl missing
  · exact .inr (missing_of_single last missing)

/-- A tag that lacks a text does nothing, unless its kind overlooks that. -/
theorem play_noticed (needed : field ∈ kind.required) (missing : text? attrs field = none)
    (noticed : kind.overlooks field attrs c = false) : kind.play attrs c = pure c.kept := by
  cases kind with
  | chronicleTurn => exact chronicleTurn_lacking (missing_of_single needed missing)
  | chronicleChapter =>
    exact congrArg pure (chronicleChapter_lacking (missing_of_single needed missing))
  | chronicleMemoir =>
    exact congrArg pure (chronicleMemoir_lacking (missing_of_single needed missing))
  | statusAppliedSelf => exact applyStatus_lacking (.inl (missing_of_single needed missing))
  | statusAppliedNpc => exact applyStatus_lacking (missing_of_pair needed missing)
  | statusCuredSelf =>
    exact congrArg pure (cureStatus_lacking (.inl (missing_of_single needed missing)))
  | statusCuredNpc => exact congrArg pure (cureStatus_lacking (missing_of_pair needed missing))
  | loreNpc => exact describe_lacking (missing_of_single needed missing)
  | loreItem => exact define_lacking (missing_of_single needed missing)
  | loreLocation => exact describePlace_lacking (missing_of_single needed missing)
  | loreFaction => exact define_lacking (missing_of_single needed missing)
  | loreConcept => exact define_lacking (missing_of_single needed missing)
  | loreSkill => exact defineSkill_lacking (missing_of_pair needed missing)
  | skillExpGain =>
    cases read : asInt 0 (Value.field attrs "amount") with
    | ok amount => exact gainSkillExp_lacking (missing_of_single needed missing) read
    | error e => simp [overlooks, read, Except.isOk, Except.toBool] at noticed
  | skillBreakthrough => exact breakThrough_lacking (missing_of_single needed missing)
  | skillLearned => exact learn_lacking (missing_of_pair needed missing)
  | skillUpdate => exact changeSkill_lacking (missing_of_pair needed missing)
  | itemAcquired => exact acquire_lacking (missing_of_single needed missing)
  | itemConsumed => exact consume_lacking (missing_of_single needed missing)
  | itemEquipped => exact equip_lacking (missing_of_single needed missing)
  | itemUnequipped => exact unequip_lacking (missing_of_single needed missing)
  | itemTransformed => exact transform_lacking (missing_of_pair needed missing)
  | itemUpdated => exact updateItem_lacking (missing_of_single needed missing)
  | itemDamaged => exact wear_lacking (missing_of_single needed missing)
  | itemRepaired => exact wear_lacking (missing_of_single needed missing)
  | itemDiscarded => exact lose_lacking (missing_of_single needed missing)
  | itemLost => exact lose_lacking (missing_of_single needed missing)
  | realmUpdate => exact updateRealm_lacking (missing_of_pair needed missing)
  | companion => exact addCompanion_lacking (missing_of_pair needed missing)
  | relationshipChanged =>
    refine changeRelationship_lacking ?_
    rcases List.mem_cons.mp needed with rfl | last
    · rw [missing]
      rfl
    · simpa [overlooks, List.mem_singleton.mp last] using noticed
  | questAssigned => exact assignQuest_lacking (missing_of_single needed missing)
  | questUpdated => exact updateQuest_lacking (missing_of_pair needed missing)
  | questObjectiveCompleted =>
    exact completeQuestObjective_lacking (missing_of_pair needed missing)
  | _ => exact absurd needed List.not_mem_nil

/-- What a kind overlooks, it plays: it forgets a bond, or fails to read an amount. -/
theorem play_overlooked (missing : text? attrs field = none)
    (overlooked : kind.overlooks field attrs c = true) : kind.play attrs c ≠ pure c.kept := by
  intro idle
  cases kind with
  | relationshipChanged =>
    obtain ⟨untold, known⟩ := Bool.and_eq_true_iff.mp overlooked
    obtain ⟨e, found⟩ := Option.isSome_iff_exists.mp known
    obtain rfl := of_decide_eq_true untold
    obtain ⟨next, played, -⟩ := changeRelationship_untold found missing
    have same := congrArg Prod.fst (congrFun (played.symm.trans idle) default)
    exact Bool.noConfusion (congrArg Played.changed (Except.ok.inj same))
  | skillExpGain =>
    cases read : asInt 0 (Value.field attrs "amount") with
    | ok amount => simp [overlooks, read, Except.isOk, Except.toBool] at overlooked
    | error e =>
      have failed := gainSkillExp_unreadable (c := c) read default
      exact nomatch congrArg Prod.fst (failed.symm.trans (congrFun idle default))
  | _ => exact Bool.false_ne_true overlooked

/-- A tag without a text that it needs does nothing exactly if its kind notices that. -/
theorem play_lacking (needed : field ∈ kind.required) (missing : text? attrs field = none) :
    kind.play attrs c = pure c.kept ↔ kind.overlooks field attrs c = false := by
  constructor
  · intro idle
    by_contra overlooked
    exact play_overlooked missing ((Bool.not_eq_false _).mp overlooked) idle
  · exact play_noticed needed missing

/-- Two friends. -/
def befriended : GameState :=
  { knownEntities := [("Lan", { name := "Lan", kind := .npc, relationship := some "Friend" })] }

/-- A bond to somebody that the tag calls by blanks only. -/
def blankBond : Fields := [("npcName", .text "  "), ("relationship", .text "Rival")]

theorem blankBond_idle :
    "npcName" ∈ TagKind.relationshipChanged.required ∧ text? blankBond "npcName" = none ∧
      TagKind.relationshipChanged.overlooks "npcName" blankBond { state := befriended } = false ∧
      TagKind.relationshipChanged.play blankBond { state := befriended } =
        pure (Scene.kept { state := befriended }) := by
  have needed : "npcName" ∈ TagKind.relationshipChanged.required := by decide
  have missing : text? blankBond "npcName" = none := by decide
  have noticed : TagKind.relationshipChanged.overlooks "npcName" blankBond
      { state := befriended } = false := by decide
  exact ⟨needed, missing, noticed, (play_lacking needed missing).mpr noticed⟩

/-- A tag that leaves the bond out ends it. -/
theorem befriended_estranged :
    "relationship" ∈ TagKind.relationshipChanged.required ∧
      text? [("npcName", .text "Lan")] "relationship" = none ∧
      ∃ p d', TagKind.relationshipChanged.play [("npcName", .text "Lan")]
          { state := befriended } {} = (.ok p, d') ∧ p.changed = true ∧
        (befriended.find? "Lan").bind (·.relationship) = some "Friend" ∧
        (p.scene.state.find? "Lan").bind (·.relationship) = none := by
  refine ⟨by decide, by decide, ?_⟩
  have ended : Play.passes (TagKind.relationshipChanged.play [("npcName", .text "Lan")]
      { state := befriended }) {}
      (fun p _ => p.changed = true ∧ (p.scene.state.find? "Lan").bind (·.relationship) = none) =
        true := by
    decide +kernel
  obtain ⟨p, d', ok, estranged⟩ := Play.exists_of_passes ended
  obtain ⟨changed, none⟩ := of_decide_eq_true estranged
  exact ⟨p, d', ok, changed, by decide, none⟩

end TagKind

end Gamebook
