import Gamebook.Proofs.Skill.Sustaining

/-!
Skill names through a narrative of skill tags. Renaming leaves names behind that have no skill yet, and
synchronization finds one for each, as long as no tag strands a name. A renaming of a skill that is held
by nobody afterwards drops the skill: its new name is stranded unless it is known already, is described,
or shares its base name with another skill.
-/

namespace Gamebook

open GameState (SkillsKnown Sustained)
open Play (Yields)

/-- In a game with a party in step and a name for every entity, a narrative of skill tags leaves every
skill name that is held that of a known skill, if no tag strands a name on the state that it is played
on. -/
theorem interpret_keeps_skills {s : GameState} {rules : List Rule} {text : String} {d : Draws}
    (inStep : s.InStep) (named : s.find? "" = none) (known : s.SkillsKnown)
    (skills : ∀ t ∈ Tag.find text, ∀ kind, t.kind? = some kind → kind ∈ TagKind.ofSkills)
    (whole : ∀ stage ∈ stagesOf rules text s d, stage.1.strandsSkill stage.2 = false) :
    ∃ i d', interpret rules text s d = (.ok i, d') ∧ i.state.SkillsKnown := by
  obtain ⟨i, d', ok⟩ := interpret_gives inStep.keyed rules text d
  refine ⟨i, d', ok, ?_⟩
  -- As long as no tag was applied, there is no synchronization to come, and nothing to mend either.
  refine interpret_keeps (P := fun t applied => t.Sustained ∧ (applied = [] → t.SkillsKnown))
    (fun stage member kind p tag y applied ⟨sustained, untouched⟩ => ?_)
    (fun _ ⟨_, untouched⟩ => untouched rfl)
    (fun _ _ _ ⟨sustained, _⟩ done => Skill.synchronize_skillsKnown sustained done)
    ⟨known.sustained inStep named, fun _ => known⟩ ok
  have distinct : (Attribute.parse stage.1.body).keys.Nodup := Keyed.nodup_ofPairs _
  have ofSkills := skills stage.1 (Progress.stages_tag member) kind tag
  have spared := whole stage member
  rw [Tag.strandsSkill, tag] at spared
  refine ⟨TagKind.play_sustains ofSkills distinct y sustained spared, fun none => ?_⟩
  cases told : p.changed with
  | false =>
    rw [told] at none
    exact TagKind.play_quiet ofSkills distinct y sustained told (untouched none)
  | true =>
    rw [told, if_pos rfl] at none
    exact absurd none (List.concat_ne_nil _ _)

def sword : Entity := { name := "Sword (sơ cấp)", kind := .skill }

def swordsman (name : String) : Entity := { name, kind := .npc, skills := ["Sword (sơ cấp)"] }

/-- Two who hold one skill, and one of them in the party. -/
def fencers : GameState :=
  { knownEntities :=
      [("Sword (sơ cấp)", sword), ("Lan", swordsman "Lan"), ("Minh", swordsman "Minh")]
    party := [swordsman "Lan"] }

theorem fencers_inStep : fencers.InStep where
  keyed := by decide
  distinct := by decide
  copies m member := by
    rw [List.mem_singleton.mp member]
    rfl

theorem fencers_known : fencers.SkillsKnown := by
  intro name held
  obtain ⟨e, listed, holds⟩ := List.any_eq_true.mp held
  have only : ∀ e ∈ fencers.knownEntities.values ++ fencers.party,
      ∀ skill ∈ e.skillNames, skill = "Sword (sơ cấp)" := by
    decide
  rw [only e listed name (of_decide_eq_true (Bool.and_eq_true_iff.mp holds).2)]
  rfl

/-- One of the two gets on, and then the other. -/
def lessons : String :=
  "[SKILL_UPDATE: oldSkill=\"Sword (sơ cấp)\" newSkill=\"Sword (trung cấp)\" target=Lan]
[SKILL_LEARNED: name=\"Sword (cao cấp)\" learner=Minh description=Fast]"

theorem fencers_keep_skills : fencers.InStep ∧ fencers.find? "" = none ∧ fencers.SkillsKnown ∧
    (∀ t ∈ Tag.find lessons, ∀ kind, t.kind? = some kind → kind ∈ TagKind.ofSkills) ∧
    (∀ stage ∈ stagesOf [] lessons fencers {}, stage.1.strandsSkill stage.2 = false) ∧
    ∃ i d', interpret [] lessons fencers {} = (.ok i, d') ∧ i.state.SkillsKnown := by
  have skills : ∀ t ∈ Tag.find lessons, ∀ kind, t.kind? = some kind → kind ∈ TagKind.ofSkills := by
    decide +kernel
  have whole : ∀ stage ∈ stagesOf [] lessons fencers {}, stage.1.strandsSkill stage.2 = false := by
    decide +kernel
  exact ⟨fencers_inStep, rfl, fencers_known, skills, whole,
    interpret_keeps_skills fencers_inStep rfl fencers_known skills whole⟩

/-- A renaming of a skill for everybody drops the skill and leaves the new name without one. -/
theorem fencers_lose_skill : fencers.InStep ∧ fencers.SkillsKnown ∧
    ∃ i d', interpret [] "[SKILL_UPDATE: oldSkill=\"Sword (sơ cấp)\" newSkill=\"Sword (trung cấp)\"]"
      fencers {} = (.ok i, d') ∧ ¬i.state.SkillsKnown := by
  refine ⟨fencers_inStep, fencers_known, ?_⟩
  have stranded : Play.passes (interpret []
      "[SKILL_UPDATE: oldSkill=\"Sword (sơ cấp)\" newSkill=\"Sword (trung cấp)\"]" fencers) {}
      (fun i _ => Skill.isHeld i.state "Sword (trung cấp)" = true ∧
        i.state.kindOf? "Sword (trung cấp)" ≠ some .skill) = true := by
    decide +kernel
  obtain ⟨i, d', ok, left⟩ := Play.exists_of_passes stranded
  obtain ⟨held, absent⟩ := of_decide_eq_true left
  exact ⟨i, d', ok, fun known => absent (known _ held)⟩

end Gamebook
