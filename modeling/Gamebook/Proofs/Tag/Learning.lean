import Gamebook.Proofs.Tag.Recasting
import Gamebook.Tag.Learning

/-!
Tags for learning skills. A skill that is known already keeps its name; a new one comes beside the
others or in the place of a lower mastery, and a held one may be succeeded by another.
-/

namespace Gamebook

open Attribute
open Play (Yields yields_pure yields_ofOutcome)
open Entity (Alike)

namespace Scene

variable {c : Scene} {p : Played} {attrs : Fields} {kind : TagKind} {e : Entity}

theorem resolveLearner_state (learner : Option String) (name description : String) :
    (c.resolveLearner learner name description).2.state = c.state := by
  unfold resolveLearner
  dsimp only
  split
  · split_ifs <;> rfl
  · split <;> rfl

theorem teach_rewords (learner : Option String) (name description : String) (skill : Entity) :
    Reworded c.state (c.teach learner name description skill).state := by
  have same := resolveLearner_state (c := c) learner name description
  rw [teach]
  generalize c.resolveLearner learner name description = resolved at same
  obtain ⟨holder, next⟩ := resolved
  dsimp only at same ⊢
  cases holder with
  | none => exact same ▸ .refl
  | some holder => exact same ▸ .single (.teach next.state holder skill.name)

theorem sameSkill?_known {s : GameState} {name : String} (h : s.WellKeyed)
    (found : sameSkill? s name = some e) : s.find? e.name = some e ∧ e.kind = .skill := by
  obtain ⟨member, isSkill⟩ := List.mem_filter.mp (List.mem_of_find?_eq_some found)
  exact ⟨h.find?_name member, of_decide_eq_true isSkill⟩

theorem sameSkill?_spells {s : GameState} {name : String} (found : sameSkill? s name = some e) :
    Skill.sameName e.name name = true := by
  rw [sameSkill?] at found
  have spelled := List.find?_some found
  exact spelled

theorem sameBaseSkill?_known {s : GameState} {name : String} (h : s.WellKeyed)
    (found : sameBaseSkill? s name = some e) : s.find? e.name = some e ∧ e.kind = .skill := by
  obtain ⟨member, isSkill⟩ := List.mem_filter.mp (List.mem_of_find?_eq_some found)
  exact ⟨h.find?_name member, of_decide_eq_true isSkill⟩

theorem sameBaseSkill?_shares {s : GameState} {name : String} (found : sameBaseSkill? s name = some e) :
    e.name ≠ name ∧ Skill.baseName e.name = Skill.baseName name := by
  have fits := List.find?_some found
  exact (Bool.and_eq_true_iff.mp fits).imp of_decide_eq_true of_decide_eq_true

/-- How the way for a new skill may be: free, barred by a higher mastery, shared with an equal one, or
made by the loss of a lower one. -/
inductive Way (c : Scene) (name : String) : Option Scene → Prop
  | free (none : sameBaseSkill? c.state name = none) : Way c name (some c)
  | barred {old : Entity} (found : sameBaseSkill? c.state name = some old)
    (higher : Skill.rank name < Skill.rank old.name) : Way c name none
  | level {old : Entity} (found : sameBaseSkill? c.state name = some old)
    (same : Skill.rank old.name = Skill.rank name) : Way c name (some c)
  | superseded {old : Entity} (found : sameBaseSkill? c.state name = some old)
    (lower : Skill.rank old.name < Skill.rank name) : Way c name (some (c.supersede old name))

theorem makeWay?_way (c : Scene) (name : String) : Way c name (c.makeWay? name) := by
  rw [makeWay?]
  split
  · rename_i none
    exact .free none
  · rename_i old found
    split_ifs with higher lower
    · exact .barred found higher
    · exact .superseded found lower
    · exact .level found (by omega)

/-- The way is free already, or a lower mastery has been replaced and forgotten. -/
theorem makeWay?_cases {name : String} {cleared : Scene} (h : c.state.WellKeyed)
    (way : c.makeWay? name = some cleared) : cleared = c ∨ ∃ old, c.state.find? old.name = some old ∧
      old.kind = .skill ∧ Skill.baseName old.name = Skill.baseName name ∧
      Skill.rank old.name < Skill.rank name ∧ cleared.state =
        (Skill.replaceReferences c.state old.name name).1.forget old.name := by
  have cases := makeWay?_way c name
  rw [way] at cases
  cases cases with
  | free => exact .inl rfl
  | level => exact .inl rfl
  | @superseded old found lower =>
    obtain ⟨known, isSkill⟩ := sameBaseSkill?_known h found
    exact .inr ⟨old, known, isSkill, (sameBaseSkill?_shares found).2, lower, rfl⟩

/-- Whom a tag wants to learn a skill. -/
def learnerOf (attrs : Fields) : Option String :=
  (text? attrs "learner").orElse fun _ => text? attrs "target"

/-- What can come of a tag that teaches a skill: nothing, or a skill that is stored and taught. -/
inductive Learns (attrs : Fields) (c : Scene) : Played → Prop
  | kept (idle : ∀ name description, text? attrs "name" = some name →
      text? attrs "description" = some description →
      sameSkill? c.state name = none ∧ c.makeWay? name = none) : Learns attrs c c.kept
  | refreshed {name description : String} {known skill : Entity} (learner : Option String)
    (named : text? attrs "name" = some name) (described : text? attrs "description" = some description)
    (found : sameSkill? c.state name = some known) (same : Alike skill known)
    (asked : learner = learnerOf attrs) :
    Learns attrs c ((c.put skill).teach learner name description skill).changed
  | defined {name description : String} {cleared : Scene} {skill : Entity} (learner : Option String)
    (named : text? attrs "name" = some name) (described : text? attrs "description" = some description)
    (unknown : sameSkill? c.state name = none) (way : c.makeWay? name = some cleared)
    (raw : rawText? attrs "name" = some skill.name) (isSkill : skill.kind = .skill)
    (asked : learner = learnerOf attrs) :
    Learns attrs c ((cleared.put skill).teach learner name description skill).changed

theorem learn_learns (distinct : attrs.keys.Nodup) (y : Yields (c.learn attrs) p) :
    Learns attrs c p := by
  unfold learn at y
  split at y
  swap
  · rename_i lacking
    obtain rfl := yields_pure.mp y
    exact .kept fun name description named described =>
      (lacking name description named described).elim
  rename_i name description named described
  have plain : ∀ key, key ∉ ["learner", "target", "referenceId"] → "type" ≠ key →
      (skillFields attrs).get? key = attrs.get? key := fun key kept untyped =>
    (get?_withKind_of_ne untyped).trans (Keyed.get?_without kept)
  have skillType : (skillFields attrs).get? "type" = some (.text EntityKind.skill.name) :=
    get?_withKind
  dsimp only at y
  split at y
  · rename_i known found
    obtain ⟨id, -, y⟩ := y.bind
    obtain ⟨skill, made, y⟩ := y.bind
    obtain rfl := yields_pure.mp y
    have isSkill : known.kind = .skill :=
      of_decide_eq_true (List.mem_filter.mp (List.mem_of_find?_eq_some found)).2
    have nodup : (skillFields attrs).keys.Nodup :=
      Keyed.nodup_put (Keyed.nodup_without distinct _) _ _
    have same : Alike skill known := by
      refine merged_alike ?_ (mergedWith_yields.mp made) ?_ ?_
      · exact Keyed.nodup_put (Keyed.nodup_put nodup _ _) _ _
      · rw [get?_withId_of_ne (by decide), Keyed.get?_put_self]
      · rw [get?_withId_of_ne (by decide), Keyed.get?_put_of_ne (by decide), skillType, isSkill]
    exact .refreshed _ named described found same rfl
  · rename_i unknown
    split at y
    · rename_i barred
      obtain rfl := yields_pure.mp y
      refine .kept fun other _ given _ => ?_
      obtain rfl := Option.some.inj (named.symm.trans given)
      exact ⟨unknown, barred⟩
    · rename_i cleared way
      obtain ⟨id, -, y⟩ := y.bind
      obtain ⟨skill, made, y⟩ := y.bind
      obtain rfl := yields_pure.mp y
      have made := entityOf_yields.mp made
      exact .defined _ named described unknown way
        (made_name made ((get?_withId_of_ne (by decide)).trans (plain _ (by decide) (by decide))))
        (made_kind made ((get?_withId_of_ne (by decide)).trans skillType)) rfl

theorem learn_recasts (h : c.state.WellKeyed) (distinct : attrs.keys.Nodup)
    (y : Yields (c.learn attrs) p) : Recasts .skillLearned attrs c.state p.scene.state := by
  cases learn_learns distinct y with
  | kept => exact .retold .refl
  | @refreshed name description known skill learner named described found same =>
    have put : Retold c.state (c.put skill).state := .putAlike (sameSkill?_known h found).1 same
    exact .retold (put.trans (teach_rewords ..).retold)
  | @defined name description cleared skill learner named described unknown way raw isSkill =>
    have introduces : TagKind.introduces .skillLearned attrs skill.name = true := by
      simp [TagKind.introduces, TagKind.introduced?, raw, described]
    have kinded : TagKind.introduced? .skillLearned = some skill.kind := by
      rw [isSkill]
      rfl
    have taught : Retold (cleared.state.put skill) _ :=
      (teach_rewords (c := cleared.put skill) learner name description skill).retold
    rcases makeWay?_cases h way with rfl | ⟨old, known, oldSkill, shared, lower, replaced⟩
    · exact .introduced introduces kinded taught
    · rw [replaced] at taught
      exact .superseded known oldSkill introduces kinded taught rfl named shared lower

/-- What a state is before a skill is renamed: the same, or with the described successor. -/
inductive Succeeds (attrs : Fields) (new : String) (s : GameState) : GameState → Prop
  | plain (undescribed : text? attrs "description" = none) : Succeeds attrs new s s
  | described {e : Entity} (described : (text? attrs "description").isSome = true)
    (named : e.name = new) (isSkill : e.kind = .skill) : Succeeds attrs new s (s.put e)

theorem Succeeds.defines {new : String} {s r : GameState} (h : Succeeds attrs new s r) :
    Defines attrs new s r := by
  cases h with
  | plain => exact .inl rfl
  | described told named isSkill => exact .inr ⟨_, told, named, isSkill, rfl⟩

theorem defineSuccessor_succeeds {new : String} {defined : Scene}
    (y : Yields (c.defineSuccessor attrs new) defined) :
    Succeeds attrs new c.state defined.state := by
  rw [defineSuccessor] at y
  split at y
  · rename_i undescribed
    obtain rfl := yields_pure.mp y
    exact .plain undescribed
  · rename_i described
    obtain ⟨id, -, y⟩ := y.bind
    obtain ⟨skill, made, y⟩ := y.bind
    obtain rfl := yields_pure.mp y
    have made := entityOf_yields.mp made
    have name := (Entity.ofFields_name made).symm
    rw [get?_withId_of_ne (by decide), get?_withKind_of_ne (by decide), Keyed.get?_put_self] at name
    exact .described (by rw [described]; rfl) (Value.text_of_field name)
      (made_kind made ((get?_withId_of_ne (by decide)).trans get?_withKind))

/-- What can come of a tag that renames a held skill: nothing, or the references are rewritten. If
nobody held the skill that is all; otherwise a change is told, and a skill that is not held any more
is forgotten. -/
inductive Changes (attrs : Fields) (c : Scene) : Played → Prop
  | kept : Changes attrs c c.kept
  | unheld {old new : String} {r : GameState} {p : Played}
    (source : text? attrs "oldSkill" = some old) (target : text? attrs "newSkill" = some new)
    (apart : old ≠ new) (succeeds : Succeeds attrs new c.state r)
    (nobody : (Skill.replaceReferences r old new (targetHolders r (text? attrs "target"))).2 = [])
    (state : p.scene.state =
      (Skill.replaceReferences r old new (targetHolders r (text? attrs "target"))).1)
    (told : p.changed = (text? attrs "description").isSome) : Changes attrs c p
  | renamed {old new : String} {r : GameState} {p : Played}
    (source : text? attrs "oldSkill" = some old) (target : text? attrs "newSkill" = some new)
    (apart : old ≠ new) (succeeds : Succeeds attrs new c.state r)
    (somebody : (Skill.replaceReferences r old new (targetHolders r (text? attrs "target"))).2 ≠ [])
    (state : p.scene.state = forgetUnheld old
      (Skill.replaceReferences r old new (targetHolders r (text? attrs "target"))).1)
    (told : p.changed = true) : Changes attrs c p

theorem changeSkill_changes (y : Yields (c.changeSkill attrs) p) : Changes attrs c p := by
  unfold changeSkill at y
  split at y
  swap
  · obtain rfl := yields_pure.mp y
    exact .kept
  rename_i old new source target
  split_ifs at y with same
  · obtain rfl := yields_pure.mp y
    exact .kept
  obtain ⟨defined, made, y⟩ := y.bind
  have succeeds := defineSuccessor_succeeds made
  dsimp only at y
  split_ifs at y with nobody
  · obtain rfl := yields_pure.mp y
    exact .unheld source target same succeeds (List.isEmpty_iff.mp nobody) rfl rfl
  · obtain rfl := yields_pure.mp y
    exact .renamed source target same succeeds (mt List.isEmpty_iff.mpr nobody) rfl rfl

theorem changeSkill_recasts (y : Yields (c.changeSkill attrs) p) :
    Recasts .skillUpdate attrs c.state p.scene.state := by
  cases changeSkill_changes y with
  | kept => exact .retold .refl
  | @unheld old new r _ source target apart succeeds nobody state told =>
    rw [state]
    exact .succeeded rfl source target apart succeeds.defines
      (.single (.rewrite r old new _)) false nofun
  | @renamed old new r _ source target apart succeeds somebody state told =>
    have rewritten : Retold r _ := .single (.rewrite r old new (targetHolders r (text? attrs "target")))
    rw [state, forgetUnheld]
    split_ifs with unheld
    · refine .succeeded rfl source target apart succeeds.defines rewritten true fun _ => ?_
      rw [Bool.and_eq_true, Bool.not_eq_true'] at unheld
      exact unheld.2
    · exact .succeeded rfl source target apart succeeds.defines rewritten false nofun

end Scene

end Gamebook
