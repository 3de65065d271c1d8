import Gamebook.Proofs.Skill.Outranking
import Gamebook.Proofs.Skill.Schooling
import Gamebook.Proofs.Tag.Learning

/-!
Lessons for the player. A lesson in a skill of one base name keeps what the player has learned of it in
step with what the game knows, as long as it does not outrank two skills at once: only one of them
would make way.
-/

namespace Gamebook

open Attribute Skill Text
open GameState (Knows Ready School Schooled)
open Play (Yields)

variable {s : GameState} {c : Scene} {p : Played} {e : Entity} {attrs : Fields}
  {base player name description old new : String} {before members names later : List String}

/-- What is outranked without two at once is all that is known. -/
theorem GameState.Schooled.only (h : Schooled base player members names s)
    (single : outranksTwo names new = false) (known : s.Knows base old) (lower : rank old < rank new) :
    ∀ name, s.Knows base name → name = old := by
  intro name other
  by_contra apart
  have differ : sameName name old = false :=
    Bool.eq_false_iff.mpr fun same => apart (h.spelled name old other known same)
  have two : outranksTwo names new = true := outranksTwo_iff.mpr
    ⟨fun o member => (h.best old known o member).trans_lt lower, name, h.taught name other,
      old, h.taught old known, h.best name other, h.best old known, differ⟩
  exact nomatch single.symm.trans two

/-! ### The learner -/

/-- The player learns what the player's title is told to learn. -/
theorem Scene.teach_player (h : School base player members none c.state) (name description : String)
    (skill : Entity) : (c.teach (some "pc") name description skill).state =
      (addToHolder c.state player skill.name).1 := by
  obtain ⟨pc, leads, rfl⟩ := h.leads
  have known : (c.find? (some "pc")).any isOtherCharacter = false := by
    change (c.state.find? "pc").any isOtherCharacter = false
    cases found : c.state.find? "pc" with
    | none => rfl
    | some e => exact h.alone e found
  have partner : (c.state.partyMember? "pc").any isOtherCharacter = false := by
    cases found : c.state.partyMember? "pc" with
    | none => rfl
    | some m =>
      have named := List.find?_some found
      exact h.partners m (List.mem_of_find?_eq_some found) (of_decide_eq_true named)
  have title : lower "pc" = "pc" := by decide +kernel
  rw [teach, resolveLearner, isLearner, known, partner, leads, title]
  simp [onState]

theorem GameState.Ready.teach (h : Ready base player members names e.name c.state)
    (lesson : Teachable base player members e.name) (skill : e.kind = .skill)
    (name description : String) : Schooled base player members (names ++ [e.name])
      ((c.put e).teach (some "pc") name description e).state := by
  have school : School base player members none (c.put e).state :=
    h.toSchool.put skill (fun _ same => (Option.some.inj same).symm) lesson.apart lesson.outside
  rw [Scene.teach_player school]
  exact h.enter lesson skill

/-! ### Lessons -/

/-- Whether a tag is a lesson for the player in a name, with nothing around it. -/
structure Attribute.Lesson (attrs : Fields) (name : String) : Prop where
  named : text? attrs "name" = some name
  plain : ∀ raw ∈ rawText? attrs "name", raw = name
  described : (text? attrs "description").isSome = true
  learner : text? attrs "learner" = some "pc"

instance (attrs : Fields) (name : String) : Decidable (Attribute.Lesson attrs name) :=
  decidable_of_iff (text? attrs "name" = some name ∧ (∀ raw ∈ rawText? attrs "name", raw = name) ∧
    (text? attrs "description").isSome = true ∧ text? attrs "learner" = some "pc")
    ⟨fun ⟨a, b, c, d⟩ => ⟨a, b, c, d⟩, fun h => ⟨h.1, h.2, h.3, h.4⟩⟩

theorem knows_of_skill (keyed : s.WellKeyed) (listed : e ∈ s.ofKind .skill)
    (own : baseName e.name = base) : s.Knows base e.name := by
  obtain ⟨member, skill⟩ := List.mem_filter.mp listed
  exact ⟨own, by rw [GameState.kindOf?_of_find? (keyed.find?_name member), of_decide_eq_true skill]⟩

theorem GameState.Knows.listed (known : s.Knows base name) (keyed : s.WellKeyed) :
    ∃ e ∈ s.ofKind .skill, e.name = name := by
  obtain ⟨e, found, kind⟩ := Option.map_eq_some_iff.mp known.2
  exact ⟨e, List.mem_filter.mpr ⟨Keyed.mem_values found, decide_eq_true kind⟩, keyed.name_eq found⟩

theorem unspelled_of_unknown (keyed : s.WellKeyed) (unknown : Scene.sameSkill? s new = none)
    (known : s.Knows base name) : sameName name new = false := by
  obtain ⟨e, listed, rfl⟩ := known.listed keyed
  exact Bool.eq_false_iff.mpr (List.find?_eq_none.mp unknown e listed)

theorem knows_of_sameBaseSkill? (keyed : s.WellKeyed) (own : baseName new = base)
    (found : Scene.sameBaseSkill? s new = some e) : s.Knows base e.name :=
  knows_of_skill keyed (List.mem_of_find?_eq_some found)
    ((Scene.sameBaseSkill?_shares found).2.trans own)

namespace GameState.Schooled

/-- Only a name that is outranked has no way. -/
theorem barred (h : Schooled base player members names c.state) (own : baseName new = base)
    (none : c.makeWay? new = none) : ∃ old, c.state.Knows base old ∧ rank new < rank old := by
  have way := Scene.makeWay?_way c new
  rw [none] at way
  cases way with
  | barred found higher => exact ⟨_, knows_of_sameBaseSkill? h.keyed own found, higher⟩

theorem way {cleared : Scene} (h : Schooled base player members names c.state)
    (own : baseName new = base) (single : outranksTwo names new = false)
    (unknown : Scene.sameSkill? c.state new = none) (given : c.makeWay? new = some cleared) :
    Ready base player members names new cleared.state := by
  have other (name : String) (known : c.state.Knows base name) : sameName name new = true →
      name = new := fun same =>
    nomatch same.symm.trans (unspelled_of_unknown h.keyed unknown known)
  have way := Scene.makeWay?_way c new
  rw [given] at way
  cases way with
  | free none =>
    refine h.ready (fun name known => ?_) other
    obtain ⟨e, listed, rfl⟩ := known.listed h.keyed
    have fits := List.find?_eq_none.mp none e listed
    by_cases same : e.name = new
    · rw [same]
    · simp [same, known.1, own] at fits
  | level found same =>
    have known := knows_of_sameBaseSkill? h.keyed own found
    exact h.ready (fun name also => (h.level also known).trans same) other
  | superseded found lower =>
    have known := knows_of_sameBaseSkill? h.keyed own found
    exact h.supersede known (h.only single known lower) lower

end GameState.Schooled

/-- A lesson adds its name to those that were taught. -/
theorem Scene.learn_schools (h : Schooled base player members names c.state)
    (distinct : attrs.keys.Nodup) (lesson : Attribute.Lesson attrs new)
    (teachable : Teachable base player members new) (single : outranksTwo names new = false)
    (y : Yields (c.learn attrs) p) :
    Schooled base player members (names ++ [new]) p.scene.state := by
  have named := lesson.named
  have asked : learnerOf attrs = some "pc" := by rw [learnerOf, lesson.learner]; rfl
  cases learn_learns distinct y with
  | kept idle =>
    obtain ⟨description, described⟩ := Option.isSome_iff_exists.mp lesson.described
    obtain ⟨old, known, higher⟩ := h.barred teachable.own (idle new description named described).2
    exact h.outdone teachable known higher.le
  | @refreshed name description known skill learner told described found same asks =>
    obtain rfl := Option.some.inj (named.symm.trans told)
    obtain ⟨stored, isSkill⟩ := sameSkill?_known h.keyed found
    have spelled := sameSkill?_spells found
    have knows : c.state.Knows base skill.name :=
      same.name ▸ ⟨(baseName_of_sameName spelled).trans teachable.own,
        by rw [GameState.kindOf?_of_find? stored, isSkill]⟩
    have before := h.lessons skill.name (h.taught skill.name knows)
    have kind : skill.kind = .skill := same.kind.trans isSkill
    rw [asks, asked]
    change Schooled base player members (names ++ [new]) (teach _ _ _ _ _).state
    rw [teach_player (h.toSchool.put kind nofun before.apart before.outside)]
    exact h.refresh knows kind teachable (same.name ▸ spelled)
  | @defined name description cleared skill learner told described unknown way raw isSkill asks =>
    obtain rfl := Option.some.inj (named.symm.trans told)
    obtain rfl := lesson.plain skill.name raw
    rw [asks, asked]
    exact (h.way teachable.own single unknown way).teach teachable isSkill _ description

end Gamebook
