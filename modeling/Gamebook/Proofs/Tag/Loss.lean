import Mathlib.Data.List.Nodup
import Mathlib.Tactic.SplitIfs
import Gamebook.Proofs.Tag.Run

/-!
What a tag removes from the known entities. At most one name is missing afterwards, and the tag asked
for it: an item used up, lost or transformed, the former name of an entity that was renamed, a skill
that nobody holds any more, or one that the learned skill outranks.
-/

namespace Gamebook

open Attribute
open Play (Yields)

/-! ### Lost names -/

namespace GameState

variable {s t : GameState} {name : String}

/-- The names known before that are not known any more. -/
def lost (before after : GameState) : List String :=
  before.knownEntities.keys.filter (· ∉ after.knownEntities.keys)

/-- The characters among the known entities and in the party. -/
def characters (s : GameState) : List Entity :=
  (s.knownEntities.values ++ s.party).filter (·.isCharacter)

theorem kindOf?_eq_none_iff : s.kindOf? name = none ↔ name ∉ s.knownEntities.keys := by
  rw [kindOf?, Option.map_eq_none_iff]
  exact Keyed.get?_eq_none

theorem mem_lost : name ∈ s.lost t ↔ s.kindOf? name ≠ none ∧ t.kindOf? name = none := by
  rw [lost, List.mem_filter, decide_eq_true_iff, kindOf?_eq_none_iff, ne_eq, kindOf?_eq_none_iff, not_not]

theorem lost_put (e : Entity) (member : name ∈ s.lost (t.put e)) :
    name ∈ s.lost t ∧ name ≠ e.name := by
  rw [mem_lost, kindOf?_put] at member
  obtain ⟨before, after⟩ := member
  split_ifs at after with same
  exact ⟨mem_lost.mpr ⟨before, after⟩, Ne.symm same⟩

theorem not_mem_lost_self : name ∉ s.lost s := fun member =>
  (mem_lost.mp member).1 (mem_lost.mp member).2

theorem lost_forget {forgotten : String} (member : name ∈ s.lost (t.forget forgotten)) :
    name = forgotten ∨ name ∈ s.lost t := by
  rw [mem_lost, kindOf?_forget] at member
  obtain ⟨before, after⟩ := member
  split_ifs at after with same
  · exact .inl same
  · exact .inr (mem_lost.mpr ⟨before, after⟩)

theorem lost_rename {old : String} {e : Entity} (member : name ∈ s.lost (s.rename old e)) :
    name = old ∧ name ≠ e.name := by
  obtain ⟨before, after⟩ := mem_lost.mp member
  rw [kindOf?_rename] at after
  split_ifs at after with new former
  · exact ⟨former, new⟩
  · exact absurd after before

theorem mem_keys_rename (s : GameState) (old : String) (e : Entity) :
    e.name ∈ (s.rename old e).knownEntities.keys := by
  by_contra absent
  rw [← kindOf?_eq_none_iff, kindOf?_rename, if_pos rfl] at absent
  exact nomatch absent

theorem unheld_of_isHeld (unheld : Skill.isHeld s name = false) :
    ∀ e ∈ s.characters, name ∉ e.skillNames := by
  intro e member holds
  obtain ⟨listed, character⟩ := List.mem_filter.mp member
  refine Bool.false_ne_true (unheld.symm.trans (List.any_eq_true.mpr ⟨e, listed, ?_⟩))
  rw [character, Bool.true_and]
  exact decide_eq_true holds

theorem characters_forget {e : Entity} (member : e ∈ (s.forget name).characters) :
    e ∈ s.characters := by
  obtain ⟨listed, character⟩ := List.mem_filter.mp member
  refine List.mem_filter.mpr ⟨?_, character⟩
  rcases List.mem_append.mp listed with known | inParty
  · exact List.mem_append_left _ (List.map_subset _ (fun _ => List.mem_of_mem_filter) known)
  · exact List.mem_append_right _ inParty

end GameState

open GameState

theorem Retold.mem_lost {s r t : GameState} {name : String} (rest : Retold r t) :
    name ∈ s.lost t ↔ name ∈ s.lost r := by
  rw [GameState.mem_lost, GameState.mem_lost, rest.kindOf?]

theorem Retold.mem_keys {r t : GameState} {name : String} (rest : Retold r t) :
    name ∈ t.knownEntities.keys ↔ name ∈ r.knownEntities.keys := by
  rw [← not_iff_not, ← kindOf?_eq_none_iff, ← kindOf?_eq_none_iff, rest.kindOf?]

/-! ### Entitlement -/

/-- Whether a tag, told with its attributes, is entitled to remove a name between two states. -/
inductive MayRemove (kind : TagKind) (attrs : Fields) (before after : GameState) : String → Prop
  | usedUp {item : Entity} (tag : kind = .itemConsumed ∨ kind = .itemDiscarded ∨ kind = .itemLost)
    (asked : text? attrs "name" = some item.name) (found : before.find? item.name = some item)
    (owned : item.kind = .item ∧ item.owner = some "pc") : MayRemove kind attrs before after item.name
  | transformed {old : String} (tag : kind = .itemTransformed)
    (asked : text? attrs "oldName" = some old) : MayRemove kind attrs before after old
  | renamed {e : Entity} {new : String} (tag : kind = .entityUpdate)
    (asked : text? attrs "name" = some e.name) (found : before.find? e.name = some e)
    (called : text? attrs "newName" = some new) (apart : new ≠ e.name)
    (known : new ∈ after.knownEntities.keys) : MayRemove kind attrs before after e.name
  | playerRenamed {pc : Entity} {new : String} (tag : kind = .lorePc)
    (player : before.pc? = some pc) (called : text? attrs "name" = some new)
    (apart : new ≠ pc.name) (known : new ∈ after.knownEntities.keys) :
    MayRemove kind attrs before after pc.name
  | unheld {old : String} (tag : kind = .skillUpdate) (asked : text? attrs "oldSkill" = some old)
    (free : ∀ e ∈ after.characters, old ∉ e.skillNames) : MayRemove kind attrs before after old
  | outranked {old : Entity} {learned : String} (tag : kind = .skillLearned)
    (asked : text? attrs "name" = some learned) (found : before.find? old.name = some old)
    (skill : old.kind = .skill) (shared : Skill.baseName old.name = Skill.baseName learned)
    (lower : Skill.rank old.name < Skill.rank learned) : MayRemove kind attrs before after old.name

/-- All that a tag's change to the cast removes is one name, which the tag may remove. -/
theorem Recasts.removes {kind : TagKind} {attrs : Fields} {s t : GameState}
    (step : Recasts kind attrs s t) :
    ∃ gone, ∀ name ∈ s.lost t, name = gone ∧ MayRemove kind attrs s t name := by
  cases step with
  | retold rest => exact ⟨"", fun _ member => absurd (rest.mem_lost.mp member) not_mem_lost_self⟩
  | introduced named kinded rest =>
    exact ⟨"", fun _ member => absurd (lost_put _ (rest.mem_lost.mp member)).1 not_mem_lost_self⟩
  | @superseded old e new _ found skill named kinded rest tag learned shared outranked =>
    refine ⟨old.name, fun name member => ?_⟩
    have dropped := (lost_put e (rest.mem_lost.mp member)).1
    obtain rfl | kept := lost_forget dropped
    · exact ⟨rfl, .outranked tag learned found skill shared outranked⟩
    · -- Rewriting the references leaves every name where it is.
      rw [GameState.mem_lost, kindOf?_replaceReferences] at kept
      exact absurd kept.2 kept.1
  | @joined e named kinded companion =>
    refine ⟨"", fun name member => ?_⟩
    exact absurd (lost_put (t := Scene.joinParty e s) e member).1 not_mem_lost_self
  | @forgotten e found item tag asked owned =>
    refine ⟨e.name, fun name member => ?_⟩
    obtain rfl | kept := lost_forget member
    · refine ⟨rfl, .usedUp ?_ asked found (by simpa [Entity.isOwnedItem] using owned)⟩
      simpa [TagKind.usesUp, or_assoc] using tag
    · exact absurd kept not_mem_lost_self
  | @transformed old e tag source target item =>
    refine ⟨old, fun name member => ?_⟩
    obtain rfl | kept := lost_forget (lost_put e member).1
    · exact ⟨rfl, .transformed tag source⟩
    · exact absurd kept not_mem_lost_self
  | @succeeded old new r t tag source target apart defined rest dropped unheld =>
    have kept (name : String) : name ∉ s.lost t := by
      rw [rest.mem_lost]
      obtain rfl | ⟨e, -, -, -, rfl⟩ := defined
      · exact not_mem_lost_self
      · exact fun member => not_mem_lost_self (lost_put e member).1
    refine ⟨old, fun name member => ?_⟩
    cases dropped with
    | false => exact absurd member (kept name)
    | true =>
      obtain rfl | still := lost_forget member
      · refine ⟨rfl, .unheld tag source fun e listed => ?_⟩
        exact unheld_of_isHeld (unheld rfl) e (characters_forget listed)
      · exact absurd still (kept name)
  | updated tag found asked named kinded rest =>
    exact ⟨"", fun _ member => absurd (lost_put _ (rest.mem_lost.mp member)).1 not_mem_lost_self⟩
  | @renamed e updated _ tag found asked named apart kinded rest =>
    refine ⟨e.name, fun name member => ?_⟩
    obtain ⟨rfl, -⟩ := lost_rename (rest.mem_lost.mp member)
    have known := rest.mem_keys.mpr (mem_keys_rename s e.name updated)
    exact ⟨rfl, .renamed tag asked found named apart known⟩
  | @playerIntroduced pc _ tag absent named kinded rest =>
    refine ⟨"", fun name member => ?_⟩
    exact absurd (lost_put (t := s) pc (rest.mem_lost.mp member)).1 not_mem_lost_self
  | @playerDescribed existing pc _ tag present named kinded rest =>
    refine ⟨existing.name, fun name member => ?_⟩
    have gone := rest.mem_lost.mp member
    -- Only a player with a new name leaves the old one.
    rw [Scene.storePlayer] at gone rest
    split_ifs at gone rest with same
    · exact absurd (lost_put (t := s) pc gone).1 not_mem_lost_self
    · obtain ⟨rfl, -⟩ := lost_rename (s := s) gone
      cases told : text? attrs "name" with
      | none =>
        rw [told] at named
        exact absurd named same
      | some new =>
        obtain rfl : pc.name = new := by rw [named, told, Option.getD_some]
        have known := rest.mem_keys.mpr (mem_keys_rename s existing.name pc)
        exact ⟨rfl, .playerRenamed tag present told same known⟩

/-- A tag that is played loses at most one name, and only one that it is entitled to remove. -/
theorem TagKind.play_loses {kind : TagKind} {attrs : Fields} {c : Scene} {p : Played}
    (keyed : c.state.WellKeyed) (distinct : attrs.keys.Nodup) (y : Yields (kind.play attrs c) p) :
    (c.state.lost p.scene.state).length ≤ 1 ∧
      ∀ name ∈ c.state.lost p.scene.state, MayRemove kind attrs c.state p.scene.state name := by
  obtain ⟨gone, only⟩ := (TagKind.play_recasts keyed distinct y).removes
  have once : (c.state.lost p.scene.state).Nodup := keyed.distinct.filter _
  refine ⟨?_, fun name member => (only name member).2⟩
  rw [List.eq_replicate_of_mem fun name member => (only name member).1] at once
  exact List.nodup_replicate.mp once

/-- A fencer with a first skill and a ring. -/
def apprenticed : GameState :=
  { knownEntities :=
      [("Lan", { name := "Lan", kind := .pc, learnedSkills := ["Sword (sơ cấp)"] }),
        ("Sword (sơ cấp)", { name := "Sword (sơ cấp)", kind := .skill }),
        ("Ring", { name := "Ring", kind := .item, owner := some "pc" })] }

/-- What the fencer learns next. -/
def mastery : Fields :=
  [("name", .text "Sword (cao cấp)"), ("description", .text "Fast"), ("learner", .text "Lan")]

theorem apprenticed_loses_skill : apprenticed.WellKeyed ∧ mastery.keys.Nodup ∧
    ∃ p, Yields (TagKind.skillLearned.play mastery { state := apprenticed }) p ∧
      apprenticed.lost p.scene.state = ["Sword (sơ cấp)"] ∧
      (apprenticed.lost p.scene.state).length ≤ 1 ∧
      ∀ name ∈ apprenticed.lost p.scene.state,
        MayRemove .skillLearned mastery apprenticed p.scene.state name := by
  have keyed : apprenticed.WellKeyed := by decide
  have outdone : Play.passes (TagKind.skillLearned.play mastery { state := apprenticed }) {}
      (fun p _ => apprenticed.lost p.scene.state = ["Sword (sơ cấp)"]) = true := by
    decide +kernel
  obtain ⟨p, d', ok, gone⟩ := Play.exists_of_passes outdone
  have y : Yields (TagKind.skillLearned.play mastery { state := apprenticed }) p := ⟨{}, d', ok⟩
  exact ⟨keyed, by decide, p, y, of_decide_eq_true gone,
    TagKind.play_loses (c := { state := apprenticed }) keyed (by decide) y⟩

end Gamebook
