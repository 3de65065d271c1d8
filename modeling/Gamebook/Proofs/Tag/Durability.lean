import Gamebook.Proofs.Interpretation.Steps
import Gamebook.Proofs.Number.Percent
import Gamebook.Proofs.Outcome
import Gamebook.Proofs.Tag.Filing

/-!
Wear and repair. Damage is cut off at zero and a repair at a hundred, each on that side alone; the
other side is left to the amounts. A durability between zero and a hundred stays there as long as no
tag oversteps the other side, and tags whose amounts are not negative never do.
-/

namespace Gamebook

open Attribute
open Play (Yields yields_pure yields_ofOutcome)

variable {rules : List Rule} {tags : List Tag} {s : GameState} {e : Entity} {name : String}
  {x : TagStep}

namespace Scene

theorem damaged_eq_ok {durability amount z : Number} : damaged durability amount = .ok z ↔
    ∃ left, durability.sub? amount = some left ∧ (Number.int 0).max left = z := by
  simp only [damaged, Outcome.bind_eq_ok, Outcome.ofArithmetic_eq_ok, Outcome.pure_eq_ok]

theorem repaired_eq_ok {durability amount z : Number} : repaired durability amount = .ok z ↔
    ∃ raised, durability.add? amount = some raised ∧ maxDurability.min raised = z := by
  simp only [repaired, Outcome.bind_eq_ok, Outcome.ofArithmetic_eq_ok, Outcome.pure_eq_ok]

end Scene

/-- Whether what is known under a name is an entity with some durability between zero and a
hundred. -/
def GameState.Intact (name : String) (e : Entity) (s : GameState) : Prop :=
  ∃ y, y.Percent ∧ s.find? name = some { e with durability := some y }

namespace Tag

/-- Whether a tag damages or repairs what is known under a name. -/
inductive Wears (name : String) (t : Tag) : Prop
  | damages (known : t.kind? = some .itemDamaged) (asked : text? (parse t.body) "name" = some name)
  | repairs (known : t.kind? = some .itemRepaired) (asked : text? (parse t.body) "name" = some name)

instance (name : String) (t : Tag) : Decidable (t.Wears name) :=
  decidable_of_iff
    ((t.kind? = some .itemDamaged ∨ t.kind? = some .itemRepaired) ∧
      text? (parse t.body) "name" = some name)
    ⟨fun h => h.1.elim (.damages · h.2) (.repairs · h.2), fun h => by cases h <;> simp [*]⟩

theorem Wears.not_idle {t : Tag} (h : t.Wears name) :
    ¬(t.kind? = none ∨ t.kind? = some .defineRealmSystem ∨ parse t.body = []) := by
  have asked : text? (parse t.body) "name" = some name := by
    cases h <;> assumption
  rintro (unknown | ignored | empty)
  · cases h with
    | damages known | repairs known => exact nomatch known.symm.trans unknown
  · cases h with
    | damages known | repairs known => exact nomatch known.symm.trans ignored
  · rw [empty] at asked
    exact nomatch asked

/-- The amount by which a tag damages or repairs. -/
def wear (t : Tag) : Number :=
  Scene.numberGiven (parse t.body)
    (if t.kind? = some .itemRepaired then "repairedAmount" else "damage")

end Tag

namespace TagStep

/-- Whether a tag takes a durability across the side on which it is not cut off. -/
inductive Oversteps (name : String) (x : TagStep) : Prop
  | damages {e : Entity} {y left : Number} (known : x.tag.kind? = some .itemDamaged)
    (played : x.failed = false) (found : x.before.state.find? name = some e) (own : e.name = name)
    (worth : e.durability = some y) (taken : y.sub? x.tag.wear = some left)
    (above : (Number.int 100).lt left = true)
  | repairs {e : Entity} {y raised : Number} (known : x.tag.kind? = some .itemRepaired)
    (played : x.failed = false) (found : x.before.state.find? name = some e) (own : e.name = name)
    (worth : e.durability = some y) (added : y.add? x.tag.wear = some raised)
    (below : raised.lt (.int 0) = true)

end TagStep

theorem GameState.intact_iff {z : Number}
    (found : s.find? name = some { e with durability := some z }) : s.Intact name e ↔ z.Percent := by
  constructor
  · rintro ⟨y, sound, same⟩
    have equal := Option.some.inj (found.symm.trans same)
    rwa [Option.some.inj (congrArg Entity.durability equal)]
  · exact fun sound => ⟨z, sound, found⟩

/-- Wear leaves an entity intact unless it stores a durability out of bounds under the same name. -/
theorem Scene.wear_intact_iff {effect : Number → Outcome Number} {attrs : Fields} {c : Scene}
    {p : Played} {y : Number} (asked : text? attrs "name" = some name) (sound : y.Percent)
    (found : c.state.find? name = some { e with durability := some y })
    (yields : Yields (c.wear effect attrs) p) :
    ∃ z, effect y = .ok z ∧ (p.scene.state.Intact name e ↔ (e.name = name → z.Percent)) := by
  rw [wear, asked, find?_asked asked, found] at yields
  obtain ⟨z, effected, yields⟩ := yields.bind
  obtain rfl := yields_pure.mp yields
  refine ⟨z, yields_ofOutcome.mp effected, ?_⟩
  have stored := GameState.find?_put c.state { e with durability := some z } name
  by_cases own : e.name = name
  · rw [if_pos own] at stored
    exact (GameState.intact_iff stored).trans (imp_iff_right own).symm
  · rw [if_neg own, found] at stored
    exact iff_of_true ⟨y, sound, stored⟩ fun same => absurd same own

namespace TagStep

variable {y z : Number}

theorem oversteps_damaged_iff (known : x.tag.kind? = some .itemDamaged) (played : x.failed = false)
    (found : x.before.state.find? name = some { e with durability := some y })
    (taken : y.sub? x.tag.wear = some z) :
    x.Oversteps name ↔ e.name = name ∧ (Number.int 100).lt z = true := by
  constructor
  · rintro (⟨-, -, held, own, worth, left, above⟩ | ⟨repaired, -⟩)
    · obtain rfl := Option.some.inj (found.symm.trans held)
      obtain rfl := Option.some.inj worth
      obtain rfl := Option.some.inj (taken.symm.trans left)
      exact ⟨own, above⟩
    · exact nomatch known.symm.trans repaired
  · rintro ⟨own, above⟩
    exact .damages known played found own rfl taken above

theorem oversteps_repaired_iff (known : x.tag.kind? = some .itemRepaired) (played : x.failed = false)
    (found : x.before.state.find? name = some { e with durability := some y })
    (added : y.add? x.tag.wear = some z) :
    x.Oversteps name ↔ e.name = name ∧ z.lt (.int 0) = true := by
  constructor
  · rintro (⟨damaged, -⟩ | ⟨-, -, held, own, worth, raised, below⟩)
    · exact nomatch known.symm.trans damaged
    · obtain rfl := Option.some.inj (found.symm.trans held)
      obtain rfl := Option.some.inj worth
      obtain rfl := Option.some.inj (added.symm.trans raised)
      exact ⟨own, below⟩
  · rintro ⟨own, below⟩
    exact .repairs known played found own rfl added below

theorem Oversteps.played (h : x.Oversteps name) : x.failed = false := by
  cases h with
  | damages _ played | repairs _ played => exact played

/-- A tag that damages or repairs an intact entity leaves it intact unless it oversteps. -/
theorem Runs.intact_iff (runs : x.Runs rules) (wears : x.tag.Wears name)
    (before : x.before.state.Intact name e) : x.after.state.Intact name e ↔ ¬x.Oversteps name := by
  cases runs with
  | passed idle => exact absurd idle wears.not_idle
  | failed state failed =>
    rw [state]
    exact iff_of_true before fun crossed => Bool.false_ne_true (crossed.played.symm.trans failed)
  | played known yields state played =>
    rw [state]
    obtain ⟨y, sound, found⟩ := before
    cases wears with
    | damages kind asked =>
      obtain rfl := Option.some.inj (known.symm.trans kind)
      obtain ⟨z, effected, intact⟩ := Scene.wear_intact_iff asked sound found yields
      have amount : x.tag.wear = Scene.numberGiven (parse x.tag.body) "damage" := by
        rw [Tag.wear, kind]
        rfl
      obtain ⟨left, taken, rfl⟩ := Scene.damaged_eq_ok.mp (amount ▸ effected)
      rw [intact, oversteps_damaged_iff kind played found taken, not_and, Bool.not_eq_true,
        Number.percent_max_iff]
    | repairs kind asked =>
      obtain rfl := Option.some.inj (known.symm.trans kind)
      obtain ⟨z, effected, intact⟩ := Scene.wear_intact_iff asked sound found yields
      have amount : x.tag.wear = Scene.numberGiven (parse x.tag.body) "repairedAmount" := by
        rw [Tag.wear, kind]
        rfl
      obtain ⟨raised, added, rfl⟩ := Scene.repaired_eq_ok.mp (amount ▸ effected)
      rw [intact, oversteps_repaired_iff kind played found added, not_and, Bool.not_eq_true]
      exact forall_congr' fun _ => Number.percent_min_iff

/-- A tag whose amount is not negative does not overstep. -/
theorem not_oversteps (before : x.before.state.Intact name e)
    (positive : (Number.int 0).le x.tag.wear = true) : ¬x.Oversteps name := by
  obtain ⟨y, sound, found⟩ := before
  rintro (⟨-, -, held, -, worth, left, above⟩ | ⟨-, -, held, -, worth, raised, below⟩)
  all_goals
    obtain rfl := Option.some.inj (found.symm.trans held)
    obtain rfl := Option.some.inj worth
  · exact Bool.false_ne_true ((sound.sub? positive left).symm.trans above)
  · exact Bool.false_ne_true ((sound.add? positive raised).symm.trans below)

end TagStep

/-- Tags that damage and repair an entity leave its durability between zero and a hundred, after every
tag, if and only if none of them oversteps; and so they do if no amount is negative. -/
theorem steps_keep_durability {y : Number} (rules : List Rule) (d : Draws)
    (worn : ∀ t ∈ tags, t.Wears name) (found : s.find? name = some e)
    (worth : e.durability = some y) (sound : y.Percent) :
    ((∀ x ∈ Progress.steps rules tags ({ state := s }, d), x.after.state.Intact name e) ↔
      ∀ x ∈ Progress.steps rules tags ({ state := s }, d), ¬x.Oversteps name) ∧
    ((∀ t ∈ tags, (Number.int 0).le t.wear = true) →
      ∀ x ∈ Progress.steps rules tags ({ state := s }, d), x.after.state.Intact name e) := by
  have start : s.Intact name e := ⟨y, sound, by rw [← worth, found]⟩
  refine ⟨⟨fun intact x member => ?_, fun within x member => ?_⟩, fun positive x member => ?_⟩
  · have before := (Progress.steps_keep start (fun x listed _ _ => intact x listed) x member).1
    exact ((Progress.steps_runs member).intact_iff (worn _ (Progress.steps_tag member)) before).mp
      (intact x member)
  · refine (Progress.steps_keep start (fun x listed runs before => ?_) x member).2
    exact (runs.intact_iff (worn _ (Progress.steps_tag listed)) before).mpr (within x listed)
  · refine (Progress.steps_keep start (fun x listed runs before => ?_) x member).2
    have listed := Progress.steps_tag listed
    exact (runs.intact_iff (worn _ listed) before).mpr
      (TagStep.not_oversteps before (positive _ listed))

/-- A sword that has seen use. -/
def usedSword : Entity :=
  { name := "Sword", kind := .item, owner := some "pc", durability := some (.int 80) }

def smithy : GameState := { knownEntities := [("Sword", usedSword)] }

/-- The sword is worn down by parts of a point, overhauled, spared and broken. -/
def bout : List Tag :=
  Tag.find ("[ITEM_DAMAGED: name=Sword damage=30.5][ITEM_REPAIRED: name=Sword repairedAmount=1e9]" ++
    "[ITEM_DAMAGED: name=Sword][ITEM_DAMAGED: name=Sword damage=250]")

theorem bout_keeps_durability :
    (∀ t ∈ bout, t.Wears "Sword") ∧ smithy.find? "Sword" = some usedSword ∧
      usedSword.durability = some (.int 80) ∧ (Number.int 80).Percent ∧
      (∀ t ∈ bout, (Number.int 0).le t.wear = true) ∧ bout.length = 4 ∧
      ∀ x ∈ Progress.steps [] bout ({ state := smithy }, {}),
        x.after.state.Intact "Sword" usedSword ∧ ¬x.Oversteps "Sword" := by
  have worn : ∀ t ∈ bout, t.Wears "Sword" := by decide +kernel
  have found : smithy.find? "Sword" = some usedSword := rfl
  have sound : (Number.int 80).Percent := by decide
  have positive : ∀ t ∈ bout, (Number.int 0).le t.wear = true := by decide +kernel
  have kept := steps_keep_durability [] {} worn found rfl sound
  have intact := kept.2 positive
  exact ⟨worn, found, rfl, sound, positive, by decide +kernel, fun x member =>
    ⟨intact x member, kept.1.mp intact x member⟩⟩

/-- Damage by a negative amount repairs beyond a hundred. -/
theorem sword_overstepped :
    let damage := Tag.find "[ITEM_DAMAGED: name=\"Sword\" damage=-50]"
    (∀ t ∈ damage, t.Wears "Sword") ∧ smithy.find? "Sword" = some usedSword ∧
      usedSword.durability = some (.int 80) ∧ (Number.int 80).Percent ∧
      ∃ x ∈ Progress.steps [] damage ({ state := smithy }, {}),
        (x.after.state.find? "Sword").bind (·.durability) = some (.int 130) ∧
          ¬(Number.int 130).Percent := by
  refine ⟨by decide +kernel, rfl, rfl, by decide, ?_⟩
  decide +kernel

end Gamebook
