import Gamebook.Proofs.Interpretation.Steps
import Gamebook.Proofs.Tag.Lesson

/-!
Lessons in the skills of one base name. Whatever the order of the ranks, a narrative of lessons leaves
the player the names of the highest one, and these are what the game knows of the base name; unless a
tag outranks two names at once, of which only one would make way.
-/

namespace Gamebook

open Attribute Skill
open GameState (Agrees School Schooled)
open Play (Yields)

/-! ### What is left -/

namespace GameState

/-- The names of the known skills with a base name. -/
def skillsOf (base : String) (s : GameState) : List String :=
  ((s.ofKind .skill).map (·.name)).filter (baseName · = base)

/-- Whether the player has learned the known skills of a base name and no others, all of the highest
rank among some names. -/
def KeepsBest (base : String) (names : List String) (s : GameState) : Prop :=
  ∃ pc ∈ s.pc?, s.skillsOf base ⊆ pc.learnedSkills.filter (baseName · = base) ∧
    pc.learnedSkills.filter (baseName · = base) ⊆ s.skillsOf base ∧
    ∀ name ∈ s.skillsOf base, ∀ other ∈ names, rank other ≤ rank name

instance (base : String) (names : List String) (s : GameState) : Decidable (s.KeepsBest base names) :=
  inferInstanceAs (Decidable (∃ pc ∈ s.pc?, _))

/-- Whether a game knows no skill of a base name, and nobody whose skills are looked after, known or
in the party, has one. -/
structure Untaught (base : String) (s : GameState) : Prop where
  unknown : ∀ e ∈ s.ofKind .skill, baseName e.name ≠ base
  unheld : ∀ holder ∈ holderNames s, ∀ e ∈ s.find? holder, ∀ name ∈ e.skillNames, baseName name ≠ base

instance (base : String) (s : GameState) : Decidable (s.Untaught base) :=
  decidable_of_iff ((∀ e ∈ s.ofKind .skill, baseName e.name ≠ base) ∧
    ∀ holder ∈ holderNames s, ∀ e ∈ s.find? holder, ∀ name ∈ e.skillNames, baseName name ≠ base)
    ⟨fun ⟨unknown, unheld⟩ => ⟨unknown, unheld⟩, fun h => ⟨h.unknown, h.unheld⟩⟩

variable {s t : GameState} {e m pc : Entity} {base player name : String} {members names : List String}

theorem mem_skillsOf (keyed : s.WellKeyed) : name ∈ s.skillsOf base ↔ s.Knows base name := by
  constructor
  · intro member
    obtain ⟨listed, own⟩ := List.mem_filter.mp member
    obtain ⟨e, skill, rfl⟩ := List.mem_map.mp listed
    exact knows_of_skill keyed skill (of_decide_eq_true own)
  · intro known
    obtain ⟨e, skill, rfl⟩ := known.listed keyed
    exact List.mem_filter.mpr ⟨List.mem_map_of_mem skill, decide_eq_true known.1⟩

theorem mem_holderNames (keyed : s.WellKeyed) (found : s.find? name = some e)
    (character : e.isCharacter = true) : name ∈ holderNames s :=
  List.mem_append_left _ (List.mem_map.mpr
    ⟨e, List.mem_filter.mpr ⟨Keyed.mem_values found, character⟩, keyed.name_eq found⟩)

theorem mem_holderNames_of_partner (member : m ∈ s.party) : m.name ∈ holderNames s := by
  have listed : m.name ∈ s.party.map (·.name) := List.mem_map_of_mem member
  rw [holderNames]
  by_cases known : m.name ∈ (s.knownEntities.values.filter (·.isCharacter)).map (·.name)
  · exact List.mem_append_left _ known
  · exact List.mem_append_right _ (List.mem_filter.mpr ⟨listed, decide_eq_true known⟩)

/-- Before the first lesson. -/
theorem Untaught.schooled (h : s.Untaught base) (keyed : s.WellKeyed)
    (copies : ∀ m ∈ s.party, s.find? m.name = some m) (leads : s.pc? = some pc)
    (alone : (s.find? "pc").any Scene.isOtherCharacter = false) :
    Schooled base pc.name (s.party.map (·.name)) [] s := by
  have unknown (name : String) : ¬s.Knows base name := fun known => by
    obtain ⟨e, skill, rfl⟩ := known.listed keyed
    exact h.unknown e skill known.1
  have single (e : Entity) (found : s.find? "pc" = some e) : Scene.isOtherCharacter e = false := by
    rwa [found] at alone
  exact {
    keyed
    company := rfl
    held := fun holder name own ⟨e, found, character, listed⟩ =>
      absurd own (h.unheld holder (mem_holderNames keyed found character) e found name listed)
    party := fun m member name listed own =>
      absurd own (h.unheld m.name (mem_holderNames_of_partner member) m (copies m member) name listed)
    things := fun e found _ member => by
      obtain ⟨m, present, same⟩ := List.mem_map.mp member
      exact h.unheld e.name (same ▸ mem_holderNames_of_partner present) e found
    leads := ⟨pc, leads, rfl⟩
    known := fun name member => by
      obtain ⟨m, present, rfl⟩ := List.mem_map.mp member
      rw [copies m present]
      rfl
    alone := single
    partners := fun m member named => single m (named ▸ copies m member)
    lessons := fun name none => absurd none List.not_mem_nil
    learned := fun name known => absurd known (unknown name)
    taught := fun name known => absurd known (unknown name)
    best := fun name known => absurd known (unknown name)
    spelled := fun a _ known => absurd known (unknown a)
    present := fun some => absurd rfl some }

theorem Agrees.mem_skillsOf (h : Agrees base s t) (keyed : t.WellKeyed) :
    name ∈ t.skillsOf base ↔ s.Knows base name :=
  (GameState.mem_skillsOf keyed).trans (and_congr_right fun own => by rw [h.kinds name own])

/-- After the last one. -/
theorem Schooled.keepsBest (h : Schooled base player members names s) (agrees : Agrees base s t)
    (keyed : t.WellKeyed) (leads : t.pc? = some pc) (named : pc.name = player) :
    t.KeepsBest base names := by
  obtain rfl := named
  have same (name : String) : name ∈ t.skillsOf base ↔ s.Knows base name :=
    agrees.mem_skillsOf keyed
  have found := find?_pc keyed leads
  have isPlayer := (pc?_eq_some leads).2
  have names : pc.skillNames = pc.learnedSkills := if_pos isPlayer
  have character : pc.isCharacter = true := by rw [Entity.isCharacter, isPlayer]; rfl
  refine ⟨pc, leads, fun name member => ?_, fun name member => ?_, fun name member => ?_⟩
  · have known := (same name).mp member
    obtain ⟨bearer, first, -, listed⟩ := (agrees.holders pc.name name known.1).mpr (h.learned name known)
    obtain rfl := Option.some.inj (found.symm.trans first)
    exact List.mem_filter.mpr ⟨names ▸ listed, decide_eq_true known.1⟩
  · obtain ⟨listed, own⟩ := List.mem_filter.mp member
    have own := of_decide_eq_true own
    have held := (agrees.holders pc.name name own).mp ⟨pc, found, character, names ▸ listed⟩
    exact (same name).mpr ⟨own, (h.held pc.name name own held).resolve_right
      (Option.some_ne_none _).symm⟩
  · exact h.best name ((same name).mp member)

/-- What a school comes to once it is synchronized. -/
theorem Schooled.leaves (h : Schooled base player members names s) (agrees : Agrees base s t)
    (keyed : t.WellKeyed) (leads : t.pc? = some pc) (named : pc.name = player) :
    t.pc?.map (·.name) = some player ∧ t.KeepsBest base names ∧ t.skillsOf base ⊆ names ∧
      (names ≠ [] → t.skillsOf base ≠ []) := by
  refine ⟨by rw [leads, Option.map_some, named], h.keepsBest agrees keyed leads named, ?_, ?_⟩
  · exact fun name member => h.taught name ((agrees.mem_skillsOf keyed).mp member)
  · intro some
    obtain ⟨name, known⟩ := h.present some
    exact List.ne_nil_of_mem ((agrees.mem_skillsOf keyed).mpr known)

end GameState

/-! ### The narrative -/

/-- The name that a step teaches; none if its tag has failed. -/
def TagStep.lesson? (x : TagStep) : Option String :=
  if x.failed then none else text? (parse x.tag.body) "name"

/-- The names that a narrative of lessons teaches, one after another. -/
def lessonsOf (rules : List Rule) (text : String) (s : GameState) (d : Draws) : List String :=
  (stepsOf rules text s d).filterMap TagStep.lesson?

section

variable {base player name : String} {members : List String} {done : List TagStep} {x : TagStep}
  {rules : List Rule}

/-- A step of a lesson adds its name to those that were taught, unless its tag has failed. -/
theorem TagStep.Runs.schools (run : x.Runs rules)
    (h : Schooled base player members (done.filterMap TagStep.lesson?) x.before.state)
    (told : x.tag.kind? = some .skillLearned) (lesson : Lesson (parse x.tag.body) name)
    (teachable : Teachable base player members name)
    (single : x.lesson? = some name → outranksTwo (done.filterMap TagStep.lesson?) name = false) :
    Schooled base player members ((done ++ [x]).filterMap TagStep.lesson?) x.after.state := by
  rw [List.filterMap_append, List.filterMap_cons, List.filterMap_nil]
  cases run with
  | passed idle state failed =>
    rw [told] at idle
    rcases idle with none | other | empty
    · exact nomatch none
    · exact nomatch other
    · have named := lesson.named
      rw [empty] at named
      exact nomatch named
  | failed state failed =>
    rw [TagStep.lesson?, failed, state]
    exact (List.append_nil _).symm ▸ h
  | @played kind p known yields state failed =>
    obtain rfl := Option.some.inj (known.symm.trans told)
    have taught : x.lesson? = some name := by rw [TagStep.lesson?, failed]; exact lesson.named
    rw [taught, state]
    exact Scene.learn_schools (c := { state := x.before.state, rules }) h (Keyed.nodup_ofPairs _)
      lesson teachable (single taught) yields

end

/-- A narrative of lessons for the player, in a base name that nobody has and no skill is known of, on
a state that keeps in step, gives a result. The names of the skills with the base name and those that
the player has learned are the same then, each taught by a tag that did not fail and of the highest
rank of all these, and there are some if any was taught; unless a name outranked two names at once. -/
theorem interpret_keeps_best {s : GameState} {pc : Entity} {base text : String} {rules : List Rule}
    {d : Draws} (keyed : s.WellKeyed) (copies : ∀ m ∈ s.party, s.find? m.name = some m)
    (leads : s.pc? = some pc) (alone : (s.find? "pc").any Scene.isOtherCharacter = false)
    (untaught : s.Untaught base)
    (lessons : ∀ t ∈ Tag.find text, ∃ name, t.kind? = some .skillLearned ∧
      Lesson (parse t.body) name ∧ Teachable base pc.name (s.party.map (·.name)) name)
    (uncontested : contested [] (lessonsOf rules text s d) = false) :
    ∃ i d', interpret rules text s d = (.ok i, d') ∧ i.state.pc?.map (·.name) = some pc.name ∧
      i.state.KeepsBest base (lessonsOf rules text s d) ∧
      i.state.skillsOf base ⊆ lessonsOf rules text s d ∧
      (lessonsOf rules text s d ≠ [] → i.state.skillsOf base ≠ []) := by
  obtain ⟨i, d', ok, u, later, school, agrees, still, present, named⟩ := interpret_carries
    (P := fun done t =>
      Schooled base pc.name (s.party.map (·.name)) (done.filterMap TagStep.lesson?) t)
    (Q := fun t => ∃ u later,
      Schooled base pc.name (s.party.map (·.name)) (lessonsOf rules text s d) u ∧
        Agrees base u t ∧ t.WellKeyed ∧ t.pc? = some later ∧ later.name = pc.name)
    keyed (untaught.schooled keyed copies leads alone)
    (fun done x later (split : stepsOf rules text s d = done ++ x :: later) run h => by
      have member : x ∈ stepsOf rules text s d :=
        split ▸ List.mem_append_right done List.mem_cons_self
      obtain ⟨name, told, lesson, teachable⟩ := lessons x.tag (Progress.steps_tag member)
      refine run.schools h told lesson teachable fun taught => ?_
      rw [lessonsOf, split, List.filterMap_append, List.filterMap_cons_some taught] at uncontested
      exact outranksTwo_of_uncontested uncontested)
    (fun t h => by
      obtain ⟨later, present, named⟩ := h.leads
      exact ⟨t, later, h, .refl base t, h.keyed, present, named⟩)
    (fun t settled h given => by
      obtain ⟨mid, present, named⟩ := h.leads
      have run := (Skill.synchronize_gives h.keyed).of_yields given
      obtain ⟨later, last, same, -⟩ := Settled.leads run h.keyed present
      exact ⟨t, later, h, Skill.synchronize_agrees h.toTidy h.known given, run.wellKeyed h.keyed,
        last, same.trans named⟩)
  exact ⟨i, d', ok, school.leaves agrees still present named⟩

/-- A hero with a companion in the party. -/
def archer : GameState :=
  let lan : Entity := { name := "Lan", kind := .companion }
  { knownEntities := [("Hero", { name := "Hero", kind := .pc }), ("Lan", lan)]
    party := [lan] }

/-- The tag of a lesson for the player. -/
def lessonTag (name more : String) : String :=
  "[SKILL_LEARNED: name=\"" ++ name ++ "\" description=x learner=pc" ++ more ++ "]"

/-- Archery of no mastery, of two high ones that are equal, and of none again. -/
def archery : String :=
  lessonTag "Bow" "" ++ lessonTag "Bow cao cấp" "" ++ lessonTag "Bow nâng cao" "" ++
    lessonTag "Bow (long)" ""

theorem archery_keeps_best : ∃ i d', interpret [] archery archer {} = (.ok i, d') ∧
    i.state.pc?.map (·.name) = some "Hero" ∧
    i.state.KeepsBest "bow" ["Bow", "Bow cao cấp", "Bow nâng cao", "Bow (long)"] ∧
    i.state.skillsOf "bow" ≠ [] := by
  have copies : ∀ m ∈ archer.party, archer.find? m.name = some m := List.forall_mem_singleton.mpr rfl
  have untaught : archer.Untaught "bow" := ⟨by decide +kernel, by decide +kernel⟩
  have lessons : ∀ t ∈ Tag.find archery, ∃ name ∈ text? (parse t.body) "name",
      t.kind? = some .skillLearned ∧ Lesson (parse t.body) name ∧
        Teachable "bow" "Hero" ["Lan"] name := by
    decide +kernel
  have names : lessonsOf [] archery archer {} =
      ["Bow", "Bow cao cấp", "Bow nâng cao", "Bow (long)"] := by
    decide +kernel
  have uncontested : contested [] ["Bow", "Bow cao cấp", "Bow nâng cao", "Bow (long)"] = false := by
    decide +kernel
  obtain ⟨i, d', ok, player, best, -, present⟩ := interpret_keeps_best (d := {})
    (by decide : archer.WellKeyed) copies rfl rfl untaught
    (fun t member => (lessons t member).imp fun _ => And.right) (names ▸ uncontested)
  rw [names] at best present
  exact ⟨i, d', ok, player, best, present (List.cons_ne_nil _ _)⟩

/-- Whether a text tells the player lessons in some names of a base name that is untaught, and the
player does not keep the best of them. -/
def losesBest (base : String) (names : List String) (text : String) (s : GameState) : Bool :=
  decide (s.WellKeyed ∧ s.pc?.isSome ∧ s.Untaught base ∧
    ((Tag.find text).map fun t => rawText? (parse t.body) "name") = names.map some ∧
    (∀ t ∈ Tag.find text, t.kind? = some .skillLearned ∧
      (text? (parse t.body) "description").isSome ∧ text? (parse t.body) "learner" = some "pc") ∧
    ∀ name ∈ names, baseName name = base ∧ Text.trim name = name ∧ isPlaceholder name = false) &&
  Play.passes (interpret [] text s) {} fun i _ => ¬i.state.KeepsBest base names

/-- A hero alone. -/
def loner : GameState where
  knownEntities := [("Hero", { name := "Hero", kind := .pc })]

/-- A hero and somebody who bears the player's title for a name. -/
def rivals : GameState where
  knownEntities :=
    [("Hero", { name := "Hero", kind := .pc }), ("pc", { name := "pc", kind := .npc })]

/-- The best is lost where somebody else is called as the player, where a skill takes the name of the
player or of a companion, where the tag of the best fails, and where it outranks two at once. -/
theorem best_not_always_kept :
    (∀ s ∈ [rivals, loner, archer], ∀ m ∈ s.party, s.find? m.name = some m) ∧
    losesBest "bow" ["Bow"] (lessonTag "Bow" "") rivals = true ∧
    losesBest "hero" ["Hero"] (lessonTag "Hero" "") loner = true ∧
    losesBest "lan" ["Lan"] (lessonTag "Lan" " skills=\"Lan (cao cấp)\"") archer = true ∧
    losesBest "bow" ["Bow", "Bow cao cấp"]
      (lessonTag "Bow" "" ++ lessonTag "Bow cao cấp" " skillExp=many") loner = true ∧
    losesBest "bow" ["Bow", "Bow (long)", "Bow cao cấp"]
      (lessonTag "Bow" "" ++ lessonTag "Bow (long)" "" ++ lessonTag "Bow cao cấp" "") loner = true := by
  refine ⟨?_, by decide +kernel, by decide +kernel, by decide +kernel, by decide +kernel,
    by decide +kernel⟩
  intro s listed m member
  simp only [List.mem_cons, List.not_mem_nil, or_false] at listed
  rcases listed with rfl | rfl | rfl
  · exact nomatch member
  · exact nomatch member
  · rw [List.mem_singleton.mp member]
    rfl

end Gamebook
