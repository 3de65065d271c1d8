import Gamebook.Proofs.Acting.Cast
import Gamebook.Tag.Journal
import Gamebook.Tag.Passage
import Gamebook.Tag.Practice

/-!
Tags of what passes: time, the chronicle, statuses, and the practice of skills. Experience is the one
thing that a tag may store without a report: a skill at its cap is stored again, and the tag reports
a change only if some skill gained.
-/

namespace Gamebook

open Attribute
open Play (Yields yields_pure yields_ofOutcome)

namespace Scene

variable {c : Scene} {p : Played} {attrs : Fields} {kind : TagKind} {e : Entity}

/-! ### Time, chronicle and statuses -/

theorem passTime_acts (y : Yields (c.passTime attrs) p) : Acts .timeElapsed attrs c p := by
  obtain ⟨span, -, y⟩ := y.bind
  obtain ⟨gameTime, -, y⟩ := y.bind
  obtain rfl := yields_pure.mp y
  exact .changed (.single (.time rfl c.state gameTime))

theorem chronicleTurn_acts (y : Yields (c.chronicleTurn attrs) p) : Acts kind attrs c p := by
  rw [chronicleTurn] at y
  split at y
  · obtain rfl := yields_pure.mp y
    exact .kept
  · rename_i text _
    obtain ⟨macros, -, y⟩ := y.bind
    obtain ⟨processed, -, y⟩ := y.bind
    obtain ⟨memory, -, y⟩ := y.bind
    obtain rfl := yields_pure.mp y
    have logged : Touches kind attrs c.state { c.state with
        chronicle := { c.state.chronicle with turn := c.state.chronicle.turn ++ [text] } } :=
      .log ⟨List.prefix_append _ _, List.prefix_rfl, List.prefix_rfl⟩
    exact .changed ((Relation.ReflTransGen.single logged).tail (.remember _ memory))

theorem chronicleChapter_acts : Acts kind attrs c (c.chronicleChapter attrs) := by
  rw [chronicleChapter]
  split
  · exact .kept
  · exact .changed (.single (.log ⟨List.prefix_rfl, List.prefix_append _ _, List.prefix_rfl⟩))

theorem chronicleMemoir_acts : Acts kind attrs c (c.chronicleMemoir attrs) := by
  rw [chronicleMemoir]
  split
  · exact .kept
  · exact .changed (.single (.log ⟨List.prefix_rfl, List.prefix_rfl, List.prefix_append _ _⟩))

theorem applyStatus_acts {owner : Option String} (tag : kind ∈ TagKind.ofStatuses)
    (y : Yields (c.applyStatus owner attrs) p) : Acts kind attrs c p := by
  unfold applyStatus at y
  split at y
  · obtain ⟨status, -, y⟩ := y.bind
    obtain rfl := yields_pure.mp y
    exact .changed (.single (.statuses tag c.state _))
  · obtain rfl := yields_pure.mp y
    exact .kept

/-- A cure that leaves as many statuses as before has left them all. -/
theorem cureStatus_acts {owner : Option String} (tag : kind ∈ TagKind.ofStatuses) :
    Acts kind attrs c (c.cureStatus owner attrs) where
  left := .plain (.single (.statuses tag c.state _))
  silent untold _ := by
    have all : (Status.cure c.state.statuses (text? attrs "name") owner).length =
        c.state.statuses.length := by
      simpa [cureStatus] using untold
    have same : Status.cure c.state.statuses (text? attrs "name") owner = c.state.statuses :=
      List.filter_sublist.eq_of_length all
    change { c.state with statuses := Status.cure c.state.statuses (text? attrs "name") owner } = _
    rw [same]

/-! ### Practice -/

/-- A skill with experience granted to it is stored as a skill. -/
theorem moves_addExp {amount : Number} {gain : Skill.Gain} {s : GameState} (skill : e.kind = .skill)
    (grown : Skill.addExp e amount = .ok gain) : Moves s (s.put gain.skill) :=
  moves_put ((Skill.addExp_akin grown).kind.trans skill) (by decide) s

/-- Experience that neither counts nor slips by leaves the state as it is. -/
theorem put_of_not_slips {amount : Int} {gain : Skill.Gain} {s : GameState}
    (grown : Skill.addExp e (.int amount) = .ok gain)
    (none : (Number.int 0).lt gain.expGained = false) (steady : ¬Skill.Slips amount s e) :
    s.put gain.skill = s :=
  of_not_not fun changed => steady ⟨gain, grown, none, changed⟩

theorem gainSkillExp_acts (y : Yields (c.gainSkillExp attrs) p) :
    Acts .skillExpGain attrs c p := by
  obtain ⟨amount, read, y⟩ := y.bind
  split_ifs at y with low
  · obtain rfl := yields_pure.mp y
    exact .kept
  · split at y
    · obtain rfl := yields_pure.mp y
      exact .kept
    · rename_i skill found
      obtain ⟨gain, grown, y⟩ := y.bind
      obtain rfl := yields_pure.mp y
      have grown := yields_ofOutcome.mp grown
      refine ⟨.plain (.move (moves_addExp (skill?_kind found) grown)), fun none steady => ?_⟩
      refine put_of_not_slips grown none fun slips => steady ?_
      obtain ⟨name, given⟩ : ∃ name, text? attrs "skillName" = some name :=
        Option.ne_none_iff_exists'.mp fun absent => by rw [absent] at found; exact nomatch found
      rw [given] at found
      exact ⟨amount, name, skill, yields_ofOutcome.mp read, not_le.mp low,
        by rw [TagKind.trains, given]; exact List.mem_singleton_self name, found, slips⟩

/-- A skill that is rewarded is counted if it gained anything, and is stored again in any case. -/
theorem rewardSkill_ok {amount : Int} {acc next : Scene × Nat} {name : String}
    (ok : rewardSkill amount acc name = .ok next) :
    Touched kind attrs acc.1.state next.1.state ∧ acc.2 ≤ next.2 ∧
      (next.2 = acc.2 → (∀ e, acc.1.skill? (some name) = some e →
        ¬Skill.Slips amount acc.1.state e) → next.1.state = acc.1.state) := by
  rw [rewardSkill] at ok
  cases found : acc.1.skill? (some name) with
  | none =>
    rw [found] at ok
    cases ok
    exact ⟨.refl, le_rfl, fun _ _ => rfl⟩
  | some skill =>
    rw [found] at ok
    obtain ⟨gain, grown, ok⟩ := Outcome.bind_eq_ok.mp ok
    obtain rfl := Outcome.pure_eq_ok.mp ok
    refine ⟨.move (moves_addExp (skill?_kind found) grown), ?_, fun uncounted steady => ?_⟩
    · dsimp only
      split_ifs
      · exact Nat.le_succ acc.2
      · exact le_rfl
    · have none : (Number.int 0).lt gain.expGained = false := by
        dsimp only at uncounted
        split_ifs at uncounted with counted
        · exact absurd uncounted (Nat.succ_ne_self acc.2)
        · exact Bool.eq_false_iff.mpr counted
      exact put_of_not_slips grown none (steady skill rfl)

/-- As long as none of the skills that are rewarded is counted, each is rewarded on the same state. -/
theorem rewards_ok {amount : Int} {names : List String} {acc next : Scene × Nat}
    (ok : names.foldlM (rewardSkill amount) acc = .ok next) :
    Touched kind attrs acc.1.state next.1.state ∧ acc.2 ≤ next.2 ∧
      (next.2 = acc.2 → (∀ name ∈ names, ∀ e, Scene.skill? { state := acc.1.state } (some name) =
        some e → ¬Skill.Slips amount acc.1.state e) → next.1.state = acc.1.state) := by
  induction names generalizing acc with
  | nil =>
    cases ok
    exact ⟨.refl, le_rfl, fun _ _ => rfl⟩
  | cons name names ih =>
    obtain ⟨mid, first, rest⟩ := Outcome.bind_eq_ok.mp ok
    obtain ⟨run, more, quiet⟩ := rewardSkill_ok first
    obtain ⟨later, most, still⟩ := ih rest
    refine ⟨run.trans later, more.trans most, fun uncounted steady => ?_⟩
    have same := quiet (le_antisymm (most.trans uncounted.le) more)
      (steady name List.mem_cons_self)
    rw [still (le_antisymm (uncounted.le.trans more) most), same]
    intro other member e found
    rw [same] at found ⊢
    exact steady other (List.mem_cons_of_mem name member) e found

theorem rewardSkills_acts (y : Yields (c.rewardSkills attrs) p) :
    Acts .skillExpReward attrs c p := by
  obtain ⟨amount, read, y⟩ := y.bind
  split_ifs at y with low
  · obtain rfl := yields_pure.mp y
    exact .kept
  · split at y
    · obtain rfl := yields_pure.mp y
      exact .kept
    · rename_i pc player
      obtain ⟨⟨next, count⟩, granted, y⟩ := y.bind
      obtain rfl := yields_pure.mp y
      obtain ⟨run, -, quiet⟩ := rewards_ok (yields_ofOutcome.mp granted)
      refine ⟨.plain run, fun uncounted steady => quiet ?_ fun name member e found slips => steady ?_⟩
      · simpa using uncounted
      · exact ⟨amount, name, e, yields_ofOutcome.mp read, not_le.mp low,
          by rw [TagKind.trains, player]; exact member, found, slips⟩

theorem breakThrough_acts (y : Yields (c.breakThrough attrs) p) : Acts kind attrs c p := by
  rw [breakThrough] at y
  split at y
  · obtain rfl := yields_pure.mp y
    exact .kept
  · split at y
    · obtain rfl := yields_pure.mp y
      exact .kept
    · rename_i skill found
      obtain ⟨rate, -, y⟩ := y.bind
      obtain ⟨gain, tried, y⟩ := y.bind
      obtain rfl := yields_pure.mp y
      have put : Moves c.state (c.state.put gain.skill) :=
        moves_put ((Skill.attempt_akin tried).kind.trans (skill?_kind found)) (by decide) _
      refine .moved ?_
      split_ifs <;> exact put

theorem puts_touched {rolled : List Entity} (h : ∀ e ∈ rolled, e.kind = .skill) :
    Touched kind attrs c.state (rolled.foldl Scene.put c).state := by
  induction rolled generalizing c with
  | nil => exact .refl
  | cons e rolled ih =>
    have put : Touches kind attrs c.state (c.put e).state :=
      .cast (moves_put (h e List.mem_cons_self) (by decide) _)
    exact (ih fun later member => h later (List.mem_cons_of_mem e member)).head put

theorem rollForSkills_acts (y : Yields c.rollForSkills p) : Acts kind attrs c p := by
  obtain ⟨rolled, rolls, y⟩ := y.bind
  obtain rfl := yields_pure.mp y
  have skills : ∀ e ∈ rolled, e.kind = .skill := by
    intro e member
    obtain ⟨skill, listed, rolling⟩ := rolls.mapM e member
    rw [(Skill.rollEligibility_akin rolling).kind]
    exact of_decide_eq_true (List.mem_filter.mp listed).2
  refine ⟨.plain (puts_touched skills), fun untold _ => ?_⟩
  have nobody : rolled = [] := by
    refine List.eq_nil_iff_forall_not_mem.mpr fun e member => ?_
    obtain ⟨skill, listed, -⟩ := rolls.mapM e member
    have none : c.state.ofKind .skill = [] := by simpa using untold
    exact absurd listed (none ▸ List.not_mem_nil)
  rw [nobody]
  rfl

end Scene

end Gamebook
