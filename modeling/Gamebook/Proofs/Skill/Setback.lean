import Gamebook.Proofs.Skill.Practice

/-!
Setbacks. A skill that fails its breakthrough loses its eligibility. A roll for it can bring the
eligibility back, and so does experience that is awarded to the skill, although it gains none; nothing
else does.
-/

namespace Gamebook.Skill

open Play (Rolls rolls_pure rolls_ofOutcome rolls_roll)

variable {e : Entity} {amount rate : Number} {g : Gain} {d d₁ : Draws}

/-! ### Capped skills -/

theorem canAttempt_booked {exp : Number} {eligible : Bool} (can : canAttempt e = true) :
    canAttempt (booked e (masteryOf e) exp true eligible) = true := by
  obtain ⟨skill, -, below⟩ := canAttempt_spec can
  simp [canAttempt, booked, skill, below]

/-- Experience that is awarded to a capped skill makes it eligible. -/
theorem addExp_capped (can : canAttempt e = true) (award : amount.le (.int 0) = false) :
    addExp e amount = .ok { skill := booked e (masteryOf e) (expOf e) true true } := by
  obtain ⟨skill, capped, below⟩ := canAttempt_spec can
  rw [addExp_eq skill award, capped, Bool.true_or, if_pos rfl, decide_eq_true below]

theorem attempt_rolled {x : Number} (can : canAttempt e = true) (rolled : d.roll = (x, d₁))
    (rate : Number) : attempt e rate d = (.ok (breakthrough e x rate), d₁) := by
  rw [attempt, if_pos can]
  refine Play.bind_eq_ok.mpr ⟨x, d₁, ?_, rfl⟩
  change (Except.ok d.roll.1, d.roll.2) = _
  rw [rolled]

/-- A failed attempt costs the skill its eligibility and nothing else. -/
theorem attempt_failed (can : canAttempt e = true) (tried : attempt e rate d = (.ok g, d₁))
    (failed : g.masteryLevelUp = false) : g.skill = { e with breakthroughEligible := false } := by
  rw [attempt_rolled can Prod.mk.eta.symm] at tried
  obtain rfl := Except.ok.inj (congrArg Prod.fst tried)
  obtain ⟨next, follows⟩ := exists_nextMastery (has_masteryOf e) (canAttempt_spec can).2.2
  rw [breakthrough_eq follows] at failed ⊢
  split_ifs at failed ⊢
  rfl

/-! ### Upkeep -/

/-- A step that attempts no breakthrough. A roll is made for some other skills before and after. -/
inductive Upkeep where
  | prepare
  | add (amount : Number)
  | roll (before after : List Entity)

/-- Takes a step and tells what has become of the skill. -/
def Upkeep.play (e : Entity) : Upkeep → Play Entity
  | .prepare => pure (prepared e)
  | .add amount => do return (← Play.ofOutcome (addExp e amount)).skill
  | .roll before after => do
    let rolled ← (before ++ e :: after).mapM rollEligibility
    return rolled[before.length]?.getD e

def Upkeep.awards : Upkeep → Bool
  | .add amount => !amount.le (.int 0)
  | _ => false

/-- Whether all rolls are at or above the chance of becoming eligible. -/
def Calm (drawn : List Number) : Prop := ∀ r ∈ drawn, r.lt (.float eligibilityChance) = false

theorem rollEligibility_rolls (e : Entity) : Rolls (rollEligibility e) fun drawn next =>
    canAttempt next = canAttempt e ∧ (Calm drawn → next = e) := by
  rw [rollEligibility]
  split_ifs
  swap
  · exact rolls_pure ⟨rfl, fun _ => rfl⟩
  refine rolls_roll.bind fun drawn r source => rolls_pure ?_
  split_ifs with low
  · refine ⟨rfl, fun calm => ?_⟩
    rcases source with rfl | ⟨-, rfl⟩
    · exact absurd low (Bool.eq_false_iff.mp (calm r (by simp)))
    · exact absurd low (by decide +kernel)
  · exact ⟨rfl, fun _ => rfl⟩

/-- In a roll for several skills one of them fares as in a roll for it alone. -/
theorem mapM_rollEligibility_rolls (before after : List Entity) (e : Entity) :
    Rolls ((before ++ e :: after).mapM rollEligibility) fun drawn rolled =>
      ∃ next, rolled[before.length]? = some next ∧ canAttempt next = canAttempt e ∧
        (Calm drawn → next = e) := by
  have others (skills : List Entity) :
      Rolls (skills.mapM rollEligibility) fun _ rolled => rolled.length = skills.length :=
    Rolls.length_mapM fun e _ => (rollEligibility_rolls e).mono fun _ _ _ => trivial
  simp only [List.mapM_append, List.mapM_cons, bind_assoc, pure_bind]
  refine (others before).bind fun first rolled same => ?_
  refine (rollEligibility_rolls e).bind fun own next fares => ?_
  refine (others after).bind fun last rest _ => rolls_pure ⟨next, ?_, fares.1, fun calm => ?_⟩
  · rw [List.getElem?_append_right same.le, same, Nat.sub_self, List.getElem?_cons_zero]
  · have later := (List.forall_mem_append.mp calm).2
    exact fares.2 (List.forall_mem_append.mp later).1

/-- What a step of upkeep does to a skill that may attempt a breakthrough: it may still do so, and
unless a roll succeeds it is eligible exactly if it was or the step awards experience. -/
theorem Upkeep.play_rolls (can : canAttempt e = true) (step : Upkeep) :
    Rolls (step.play e) fun drawn next => canAttempt next = true ∧
      (Calm drawn → next.breakthroughEligible = (e.breakthroughEligible || step.awards)) := by
  obtain ⟨skill, capped, -⟩ := canAttempt_spec can
  cases step with
  | prepare =>
    refine rolls_pure ?_
    rw [prepared_eq skill, capped]
    exact ⟨canAttempt_booked can, fun _ => (Bool.or_false _).symm⟩
  | add amount =>
    cases award : amount.le (.int 0) with
    | true =>
      have idle : addExp e amount = .ok { skill := e } := by simp [addExp, award]
      refine (rolls_ofOutcome idle).bind ?_
      rintro _ _ ⟨rfl, rfl⟩
      refine rolls_pure ⟨can, fun _ => ?_⟩
      rw [awards, award, Bool.not_true, Bool.or_false]
    | false =>
      refine (rolls_ofOutcome (addExp_capped can award)).bind ?_
      rintro _ _ ⟨rfl, rfl⟩
      refine rolls_pure ⟨canAttempt_booked can, fun _ => ?_⟩
      rw [awards, award, Bool.not_false, Bool.or_true]
      rfl
  | roll before after =>
    refine (mapM_rollEligibility_rolls before after e).bind ?_
    rintro drawn rolled ⟨next, found, kept, still⟩
    refine rolls_pure ?_
    rw [found, Option.getD_some, kept, List.append_nil]
    refine ⟨can, fun calm => ?_⟩
    rw [still calm]
    exact (Bool.or_false _).symm

/-- Upkeep never fails a skill that may attempt a breakthrough, which may do so ever after. -/
theorem upkeep_rolls (can : canAttempt e = true) (steps : List Upkeep) :
    Rolls (steps.foldlM Upkeep.play e) fun drawn last => canAttempt last = true ∧
      (Calm drawn →
        last.breakthroughEligible = (e.breakthroughEligible || steps.any Upkeep.awards)) := by
  induction steps generalizing e with
  | nil => exact rolls_pure ⟨can, fun _ => (Bool.or_false _).symm⟩
  | cons step steps ih =>
    rw [List.foldlM_cons]
    refine (Upkeep.play_rolls can step).bind ?_
    rintro drawn next ⟨still, told⟩
    refine (ih still).mono ?_
    rintro more last ⟨able, eligible⟩
    refine ⟨able, fun calm => ?_⟩
    obtain ⟨first, rest⟩ := List.forall_mem_append.mp calm
    rw [eligible rest, told first, List.any_cons, Bool.or_assoc]

/-- After a failed attempt a skill is not eligible. Whatever upkeep follows gives a result and leaves
it capped, and unless a roll succeeds it has become eligible exactly if experience was awarded. -/
theorem attempt_setback (can : canAttempt e = true) (tried : attempt e rate d = (.ok g, d₁))
    (failed : g.masteryLevelUp = false) (steps : List Upkeep) :
    g.skill.breakthroughEligible = false ∧ ∃ last drawn d',
      steps.foldlM Upkeep.play g.skill d₁ = (.ok last, d') ∧ d₁.rolls = drawn ++ d'.rolls ∧
      canAttempt last = true ∧ (Calm drawn → (last.breakthroughEligible = true ↔
        ∃ amount, .add amount ∈ steps ∧ amount.le (.int 0) = false)) := by
  rw [attempt_failed can tried failed]
  have still : canAttempt { e with breakthroughEligible := false } = true := can
  obtain ⟨last, drawn, d', ok, used, able, told⟩ := upkeep_rolls still steps d₁
  refine ⟨rfl, last, drawn, d', ok, used, able, fun calm => ?_⟩
  rw [told calm, Bool.false_or, List.any_eq_true]
  constructor
  · rintro ⟨step, member, awards⟩
    cases step with
    | add amount => exact ⟨amount, member, Bool.not_eq_true' _ ▸ awards⟩
    | prepare | roll => exact nomatch awards
  · rintro ⟨amount, member, award⟩
    exact ⟨.add amount, member, by rw [Upkeep.awards, award]; rfl⟩

/-- A capped sword skill that is eligible for a breakthrough. -/
def readied : Entity :=
  { swordplay (.int 100) with skillCapped := true, breakthroughEligible := true }

/-- A roll on which a breakthrough fails at the usual rate, and one that brings no eligibility. -/
def unlucky : Draws := { rolls := [.float (.ofRatio 9 10), .float (.ofRatio 1 2)] }

theorem readied_fails : attempt readied (.float defaultRate) unlucky =
    (.ok { skill := { readied with breakthroughEligible := false } },
      { rolls := [.float (.ofRatio 1 2)] }) := by
  have missed : (Number.float (.ofRatio 9 10)).lt (.float defaultRate) = false := by decide +kernel
  have rolled : unlucky.roll = (.float (.ofRatio 9 10), { rolls := [.float (.ofRatio 1 2)] }) := rfl
  rw [attempt_rolled (by decide) rolled, breakthrough, missed]
  rfl

theorem readied_setback : canAttempt readied = true ∧
    attempt readied (.float defaultRate) unlucky =
      (.ok { skill := { readied with breakthroughEligible := false } },
        { rolls := [.float (.ofRatio 1 2)] }) ∧
    ∃ last d', [.prepare, .roll [] [swordplay (.int 3)], .add (.int 0)].foldlM Upkeep.play
        { readied with breakthroughEligible := false } { rolls := [.float (.ofRatio 1 2)] } =
      (.ok last, d') ∧ last.breakthroughEligible = false := by
  have can : canAttempt readied = true := by decide
  obtain ⟨-, last, drawn, d', ok, used, -, told⟩ := attempt_setback can readied_fails rfl
    [.prepare, .roll [] [swordplay (.int 3)], .add (.int 0)]
  have calm : Calm drawn := by
    have all : Calm (drawn ++ d'.rolls) := by
      rw [← used]
      exact List.forall_mem_singleton.mpr (by decide +kernel)
    exact (List.forall_mem_append.mp all).1
  refine ⟨can, readied_fails, last, d', ok, Bool.eq_false_iff.mpr fun eligible => ?_⟩
  obtain ⟨amount, member, award⟩ := (told calm).mp eligible
  obtain rfl : amount = .int 0 := by simpa using member
  exact nomatch award

/-- Ten points for the skill that failed make it eligible again without a roll. -/
theorem award_restores_eligibility : canAttempt readied = true ∧
    attempt readied (.float defaultRate) unlucky =
      (.ok { skill := { readied with breakthroughEligible := false } },
        { rolls := [.float (.ofRatio 1 2)] }) ∧
    ∃ last, [Upkeep.add (.int 10)].foldlM Upkeep.play { readied with breakthroughEligible := false }
        { rolls := [.float (.ofRatio 1 2)] } = (.ok last, { rolls := [.float (.ofRatio 1 2)] }) ∧
      last.breakthroughEligible = true := by
  refine ⟨by decide, readied_fails, _, rfl, rfl⟩

end Gamebook.Skill
