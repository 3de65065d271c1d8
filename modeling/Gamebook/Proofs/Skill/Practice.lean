import Gamebook.Proofs.Keyed
import Gamebook.Proofs.Number.Units
import Gamebook.Proofs.Outcome
import Gamebook.Proofs.Play
import Gamebook.Skill.Progress

/-!
Practice of a skill as progress on one scale. All the experience that the masteries below a skill's own
take, with what it has gathered towards the next, grows by what each step reports to have been gained,
and a breakthrough leaves it as it is: the cap of the old mastery has become the ground of the new one.
Experience that is kept as a double grows by the double nearest to the report; the two are one as long
as no more than forty-two binary places are in use.
-/

namespace Gamebook.Skill

open Double (grain)
open Play (Gives gives_pure gives_ofOutcome gives_draw)

/-! ### Books in order -/

/-- Whether the bookkeeping of a skill is in order: a mastery of the ladder with the cap that belongs to
it, experience from zero to the cap, capped exactly at the cap, and eligible for a breakthrough only
there and below the last mastery. -/
structure WellFormed (e : Entity) : Prop where
  skill : e.kind = .skill
  ranked : e.mastery = some (masteryOf e)
  maximum : ∃ cap, e.maxSkillExp = some cap ∧ cap.same (.int (threshold (masteryOf e))) = true
  exp : ∃ x, e.skillExp = some x ∧ (Number.int 0).le x = true ∧
    x.le (.int (threshold (masteryOf e))) = true ∧
    e.skillCapped = x.same (.int (threshold (masteryOf e)))
  eligible : e.breakthroughEligible = true →
    e.skillCapped = true ∧ masteryOf e ≠ lastMastery

/-- The place of a skill's mastery on the ladder. -/
def level (e : Entity) : Nat := masteryLadder.findIdx (·.1 = masteryOf e)

/-- The experience that all masteries below one take. -/
def ground (mastery : String) : Nat :=
  ((masteryLadder.takeWhile (·.1 ≠ mastery)).map (·.2)).sum

/-- The experience behind a skill, in units: what the masteries below its own took and what it has. -/
def mastered (e : Entity) : Int := ground (masteryOf e) * unitsPerOne + (expOf e).units

/-- A skill with its bookkeeping written anew. -/
def booked (e : Entity) (mastery : String) (exp : Number) (capped eligible : Bool) : Entity :=
  { e with
    mastery := some mastery
    skillExp := some exp
    maxSkillExp := some (.int (threshold mastery))
    skillCapped := capped
    breakthroughEligible := eligible }

variable {e : Entity} {mastery : String} {exp : Number} {capped eligible : Bool}

/-! ### The ladder -/

theorem has_masteryOf (e : Entity) : Keyed.has masteryLadder (masteryOf e) = true := by
  rw [masteryOf]
  split
  · split_ifs with ranked
    · exact ranked
    · decide
  · decide

theorem threshold_bounds (ranked : Keyed.has masteryLadder mastery = true) :
    0 < threshold mastery ∧ threshold mastery < 2048 ∧ ground mastery + threshold mastery ≤ 3500 := by
  have all : ∀ m ∈ Keyed.keys masteryLadder,
      0 < threshold m ∧ threshold m < 2048 ∧ ground m + threshold m ≤ 3500 := by
    decide
  exact all mastery (Keyed.has_iff.mp ranked)

/-- The mastery behind a breakthrough is the next on the ladder, and stands on the old one's cap. -/
theorem nextMastery?_ladder {next : String}
    (follows : nextMastery? mastery masteryLadder = some next) :
    Keyed.has masteryLadder next = true ∧
      masteryLadder.findIdx (·.1 = next) = masteryLadder.findIdx (·.1 = mastery) + 1 ∧
      ground next = ground mastery + threshold mastery := by
  simp only [nextMastery?, masteryLadder] at follows
  split_ifs at follows <;> subst_vars <;> obtain rfl := Option.some.inj follows <;> decide

theorem exists_nextMastery (ranked : Keyed.has masteryLadder mastery = true)
    (below : mastery ≠ lastMastery) : ∃ next, nextMastery? mastery masteryLadder = some next := by
  have all : ∀ m ∈ Keyed.keys masteryLadder, m ≠ lastMastery →
      (nextMastery? m masteryLadder).isSome = true := by
    decide
  exact Option.isSome_iff_exists.mp (all mastery (Keyed.has_iff.mp ranked) below)

/-! ### Experience -/

theorem expOf_of_skillExp (known : e.skillExp = some exp) :
    (expOf e).units = exp.units ∧ (exp.IsFinite → (expOf e).IsFinite) := by
  rw [expOf, known, Number.nonzero?]
  split_ifs with zero
  · exact ⟨(Number.units_eq_zero zero).symm ▸ Int.zero_mul _, fun _ => trivial⟩
  · exact ⟨rfl, id⟩

/-- Experience is a whole number or a double other than zero, which is positive in ordered books. -/
theorem expOf_nonNegative (finite : (expOf e).IsFinite) (low : 0 ≤ (expOf e).units) :
    (expOf e).NonNegative := by
  rw [expOf] at finite low ⊢
  cases given : Number.nonzero? e.skillExp with
  | none => exact le_rfl
  | some x =>
    rw [given] at finite low
    exact Number.nonNegative_of_units (Number.nonzero?_eq_some.mp given).2 finite low

/-- Experience that has been read is read again as it is. -/
theorem getD_nonzero?_expOf (e : Entity) :
    (Number.nonzero? (some (expOf e))).getD (.int 0) = expOf e := by
  rw [expOf]
  cases given : Number.nonzero? e.skillExp with
  | none => rfl
  | some x =>
    obtain ⟨-, nonzero⟩ := Number.nonzero?_eq_some.mp given
    rw [Option.getD_some, Number.nonzero?_eq_some.mpr ⟨rfl, nonzero⟩, Option.getD_some]

namespace WellFormed

theorem exp_bounds (h : WellFormed e) : (expOf e).IsFinite ∧ 0 ≤ (expOf e).units ∧
    (expOf e).units ≤ threshold (masteryOf e) * unitsPerOne ∧
    (e.skillCapped = true ↔ (expOf e).units = threshold (masteryOf e) * unitsPerOne) := by
  obtain ⟨x, known, low, high, capped⟩ := h.exp
  have finite := Number.isFinite_of_between low high
  obtain ⟨worth, kept⟩ := expOf_of_skillExp known
  rw [worth, capped, Number.same_iff_units finite (y := .int _) trivial]
  refine ⟨kept finite, ?_, (Number.le_iff_units (y := .int _) finite trivial).mp high, Iff.rfl⟩
  have bound := (Number.le_iff_units (x := .int 0) trivial finite).mp low
  rwa [Number.units, Int.zero_mul] at bound

end WellFormed

theorem masteryOf_booked (ranked : Keyed.has masteryLadder mastery = true) :
    masteryOf (booked e mastery exp capped eligible) = mastery := if_pos ranked

theorem units_expOf_booked : (expOf (booked e mastery exp capped eligible)).units = exp.units :=
  (expOf_of_skillExp rfl).1

theorem mastered_booked (ranked : Keyed.has masteryLadder mastery = true) :
    mastered (booked e mastery exp capped eligible) = ground mastery * unitsPerOne + exp.units := by
  rw [mastered, masteryOf_booked ranked, units_expOf_booked]

theorem level_booked (ranked : Keyed.has masteryLadder mastery = true) :
    level (booked e mastery exp capped eligible) = masteryLadder.findIdx (·.1 = mastery) := by
  rw [level, masteryOf_booked ranked]

theorem wellFormed_booked (skill : e.kind = .skill)
    (ranked : Keyed.has masteryLadder mastery = true) (finite : exp.IsFinite)
    (low : 0 ≤ exp.units) (high : exp.units ≤ threshold mastery * unitsPerOne)
    (full : capped = true ↔ exp.units = threshold mastery * unitsPerOne)
    (ready : eligible = true → capped = true ∧ mastery ≠ lastMastery) :
    WellFormed (booked e mastery exp capped eligible) := by
  have own : masteryOf (booked e mastery exp capped eligible) = mastery := masteryOf_booked ranked
  constructor
  · exact skill
  · rw [own]
    rfl
  · rw [own]
    exact ⟨_, rfl, beq_self_eq_true _⟩
  · rw [own]
    refine ⟨exp, rfl, ?_, (Number.le_iff_units (y := .int _) finite trivial).mpr high, ?_⟩
    · refine (Number.le_iff_units (x := .int 0) trivial finite).mpr ?_
      rwa [Number.units, Int.zero_mul]
    · rw [Bool.eq_iff_iff]
      exact full.trans (Number.same_iff_units (y := .int _) finite trivial).symm
  · rw [own]
    exact ready

/-! ### Steps -/

/-- A step of practice. -/
inductive Practice where
  | prepare
  | add (amount : Int)
  | attempt (rate : Number)
  | roll

/-- Takes a step; only experience that is added is gained. -/
def Practice.play (e : Entity) : Practice → Play Gain
  | .prepare => pure { skill := prepared e }
  | .add amount => Play.ofOutcome (addExp e (.int amount))
  | .attempt rate => Skill.attempt e rate
  | .roll => do return { skill := ← rollEligibility e }

/-- What a step does to a skill in order: the books stay in order, the mastery rises by one at a
breakthrough and stays otherwise, and what is behind the skill grows by what was gained. The gain is
told exactly, or as the nearest double if there are more than forty-two binary places. -/
structure Advances (e : Entity) (step : Practice) (g : Gain) : Prop where
  wellFormed : WellFormed g.skill
  level : level g.skill = level e + if g.masteryLevelUp then 1 else 0
  attempted : g.masteryLevelUp = true → ∃ rate, step = .attempt rate
  grown : mastered e ≤ mastered g.skill
  nears : g.expGained.Nears (mastered g.skill - mastered e)
  exact : (grain : Int) ∣ (expOf e).units →
    (grain : Int) ∣ (expOf g.skill).units ∧ g.expGained.units = mastered g.skill - mastered e
  whole : (∃ i, expOf e = .int i) → ∃ j, expOf g.skill = .int j

variable {step : Practice}

/-- Nothing gained, for a skill of the same mastery with the same experience. -/
theorem Advances.idle {next : Entity} (h : WellFormed next) (ranked : masteryOf next = masteryOf e)
    (kept : expOf next = expOf e) : Advances e step { skill := next } := by
  have same : mastered next = mastered e := by rw [mastered, mastered, ranked, kept]
  constructor
  · exact h
  · rw [Skill.level, Skill.level, ranked]
    rfl
  · exact nofun
  · exact same.ge
  · rw [same, sub_self]
    exact Int.zero_mul _
  · rw [same, sub_self, kept]
    exact fun fine => ⟨fine, Int.zero_mul _⟩
  · rw [kept]
    exact id

theorem WellFormed.withEligible (h : WellFormed e)
    (ready : eligible = true → e.skillCapped = true ∧ masteryOf e ≠ lastMastery) :
    WellFormed { e with breakthroughEligible := eligible } :=
  ⟨h.skill, h.ranked, h.maximum, h.exp, ready⟩

theorem prepared_eq (skill : e.kind = .skill) : prepared e =
    booked e (masteryOf e) (expOf e) e.skillCapped e.breakthroughEligible :=
  if_pos skill

/-- The books of a skill with the experience that it has already. -/
theorem Advances.rebooked (h : WellFormed e)
    (full : capped = true ↔ (expOf e).units = threshold (masteryOf e) * unitsPerOne)
    (ready : eligible = true → capped = true ∧ masteryOf e ≠ lastMastery) :
    Advances e step { skill := booked e (masteryOf e) (expOf e) capped eligible } := by
  obtain ⟨finite, low, high, -⟩ := h.exp_bounds
  have ranked := has_masteryOf e
  exact .idle (wellFormed_booked h.skill ranked finite low high full ready)
    (masteryOf_booked ranked) (getD_nonzero?_expOf e)

theorem prepare_advances (h : WellFormed e) : Advances e .prepare { skill := prepared e } := by
  rw [prepared_eq h.skill]
  exact .rebooked h h.exp_bounds.2.2.2 h.eligible

/-- What adding experience comes to: at the cap only the marks are set, and below it the experience
rises up to the cap. -/
theorem addExp_eq {amount : Number} (skill : e.kind = .skill)
    (positive : amount.le (.int 0) = false) :
    addExp e amount =
      if e.skillCapped || (Number.int (threshold (masteryOf e))).le (expOf e) then
        .ok { skill := booked e (masteryOf e) (expOf e) true (masteryOf e ≠ lastMastery) }
      else do
        let raised ← Outcome.ofArithmetic ((expOf e).add? amount)
        let reached := raised.min (.int (threshold (masteryOf e)))
        let gained ← Outcome.ofArithmetic (reached.sub? (expOf e))
        return {
          skill := booked e (masteryOf e) reached ((Number.int (threshold (masteryOf e))).le reached)
            ((Number.int (threshold (masteryOf e))).le reached && masteryOf e ≠ lastMastery)
          expGained := gained } := by
  have ranked := has_masteryOf e
  have above : (decide (e.kind ≠ .skill) || amount.le (.int 0)) = false := by
    simp [skill, positive]
  have nonzero : (Number.int (threshold (masteryOf e))).isZero = false :=
    beq_eq_false_iff_ne.mpr (by exact_mod_cast (threshold_bounds ranked).1.ne')
  have cap : (Number.nonzero? (some (.int (threshold (masteryOf e))))).getD
      (.int (threshold (masteryOf e))) = .int (threshold (masteryOf e)) := by
    rw [Number.nonzero?_eq_some.mpr ⟨rfl, nonzero⟩, Option.getD_some]
  have own : masteryOf (booked e (masteryOf e) (expOf e) e.skillCapped e.breakthroughEligible) =
      masteryOf e := masteryOf_booked ranked
  have kept : expOf (booked e (masteryOf e) (expOf e) e.skillCapped e.breakthroughEligible) =
      expOf e := getD_nonzero?_expOf e
  rw [addExp, above, prepared_eq skill]
  simp only [own, kept]
  rw [show (booked e (masteryOf e) (expOf e) e.skillCapped e.breakthroughEligible).maxSkillExp =
    some (.int (threshold (masteryOf e))) from rfl, cap]
  rfl

/-- Experience that rises towards the cap or up to it. -/
theorem Advances.raised {reached gained : Number} (h : WellFormed e)
    (raises : Number.Raises (expOf e) (threshold (masteryOf e)) reached gained)
    (full : capped = true ↔ reached.units = threshold (masteryOf e) * unitsPerOne)
    (ready : eligible = true → capped = true ∧ masteryOf e ≠ lastMastery) :
    Advances e step
      { skill := booked e (masteryOf e) reached capped eligible, expGained := gained } := by
  obtain ⟨-, low, -, -⟩ := h.exp_bounds
  have ranked := has_masteryOf e
  have rise : mastered (booked e (masteryOf e) reached capped eligible) - mastered e =
      reached.units - (expOf e).units := by
    rw [mastered_booked ranked, mastered]
    ring
  constructor
  · exact wellFormed_booked h.skill ranked raises.finite (low.trans raises.grown) raises.within
      full ready
  · exact level_booked ranked
  · exact nofun
  · have grown := raises.grown
    dsimp only
    omega
  · rw [rise]
    exact raises.nears
  · rw [rise, units_expOf_booked]
    exact raises.exact
  · intro whole
    obtain ⟨j, rfl⟩ := raises.whole whole
    dsimp only
    rw [expOf]
    by_cases zero : (Number.int j).isZero = true
    · exact ⟨0, by simp [booked, Number.nonzero?, zero]⟩
    · exact ⟨j, by simp [booked, Number.nonzero?, zero]⟩

/-- Adding experience gives a result, unless a double is to be added to a whole number beyond the
doubles. -/
theorem addExp_advances {amount : Int} (h : WellFormed e)
    (fits : (∃ i, expOf e = .int i) ∨ ∃ y, (Number.int amount).toDouble? = some y) :
    ∃ g, addExp e (.int amount) = .ok g ∧ Advances e (.add amount) g := by
  rcases Int.lt_or_le 0 amount with positive | idle
  swap
  · refine ⟨{ skill := e }, ?_, .idle h rfl rfl⟩
    rw [addExp, Number.int_le_int.mpr idle, Bool.or_true]
    rfl
  obtain ⟨n, rfl⟩ := Int.eq_ofNat_of_zero_le positive.le
  obtain ⟨finite, low, high, capped⟩ := h.exp_bounds
  have ranked := has_masteryOf e
  have atCap (x : Number) (finite : x.IsFinite) :
      (Number.int (threshold (masteryOf e))).le x = true ↔
        threshold (masteryOf e) * unitsPerOne ≤ x.units :=
    Number.le_iff_units (x := .int _) trivial finite
  have above : (Number.int n).le (.int 0) = false :=
    Bool.eq_false_iff.mpr fun low => absurd (Number.int_le_int.mp low) (by omega)
  rw [addExp_eq h.skill above]
  split_ifs with stopped
  · refine ⟨_, rfl, .rebooked h ?_ fun eligible => ⟨rfl, of_decide_eq_true eligible⟩⟩
    refine iff_of_true rfl ?_
    rcases Bool.or_eq_true_iff.mp stopped with marked | full
    · exact capped.mp marked
    · exact le_antisymm high ((atCap _ finite).mp full)
  · obtain ⟨raised, gained, added, told, raises⟩ := Number.exists_raises (n := n) (by omega)
      (expOf_nonNegative finite low) finite high (threshold_bounds ranked).2.1 fits
    have full := atCap _ raises.finite
    refine ⟨_, Outcome.bind_eq_ok.mpr ⟨raised, Outcome.ofArithmetic_eq_ok.mpr added,
      Outcome.bind_eq_ok.mpr ⟨gained, Outcome.ofArithmetic_eq_ok.mpr told, rfl⟩⟩,
      .raised h raises (full.trans ⟨fun top => le_antisymm raises.within top, fun top => top.ge⟩)
        fun eligible => ?_⟩
    obtain ⟨top, before⟩ := Bool.and_eq_true_iff.mp eligible
    exact ⟨top, of_decide_eq_true before⟩

/-- Only a capped skill below the last mastery may attempt a breakthrough. -/
theorem canAttempt_spec (can : canAttempt e = true) :
    e.kind = .skill ∧ e.skillCapped = true ∧ masteryOf e ≠ lastMastery := by
  simp only [canAttempt, Bool.and_eq_true, decide_eq_true_eq] at can
  refine ⟨can.1.1, can.1.2, ?_⟩
  rw [masteryOf]
  split
  · rename_i given
    split_ifs
    · exact fun last => can.2 (last ▸ given)
    · decide
  · decide

theorem breakthrough_eq {next : String} (follows : nextMastery? (masteryOf e) masteryLadder = some next)
    (draw rate : Number) : breakthrough e draw rate =
      if draw.lt rate then
        { skill := booked e next (.int 0) false false
          masteryLevelUp := true
          previousMastery := some (masteryOf e)
          newMastery := some next }
      else { skill := { e with breakthroughEligible := false } } := by
  rw [breakthrough, follows]
  rfl

/-- A breakthrough turns the cap of the old mastery into the ground of the next. -/
theorem breakthrough_advances (h : WellFormed e) (can : canAttempt e = true) (draw rate : Number) :
    Advances e (.attempt rate) (breakthrough e draw rate) := by
  have spent : Advances e (.attempt rate) { skill := { e with breakthroughEligible := false } } :=
    .idle (h.withEligible nofun) rfl rfl
  obtain ⟨-, capped, below⟩ := canAttempt_spec can
  obtain ⟨next, follows⟩ := exists_nextMastery (has_masteryOf e) below
  rw [breakthrough_eq follows]
  split_ifs
  swap
  · exact spent
  obtain ⟨ranked, above, base⟩ := nextMastery?_ladder follows
  have full := h.exp_bounds.2.2.2.mp capped
  have zero : (Number.int 0).units = 0 := Int.zero_mul _
  have cap : (0 : Int) < threshold next * unitsPerOne :=
    mul_pos (by exact_mod_cast (threshold_bounds ranked).1) (by decide)
  have same : mastered (booked e next (.int 0) false false) = mastered e := by
    rw [mastered_booked ranked, mastered, full, base, zero, Nat.cast_add]
    ring
  constructor
  · exact wellFormed_booked h.skill ranked trivial zero.ge (zero.trans_lt cap).le
      (iff_of_false Bool.false_ne_true (zero.trans_lt cap).ne) nofun
  · exact (level_booked ranked).trans above
  · exact fun _ => ⟨rate, rfl⟩
  · exact same.ge
  · rw [same, sub_self]
    exact zero
  · rw [same, sub_self]
    exact fun _ => ⟨⟨0, zero⟩, zero⟩
  · exact fun _ => ⟨0, rfl⟩

theorem attempt_advances (h : WellFormed e) (rate : Number) :
    Gives (attempt e rate) (Advances e (.attempt rate)) := by
  rw [attempt]
  split_ifs with can
  · exact (gives_draw _).bind fun draw _ => gives_pure (breakthrough_advances h can draw rate)
  · exact gives_pure (.idle h rfl rfl)

theorem rollEligibility_advances (h : WellFormed e) :
    Gives (rollEligibility e) fun next => Advances e .roll { skill := next } := by
  rw [rollEligibility]
  split_ifs with awaits
  · have can : canAttempt e = true := (Bool.and_eq_true_iff.mp awaits).1
    refine (gives_draw _).bind fun draw _ => gives_pure ?_
    split_ifs
    · exact .idle (h.withEligible fun _ => (canAttempt_spec can).2) rfl rfl
    · exact .idle h rfl rfl
  · exact gives_pure (.idle h rfl rfl)

/-- Whether a step can be computed with the experience that a skill has: a double is not added to a
whole number beyond the doubles. -/
def Practice.Fits (e : Entity) (step : Practice) : Prop :=
  (∃ i, expOf e = .int i) ∨
    ∀ amount, step = .add amount → ∃ y, (Number.int amount).toDouble? = some y

theorem Practice.play_gives (h : WellFormed e) (fits : step.Fits e) :
    Gives (step.play e) (Advances e step) := by
  cases step with
  | prepare => exact gives_pure (prepare_advances h)
  | add amount =>
    obtain ⟨g, added, advances⟩ := addExp_advances h (fits.imp_right fun all => all amount rfl)
    exact (gives_ofOutcome added).mono fun _ same => same ▸ advances
  | attempt rate => exact attempt_advances h rate
  | roll => exact (rollEligibility_advances h).bind fun _ advances => gives_pure advances

/-! ### Runs -/

/-- Takes steps one after another, each with the skill that the one before has left. -/
def practise : List Practice → Entity → Play (List Gain)
  | [], _ => pure []
  | step :: rest, e => do
    let gain ← step.play e
    return gain :: (← practise rest gain.skill)

/-- The skill after its last step. -/
def trained (e : Entity) (gains : List Gain) : Entity := (gains.getLast?.map (·.skill)).getD e

/-- Whether gains come of steps that each advance the skill. -/
inductive Course : Entity → List Practice → List Gain → Prop
  | nil (e : Entity) : Course e [] []
  | cons {e : Entity} {step : Practice} {g : Gain} {steps : List Practice} {gains : List Gain}
    (advances : Advances e step g) (rest : Course g.skill steps gains) :
    Course e (step :: steps) (g :: gains)

variable {steps : List Practice} {gains : List Gain}

theorem practise_gives (h : WellFormed e)
    (fits : (∃ i, expOf e = .int i) ∨
      ∀ amount, .add amount ∈ steps → ∃ y, (Number.int amount).toDouble? = some y) :
    Gives (practise steps e) (Course e steps) := by
  induction steps generalizing e with
  | nil => exact gives_pure (.nil e)
  | cons step steps ih =>
    rw [practise]
    have here : step.Fits e :=
      fits.imp_right fun all amount same => all amount (same ▸ List.mem_cons_self)
    refine (Practice.play_gives h here).bind fun g advances => ?_
    refine (ih advances.wellFormed (fits.imp advances.whole fun all amount later => ?_)).bind
      fun gains rest => gives_pure (.cons advances rest)
    exact all amount (List.mem_cons_of_mem step later)

namespace Course

theorem trained_cons (e : Entity) (g : Gain) (gains : List Gain) :
    trained e (g :: gains) = trained g.skill gains := by
  cases gains with
  | nil => rfl
  | cons g' gains => rw [trained, trained, List.getLast?_cons_cons, List.getLast?_cons]; rfl

theorem wellFormed (run : Course e steps gains) (h : WellFormed e) :
    WellFormed (trained e gains) := by
  induction run with
  | nil => exact h
  | cons advances rest ih =>
    rw [trained_cons]
    exact ih advances.wellFormed

theorem grown (run : Course e steps gains) : mastered e ≤ mastered (trained e gains) := by
  induction run with
  | nil => exact le_rfl
  | cons advances rest ih =>
    rw [trained_cons]
    exact advances.grown.trans ih

/-- With few binary places the reports add up to what the skill has gained. -/
theorem sum_gained (run : Course e steps gains) (fine : (grain : Int) ∣ (expOf e).units) :
    (gains.map (·.expGained.units)).sum = mastered (trained e gains) - mastered e := by
  induction run with
  | nil e => exact (sub_self (mastered e)).symm
  | @cons e step g steps gains advances rest ih =>
    obtain ⟨kept, gained⟩ := advances.exact fine
    rw [List.map_cons, List.sum_cons, ih kept, gained, trained_cons]
    ring

end Course

/-- There are three thousand five hundred points of experience in all. -/
theorem WellFormed.mastered_bounds (h : WellFormed e) :
    0 ≤ mastered e ∧ mastered e ≤ 3500 * unitsPerOne := by
  obtain ⟨-, low, high, -⟩ := h.exp_bounds
  have scale : (0 : Int) ≤ unitsPerOne := by decide
  have ladder := (threshold_bounds (has_masteryOf e)).2.2
  have base : (0 : Int) ≤ ground (masteryOf e) * unitsPerOne := mul_nonneg (by omega) scale
  have top : ((ground (masteryOf e) : Int) + threshold (masteryOf e)) * unitsPerOne ≤
      3500 * unitsPerOne :=
    mul_le_mul_of_nonneg_right (by exact_mod_cast ladder) scale
  rw [mastered]
  constructor <;> linarith

/-- Practice of a skill in order, with any amounts, rates and rolls, gives a result, in which each
step advances the skill, and which gains no more than three thousand five hundred in all. The reports
add up to the gain exactly, unless the experience has more than forty-two binary places. A double
must not be added to a whole number beyond the doubles. -/
theorem practise_conserves (h : WellFormed e) (d : Draws)
    (fits : (∃ i, expOf e = .int i) ∨
      ∀ amount, .add amount ∈ steps → ∃ y, (Number.int amount).toDouble? = some y) :
    ∃ gains d', practise steps e d = (.ok gains, d') ∧ Course e steps gains ∧
      mastered e ≤ mastered (trained e gains) ∧
      mastered (trained e gains) - mastered e ≤ 3500 * unitsPerOne ∧
      ((grain : Int) ∣ (expOf e).units →
        (gains.map (·.expGained.units)).sum = mastered (trained e gains) - mastered e) := by
  obtain ⟨gains, d', ok, run⟩ := practise_gives h fits d
  have start := h.mastered_bounds.1
  have top := (run.wellFormed h).mastered_bounds.2
  exact ⟨gains, d', ok, run, run.grown, by omega, run.sum_gained⟩

/-- A sword skill of the first mastery with some experience. -/
def swordplay (exp : Number) : Entity where
  name := "Kiếm"
  kind := .skill
  mastery := some "Sơ Cấp"
  skillExp := some exp
  maxSkillExp := some (.int 100)

theorem wellFormed_swordplay {exp : Number} (low : (Number.int 0).le exp = true)
    (high : exp.le (.int 100) = true) (below : exp.same (.int 100) = false) :
    WellFormed (swordplay exp) where
  skill := rfl
  ranked := rfl
  maximum := ⟨.int 100, rfl, rfl⟩
  exp := ⟨exp, rfl, low, high, below.symm⟩
  eligible := nofun

/-- Ninety points and then twenty bring the skill to its cap, and seven more follow a breakthrough. -/
def lessons : List Practice :=
  [.prepare, .add 90, .add 20, .roll, .attempt (.float defaultRate), .add 7]

theorem lessons_conserve : WellFormed (swordplay (.int 0)) ∧ ∃ gains d',
    practise lessons (swordplay (.int 0)) {} = (.ok gains, d') ∧
    (gains.map (·.expGained.units)).sum = 107 * unitsPerOne ∧
    level (trained (swordplay (.int 0)) gains) = 1 := by
  have ordered : WellFormed (swordplay (.int 0)) := wellFormed_swordplay rfl rfl rfl
  obtain ⟨gains, d', ok, -, -, -, told⟩ :=
    @practise_conserves _ lessons ordered {} (.inl ⟨0, rfl⟩)
  have known : (practise lessons (swordplay (.int 0)) {}).1.toOption.map
      (fun gains => (mastered (trained (swordplay (.int 0)) gains) - mastered (swordplay (.int 0)),
        level (trained (swordplay (.int 0)) gains))) = some (107 * (unitsPerOne : Int), 1) := by
    decide +kernel
  rw [ok] at known
  obtain ⟨rise, top⟩ := Prod.mk.inj (Option.some.inj known)
  exact ⟨ordered, gains, d', ok, (told ⟨0, by decide +kernel⟩).trans rise, top⟩

/-- Experience in doubles cannot take up a whole number beyond the doubles, and one point added to a
tenth is reported as one point, though the double rises by a little more. -/
theorem double_not_conserved : (WellFormed (swordplay (.float (.ofRatio 1 2))) ∧
      addExp (swordplay (.float (.ofRatio 1 2))) (.int (10 ^ 400 : Nat)) = .error .beyondDouble) ∧
    WellFormed (swordplay (.float (.ofRatio 1 10))) ∧ ∃ gain,
      addExp (swordplay (.float (.ofRatio 1 10))) (.int 1) = .ok gain ∧
      gain.expGained.units ≠
        mastered gain.skill - mastered (swordplay (.float (.ofRatio 1 10))) := by
  have half : WellFormed (swordplay (.float (.ofRatio 1 2))) :=
    wellFormed_swordplay (by decide +kernel) (by decide +kernel) (by decide +kernel)
  have tenth : WellFormed (swordplay (.float (.ofRatio 1 10))) :=
    wellFormed_swordplay (by decide +kernel) (by decide +kernel) (by decide +kernel)
  have room : ((swordplay (.float (.ofRatio 1 2))).skillCapped ||
      (Number.int (threshold (masteryOf (swordplay (.float (.ofRatio 1 2)))))).le
        (expOf (swordplay (.float (.ofRatio 1 2))))) = false := by
    decide +kernel
  have beyond : (expOf (swordplay (.float (.ofRatio 1 2)))).add? (.int (10 ^ 400 : Nat)) = none := by
    decide +kernel
  have differs : (addExp (swordplay (.float (.ofRatio 1 10))) (.int 1)).toOption.all
      (fun gain => gain.expGained.units ≠
        mastered gain.skill - mastered (swordplay (.float (.ofRatio 1 10)))) = true := by
    decide +kernel
  refine ⟨⟨half, ?_⟩, tenth, ?_⟩
  · rw [addExp_eq half.skill (by decide +kernel), room, beyond]
    rfl
  · obtain ⟨gain, added, -⟩ :=
      @addExp_advances _ 1 tenth (.inr ⟨.ofRatio 1 1, by decide +kernel⟩)
    rw [added] at differs
    exact ⟨gain, added, of_decide_eq_true differs⟩

end Gamebook.Skill
