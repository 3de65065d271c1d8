import Gamebook.Draws
import Gamebook.State.Basic

/-!
Experience and mastery of skills. Experience grows up to the cap of the present mastery; a capped
skill needs a breakthrough to the next mastery, which empties its experience. Eligibility for a
breakthrough is rolled for.
-/

namespace Gamebook.Skill

/-- The masteries in ascending order with the experience that caps each. -/
def masteryLadder : List (String × Nat) :=
  [("Sơ Cấp", 100), ("Trung Cấp", 300), ("Cao Cấp", 600), ("Đại Thành", 1000), ("Viên Mãn", 1500)]

def firstMastery : String := "Sơ Cấp"

/-- The last mastery, beyond which there is no breakthrough. -/
def lastMastery : String := "Viên Mãn"

def threshold (mastery : String) : Nat := (Keyed.get? masteryLadder mastery).getD 0

/-- The mastery that follows another on the ladder. -/
def nextMastery? (mastery : String) : List (String × Nat) → Option String
  | (m, _) :: (next, n) :: rest =>
    if m = mastery then some next else nextMastery? mastery ((next, n) :: rest)
  | _ => none

/-- The mastery of a skill; one that is not on the ladder counts as the first. -/
def masteryOf (e : Entity) : String :=
  match e.mastery with
  | some m => if Keyed.has masteryLadder m then m else firstMastery
  | none => firstMastery

/-- The chance of a breakthrough when none is given. -/
def defaultRate : Double := .ofRatio 3 4

/-- The chance to become eligible for a breakthrough. -/
def eligibilityChance : Double := .ofRatio 1 5

/-- What a step did to a skill. -/
structure Gain where
  skill : Entity
  expGained : Number := .int 0
  masteryLevelUp : Bool := false
  previousMastery : Option String := none
  newMastery : Option String := none

/-- The experience of a skill, zero if it has none. -/
def expOf (e : Entity) : Number := (Number.nonzero? e.skillExp).getD (.int 0)

/-- Fills in the bookkeeping of a skill. -/
def prepared (e : Entity) : Entity :=
  if e.kind = .skill then
    { e with
      skillExp := some (expOf e)
      maxSkillExp := some (.int (threshold (masteryOf e)))
      mastery := some (masteryOf e) }
  else e

/-- Adds experience to a skill, up to its cap. -/
def addExp (e : Entity) (amount : Number) : Outcome Gain :=
  if e.kind ≠ .skill || amount.le (.int 0) then .ok { skill := e }
  else do
    let e := prepared e
    let canBreak := masteryOf e ≠ lastMastery
    let current := expOf e
    let cap := (Number.nonzero? e.maxSkillExp).getD (.int (threshold (masteryOf e)))
    if e.skillCapped || cap.le current then
      return { skill := { e with skillCapped := true, breakthroughEligible := canBreak } }
    else
      let raised ← Outcome.ofArithmetic (current.add? amount)
      let exp := raised.min cap
      let capped := cap.le exp
      let gained ← Outcome.ofArithmetic (exp.sub? current)
      return {
        skill := { e with
          skillExp := some exp
          skillCapped := capped
          breakthroughEligible := capped && canBreak }
        expGained := gained }

/-- Whether a breakthrough may be attempted. -/
def canAttempt (e : Entity) : Bool :=
  e.kind = .skill && e.skillCapped && e.mastery ≠ some lastMastery

/-- What a breakthrough attempt with a roll does: below the rate it reaches the next mastery, and
otherwise the skill loses its eligibility. -/
def breakthrough (e : Entity) (roll rate : Number) : Gain :=
  match nextMastery? (masteryOf e) masteryLadder with
  | some next =>
    if roll.lt rate then
      { skill := { e with
          mastery := some next
          skillExp := some (.int 0)
          maxSkillExp := some (.int (threshold next))
          skillCapped := false
          breakthroughEligible := false }
        masteryLevelUp := true
        previousMastery := some (masteryOf e)
        newMastery := some next }
    else { skill := { e with breakthroughEligible := false } }
  | none => { skill := { e with breakthroughEligible := false } }

/-- Attempts a breakthrough; only a skill that may break through draws a roll. -/
def attempt (e : Entity) (rate : Number) : Play Gain := do
  if canAttempt e then
    let roll ← Play.roll
    return breakthrough e roll rate
  else return { skill := e }

/-- Whether a skill may be rolled for. -/
def awaitsRoll (e : Entity) : Bool := canAttempt e && !e.breakthroughEligible

/-- Rolls for the eligibility of one skill. -/
def rollEligibility (e : Entity) : Play Entity := do
  if awaitsRoll e then
    let roll ← Play.roll
    return if roll.lt (.float eligibilityChance) then { e with breakthroughEligible := true } else e
  else return e

/-- Whether a skill may still gain experience. -/
def canGain (e : Entity) : Bool := e.kind = .skill && !e.skillCapped

end Gamebook.Skill
