import Gamebook.Proofs.Skill.Setback
import Gamebook.Proofs.Tag.Attribute
import Gamebook.Proofs.Tag.Spelling
import Gamebook.Tag.Interpretation

/-!
Breakthroughs at a given rate. A tag that tells a rate decides by it whether a skill enters the next
mastery: the roll is below the rate that is read, and so below the decimal that is spelled unless the
two are one double. Only a rate that is read as zero is taken for none.
-/

namespace Gamebook

open Attribute Skill

/-- The rate that a breakthrough is attempted at when a decimal is spelled. -/
def Attribute.Spelling.rate (n : Spelling) : Double :=
  if n.nearest.isZero then defaultRate else n.nearest

namespace Scene

variable {attrs : Fields} {c : Scene} {d d' : Draws} {e : Entity} {m name text : String}
  {n : Spelling} {x : Number}

theorem successRate_of_begins (given : Value.field attrs "successRate" = .text text)
    (begins : n.Begins text.toList) : successRate attrs = .ok n.rate := by
  rw [successRate, given]
  change ((Except.ok ((leadingDouble? text).getD 0) : Outcome Double)).map _ = _
  rw [leadingDouble?_eq_some.mpr ⟨n, begins, rfl⟩]
  rfl

theorem skill?_of_find? (named : text? attrs "skillName" = some name)
    (found : c.state.find? name = some e) (skill : e.kind = .skill) :
    c.skill? (some name) = some e := by
  have filled : ¬name.isEmpty = true := fun empty =>
    text?_ne_empty named (String.isEmpty_iff.mp empty)
  rw [skill?, find?, if_neg filled, found, Option.filter_some, if_pos (decide_eq_true skill)]

theorem breakThrough_tried {rate : Double} {gain : Gain} (named : text? attrs "skillName" = some name)
    (known : c.skill? (some name) = some e) (read : successRate attrs = .ok rate)
    (tried : attempt e (.float rate) d = (.ok gain, d')) :
    c.breakThrough attrs d = (.ok (if gain.masteryLevelUp then
      (c.put gain.skill).tell (breakthroughEvent name gain) else c.put gain.skill).changed, d') := by
  rw [breakThrough, named]
  simp only [known, read]
  exact Play.bind_eq_ok.mpr ⟨rate, d, rfl, Play.bind_eq_ok.mpr ⟨gain, d', tried, rfl⟩⟩

/-- A capped skill below the last mastery breaks through if the roll is below the rate, enters the
mastery that follows its own without experience and uncapped, and the event is told; otherwise it loses
its eligibility and nothing else changes. The roll is below the rate exactly if it is below the decimal
that the text begins with, for every decimal that is not read as zero and every roll that is not the
double it is read as. -/
theorem breakThrough_at_rate (named : text? attrs "skillName" = some name)
    (found : c.state.find? name = some e) (skill : e.kind = .skill) (capped : e.skillCapped = true)
    (mastery : e.mastery = some m) (ranked : Keyed.has masteryLadder m = true)
    (below : m ≠ lastMastery) (given : Value.field attrs "successRate" = .text text)
    (begins : n.Begins text.toList) (rolled : d.roll = (x, d')) (low : (Number.int 0).le x = true)
    (high : x.lt (.int 1) = true) :
    ∃ next p, TagKind.skillBreakthrough.play attrs c d = (.ok p, d') ∧ p.changed = true ∧
      nextMastery? m masteryLadder = some next ∧
      masteryLadder.findIdx (·.1 = next) = masteryLadder.findIdx (·.1 = m) + 1 ∧
      p.scene = (if x.lt (.float n.rate) then
          (c.put (booked e next (.int 0) false false)).tell
            ("Breakthrough: " ++ name ++ " " ++ m ++ " -> " ++ next)
        else c.put { e with breakthroughEligible := false }) ∧
      (n.nearest.isZero = false → x.same (.float n.nearest) = false →
        (x.lt (.float n.rate) = true ↔ x.value < n.value)) := by
  obtain ⟨next, follows⟩ := exists_nextMastery ranked below
  have own : masteryOf e = m := by rw [masteryOf, mastery]; exact if_pos ranked
  have can : canAttempt e = true := by simp [canAttempt, skill, capped, mastery, below]
  have tried : attempt e (.float n.rate) d = (.ok (breakthrough e x (.float n.rate)), d') :=
    attempt_rolled can rolled _
  rw [breakthrough_eq (own.symm ▸ follows), own] at tried
  simp only [TagKind.play]
  refine ⟨next, _, breakThrough_tried named (skill?_of_find? named found skill)
    (successRate_of_begins given begins) tried, rfl, follows, (nextMastery?_ladder follows).2.1, ?_,
    fun nonzero apart => ?_⟩
  · cases x.lt (.float n.rate) <;> rfl
  · rw [Spelling.rate, if_neg (by rw [nonzero]; exact Bool.false_ne_true)]
    exact Number.lt_ofDecimal_iff low high n.negative apart

/-- A scene in which a capped sword skill is eligible for a breakthrough. -/
def duel : Scene := { state := { knownEntities := [("Kiếm", readied)] } }

def ventured (rate : String) : Fields := [("skillName", .text "Kiếm"), ("successRate", .text rate)]

theorem duel_breaks_through : (Spelling.mk false [0] [5]).Begins " +0.5".toList ∧
    ∃ p, TagKind.skillBreakthrough.play (ventured " +0.5") duel
        { rolls := [.float (.ofRatio 1 4)] } = (.ok p, {}) ∧
      p.scene.state.find? "Kiếm" = some (booked readied "Trung Cấp" (.int 0) false false) := by
  have split : " +0.5".toList = [' '] ++ ['+'] ++ ['0'] ++ ('.' :: ['5'] ++ []) := by decide
  have begins : (Spelling.mk false [0] [5]).Begins " +0.5".toList := by
    rw [split]
    exact .intro (List.forall_mem_singleton.mpr rfl) .plus (.cons (by decide +kernel) .nil)
      (.point (.cons (by decide +kernel) .nil) stopsDigits_nil) (.inl (by decide))
  have less : (Number.float (.ofRatio 1 4)).lt (.float (Spelling.mk false [0] [5]).rate) = true := by
    decide +kernel
  have known : nextMastery? "Sơ Cấp" masteryLadder = some "Trung Cấp" := by decide
  have named : text? (ventured " +0.5") "skillName" = some "Kiếm" := by decide +kernel
  have found : duel.state.find? "Kiếm" = some readied := rfl
  have mastery : readied.mastery = some "Sơ Cấp" := rfl
  have rolled : ({ rolls := [.float (.ofRatio 1 4)] } : Draws).roll = (.float (.ofRatio 1 4), {}) := rfl
  obtain ⟨next, p, ok, -, follows, -, scene, -⟩ := breakThrough_at_rate named found rfl rfl mastery
    (by decide) (by decide) rfl begins rolled (by decide +kernel) (by decide +kernel)
  obtain rfl := Option.some.inj (known.symm.trans follows)
  rw [less, if_pos rfl] at scene
  refine ⟨begins, p, ok, ?_⟩
  rw [scene]
  rfl

/-- A rate of zero is taken for none: no roll is below it, and yet the skill breaks through. -/
theorem zero_rate_breaks_through : (Spelling.mk false [0] []).Begins "0".toList ∧
    (Spelling.mk false [0] []).value = 0 ∧
    ∃ p d', TagKind.skillBreakthrough.play (ventured "0") duel { rolls := [.float (.ofRatio 1 2)] } =
        (.ok p, d') ∧
      (p.scene.state.find? "Kiếm").bind (·.mastery) = some "Trung Cấp" := by
  have split : "0".toList = [] ++ [] ++ ['0'] ++ [] := by decide
  refine ⟨?_, by simp [Spelling.value, Spelling.decimal, Numeral.decimal, Double.Decimal.value,
    Numeral.valueOf], ?_⟩
  · rw [split]
    exact .intro (List.forall_mem_nil _) .bare (.cons (by decide +kernel) .nil) follows_nil
      (.inl (by decide))
  · have raises : Play.passes (TagKind.skillBreakthrough.play (ventured "0") duel)
        { rolls := [.float (.ofRatio 1 2)] }
        (fun p _ => (p.scene.state.find? "Kiếm").bind (·.mastery) == some "Trung Cấp") = true := by
      decide +kernel
    obtain ⟨p, d', ok, raised⟩ := Play.exists_of_passes raises
    exact ⟨p, d', ok, beq_iff_eq.mp raised⟩

end Scene

end Gamebook
