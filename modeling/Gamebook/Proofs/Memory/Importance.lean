import Mathlib
import Gamebook.Memory.Importance
import Gamebook.Proofs.Number.Amount
import Gamebook.Proofs.Outcome

/-!
The score as a sum. Every bonus is zero or more unless the feeling of a memory is not a number, and
then the score is zero. So a memory with more bonuses never has a lower score: rounding keeps the
order, and only amounts above a hundred are lost to the bound of the score.
-/

namespace Gamebook

namespace Double

theorem nonNegative_of_pos {x : Double} (h : Double.lt 0 x = true) : x.NonNegative := by
  cases x with
  | nan => exact nomatch h
  | infinite negative =>
      cases negative with
      | true => exact nomatch h
      | false => exact .infinite
  | finite negative code below =>
      cases negative with
      | true =>
          have order : (0 : Int) < -(code : Int) := of_decide_eq_true h
          omega
      | false => exact .finite code below

theorem lt_nan (x : Double) : x.lt .nan = false := by
  cases x <;> rfl

theorem ofQuotient_ne_nan (negative : Bool) (num den : Nat) : ofQuotient negative num den ≠ .nan := by
  simp only [ofQuotient]
  split <;> exact Double.noConfusion

theorem ofInt_ne_nan (i : Int) : ofInt i ≠ .nan := by
  rw [ofInt, ofRatio]
  exact ofQuotient_ne_nan _ _ _

theorem add_nan (x : Double) : x + .nan = .nan := by
  cases x <;> rfl

theorem abs_nonNegative {x : Double} (h : x ≠ .nan) : x.abs.NonNegative := by
  cases x with
  | nan => exact absurd rfl h
  | infinite negative => exact .infinite
  | finite negative code below => exact .finite code below

theorem NonNegative.double_value {x : Double} (h : x.NonNegative) :
    (x * ofInt 2).NonNegative := by
  obtain ⟨code, below, two, size⟩ := ofInt_eq_finite (n := 2) (by decide)
  have nonzero : code ≠ 0 := by
    rintro rfl
    exact absurd size (by decide)
  have factor : ofInt 2 = .finite false code below := two
  rw [factor]
  cases h with
  | infinite =>
      change (if code = 0 then Double.nan else .infinite false).NonNegative
      rw [if_neg nonzero]
      exact .infinite
  | finite a ha => exact ofQuotient_nonNegative _ _

end Double

namespace Number

theorem add?_nan {x y : Number} (h : x.add? (.float .nan) = some y) : y = .float .nan := by
  rw [add?_rounded h (by rintro _ _ ⟨-, float⟩; cases float)]
  exact congrArg Number.float (Double.add_nan _)

theorem nan_add? {x y : Number} (h : add? (.float .nan) x = some y) : y = .float .nan := by
  rw [add?_rounded h (by rintro _ _ ⟨float, -⟩; cases float)]
  rfl

theorem nonNegative_of_pos {x : Number} (h : (Number.int 0).lt x = true) : x.NonNegative := by
  cases x with
  | int i =>
      have positive : 0 < i := of_decide_eq_true h
      exact positive.le
  | float x =>
      cases x with
      | nan => exact nomatch h
      | infinite negative =>
          cases negative with
          | true => exact nomatch h
          | false => exact .infinite
      | finite negative code below =>
          cases negative with
          | true =>
              have order : 0 * (unitsPerOne : Int) < -(Double.units code : Int) :=
                of_decide_eq_true h
              omega
          | false => exact .finite code below

end Number

namespace Memory

open Outcome

/-- Adding bonuses to a sum. -/
def addBonuses (sum : Number) (bs : List Bonus) : Outcome Number :=
  bs.foldlM (fun sum b => Outcome.ofArithmetic (sum.add? b.points)) sum

theorem addBonuses_cons_eq_ok {sum : Number} {b : Bonus} {bs : List Bonus} {x : Number} :
    addBonuses sum (b :: bs) = .ok x ↔
      ∃ next, sum.add? b.points = some next ∧ addBonuses next bs = .ok x := by
  simp only [addBonuses, List.foldlM_cons, bind_eq_ok, ofArithmetic_eq_ok]

theorem addBonuses_nonNegative {sum x : Number} {bs : List Bonus} (hsum : sum.NonNegative)
    (hbs : ∀ b ∈ bs, b.points.NonNegative) (h : addBonuses sum bs = .ok x) : x.NonNegative := by
  induction bs generalizing sum with
  | nil =>
      obtain rfl := pure_eq_ok.mp h
      exact hsum
  | cons b bs ih =>
      obtain ⟨next, step, rest⟩ := addBonuses_cons_eq_ok.mp h
      have hb := hbs b List.mem_cons_self
      exact ih (hsum.add? hb step) (fun c hc => hbs c (List.mem_cons_of_mem b hc)) rest

/-- More bonuses never make a lower sum, as far as a hundred. -/
theorem addBonuses_upTo {x y x' y' : Number} {bs bs' : List Bonus} (more : bs.Sublist bs')
    (hbs : ∀ b ∈ bs', b.points.NonNegative) (hx : x.NonNegative) (hy : y.NonNegative)
    (start : x.UpTo y) (fewer : addBonuses x bs = .ok x') (all : addBonuses y bs' = .ok y') :
    x'.UpTo y' := by
  induction more generalizing x y with
  | slnil =>
      obtain rfl := pure_eq_ok.mp fewer
      obtain rfl := pure_eq_ok.mp all
      exact start
  | cons b _ ih =>
      obtain ⟨next, step, rest⟩ := addBonuses_cons_eq_ok.mp all
      have hb := hbs b List.mem_cons_self
      exact ih (fun c hc => hbs c (List.mem_cons_of_mem b hc)) hx (hy.add? hb step)
        (start.add_right hx hy hb step) fewer rest
  | cons_cons b _ ih =>
      obtain ⟨left, stepLeft, restLeft⟩ := addBonuses_cons_eq_ok.mp fewer
      obtain ⟨right, stepRight, restRight⟩ := addBonuses_cons_eq_ok.mp all
      have hb := hbs b List.mem_cons_self
      exact ih (fun c hc => hbs c (List.mem_cons_of_mem b hc)) (hx.add? hb stepLeft)
        (hy.add? hb stepRight) (start.add_both hx hy hb stepLeft stepRight) restLeft restRight

theorem addBonuses_nan {x : Number} {bs : List Bonus} (h : addBonuses (.float .nan) bs = .ok x) :
    x = .float .nan := by
  induction bs with
  | nil => exact (pure_eq_ok.mp h).symm
  | cons b bs ih =>
      obtain ⟨next, step, rest⟩ := addBonuses_cons_eq_ok.mp h
      rw [Number.nan_add? step] at rest
      exact ih rest

/-- A single bonus that is not a number spoils the sum. -/
theorem addBonuses_of_mem_nan {sum x : Number} {bs : List Bonus} {b : Bonus} (member : b ∈ bs)
    (spoilt : b.points = .float .nan) (h : addBonuses sum bs = .ok x) : x = .float .nan := by
  induction bs generalizing sum with
  | nil => exact absurd member List.not_mem_nil
  | cons c bs ih =>
      obtain ⟨next, step, rest⟩ := addBonuses_cons_eq_ok.mp h
      rcases List.mem_cons.mp member with rfl | later
      · rw [spoilt] at step
        rw [Number.add?_nan step] at rest
        exact addBonuses_nan rest
      · exact ih later rest

theorem clamp_nan : clamp (.float .nan) = .ok 0 := rfl

theorem clamp_eq_ok {sum : Number} {x : Double} (hsum : sum.NonNegative)
    (h : clamp sum = .ok x) : x.NonNegative ∧ x.height = sum.double.capped := by
  simp only [clamp, bind_eq_ok, ofArithmetic_eq_ok, pure_eq_ok] at h
  obtain ⟨y, converted, rfl⟩ := h
  rw [← Number.eq_double_of_toDouble? converted]
  have hy : y.NonNegative := Number.eq_double_of_toDouble? converted ▸ hsum.double
  have full : (Double.ofInt 100).NonNegative := Double.ofInt_nonNegative 100
  by_cases positive : Double.lt 0 y = true
  · rw [if_pos positive]
    by_cases below : y.lt (.ofInt 100) = true
    · rw [if_pos below]
      have order := (Double.lt_iff_height hy full).mp below
      exact ⟨hy, (Nat.min_eq_left order.le).symm⟩
    · rw [if_neg below]
      have order := mt (Double.lt_iff_height hy full).mpr below
      exact ⟨full, (Nat.min_eq_right (Nat.not_lt.mp order)).symm⟩
  · rw [if_neg positive]
    have order := mt (Double.lt_iff_height Double.nonNegative_zero hy).mpr positive
    have zero : y.height = 0 := Nat.eq_zero_of_not_pos order
    refine ⟨Double.nonNegative_zero, ?_⟩
    rw [Double.capped, zero, Nat.zero_min]
    rfl

theorem bonuses_eq_ok {m : Memory} {s : GameState} {bs : List Bonus} :
    m.bonuses s = .ok bs ↔ ∃ created accessed,
      momentBonus "Recent creation" 20 (.ofRatio 1 2) s.turnCount m.createdAt = .ok created ∧
      momentBonus "Recently accessed" 15 (.ofRatio 3 10) s.turnCount m.lastAccessed = .ok accessed ∧
      sourceBonus m :: (pinBonus m ++ created ++ accessed ++ entityBonus s m ++ emotionBonus m ++
        categoryBonus m ++ contentBonus m) = bs := by
  simp only [bonuses, bind_eq_ok, pure_eq_ok, exists_and_left]

theorem score_eq_ok {m : Memory} {s : GameState} {x : Double} :
    m.score s = .ok x ↔
      ∃ bs sum, m.bonuses s = .ok bs ∧ total bs = .ok sum ∧ clamp sum = .ok x := by
  simp only [score, analyze, map_eq_ok, bind_eq_ok, pure_eq_ok]
  constructor
  · rintro ⟨_, ⟨bs, hbs, sum, hsum, y, hy, rfl⟩, rfl⟩
    exact ⟨bs, sum, hbs, hsum, hy⟩
  · rintro ⟨bs, sum, hbs, hsum, hx⟩
    exact ⟨_, ⟨bs, hbs, sum, hsum, x, hx, rfl⟩, rfl⟩

theorem sourcePoints_ge (source : Option MemorySource) : 10 ≤ sourcePoints source := by
  rcases source with _ | _ | _ | _ <;> decide

theorem pinBonus_nonNegative (m : Memory) : ∀ b ∈ pinBonus m, b.points.NonNegative := by
  intro b member
  simp only [pinBonus] at member
  split_ifs at member with pinned
  · obtain rfl := List.mem_singleton.mp member
    exact (by decide : (0 : Int) ≤ 50)
  · exact absurd member List.not_mem_nil

theorem momentBonus_nonNegative {label : String} {full : Int} {rate : Double} {turn : Nat}
    {moment : Option Int} {bs : List Bonus} (h : momentBonus label full rate turn moment = .ok bs) :
    ∀ b ∈ bs, b.points.NonNegative := by
  intro b member
  cases moment with
  | none =>
      obtain rfl := Except.ok.inj h
      exact absurd member List.not_mem_nil
  | some t =>
      simp only [momentBonus] at h
      split_ifs at h with zero
      · obtain rfl := Except.ok.inj h
        exact absurd member List.not_mem_nil
      · obtain ⟨left, -, result⟩ := bind_eq_ok.mp h
        obtain rfl := pure_eq_ok.mp result
        split_ifs at member with positive
        · obtain rfl := List.mem_singleton.mp member
          exact Double.nonNegative_of_pos positive
        · exact absurd member List.not_mem_nil

theorem entityPoints_congr {s s' : GameState} (known : s'.knownEntities = s.knownEntities)
    (name : String) : entityPoints s' name = entityPoints s name := by
  simp only [entityPoints, GameState.find?, known]

theorem entityPoints_nonneg (s : GameState) (name : String) : 0 ≤ entityPoints s name := by
  simp only [entityPoints]
  split
  · exact le_rfl
  · split_ifs <;> decide

theorem sum_entityPoints_nonneg (s : GameState) (names : List String) {start : Int}
    (h : 0 ≤ start) : 0 ≤ (names.map (entityPoints s)).foldl (· + ·) start := by
  induction names generalizing start with
  | nil => exact h
  | cons name names ih => exact ih (Int.add_nonneg h (entityPoints_nonneg s name))

theorem entityBonus_nonNegative (s : GameState) (m : Memory) :
    ∀ b ∈ entityBonus s m, b.points.NonNegative := by
  intro b member
  simp only [entityBonus] at member
  split_ifs at member with zero
  · exact absurd member List.not_mem_nil
  · obtain rfl := List.mem_singleton.mp member
    exact sum_entityPoints_nonneg s m.related le_rfl

theorem emotionBonus_nonNegative {m : Memory} (h : m.emotionalWeight ≠ some .nan) :
    ∀ b ∈ emotionBonus m, b.points.NonNegative := by
  intro b member
  cases felt : m.emotionalWeight with
  | none =>
      simp only [emotionBonus, felt] at member
      exact absurd member List.not_mem_nil
  | some w =>
      simp only [emotionBonus, felt] at member
      split_ifs at member with zero
      · exact absurd member List.not_mem_nil
      · obtain rfl := List.mem_singleton.mp member
        have number : w ≠ .nan := fun same => h (felt.trans (congrArg some same))
        exact (Double.abs_nonNegative number).double_value

/-- A feeling that is not a number is counted all the same. -/
theorem emotionBonus_nan {m : Memory} (h : m.emotionalWeight = some .nan) :
    ∃ b ∈ emotionBonus m, b.points = .float .nan := by
  simp only [emotionBonus, h]
  exact ⟨_, List.mem_singleton_self _, rfl⟩

theorem categoryBonus_nonNegative (m : Memory) : ∀ b ∈ categoryBonus m, b.points.NonNegative := by
  intro b member
  simp only [categoryBonus] at member
  split at member
  · exact absurd member List.not_mem_nil
  · rename_i category _
    cases category <;> simp only [categoryPoints] at member <;>
      first
        | exact absurd member List.not_mem_nil
        | (obtain rfl := List.mem_singleton.mp member
           exact Int.natCast_nonneg _)

theorem contentBonus_nonNegative (m : Memory) : ∀ b ∈ contentBonus m, b.points.NonNegative := by
  intro b member
  simp only [contentBonus] at member
  split_ifs at member with positive
  · obtain rfl := List.mem_singleton.mp member
    exact Number.nonNegative_of_pos positive
  · exact absurd member List.not_mem_nil

theorem bonuses_nonNegative {m : Memory} {s : GameState} {bs : List Bonus}
    (number : m.emotionalWeight ≠ some .nan) (h : m.bonuses s = .ok bs) :
    ∀ b ∈ bs, b.points.NonNegative := by
  obtain ⟨created, accessed, hcreated, haccessed, rfl⟩ := bonuses_eq_ok.mp h
  intro b member
  simp only [List.mem_cons, List.mem_append] at member
  rcases member with rfl | (((((pin | recent) | used) | known) | felt) | themed) | telling
  · exact (by decide : (0 : Int) ≤ 10).trans (sourcePoints_ge m.source)
  · exact pinBonus_nonNegative m b pin
  · exact momentBonus_nonNegative hcreated b recent
  · exact momentBonus_nonNegative haccessed b used
  · exact entityBonus_nonNegative s m b known
  · exact emotionBonus_nonNegative number b felt
  · exact categoryBonus_nonNegative m b themed
  · exact contentBonus_nonNegative m b telling

/-- A feeling that is not a number makes a memory worthless. -/
theorem score_of_nan {m : Memory} {s : GameState} {x : Double}
    (spoilt : m.emotionalWeight = some .nan) (h : m.score s = .ok x) : x = 0 := by
  obtain ⟨bs, sum, hbs, hsum, hx⟩ := score_eq_ok.mp h
  obtain ⟨created, accessed, -, -, rfl⟩ := bonuses_eq_ok.mp hbs
  obtain ⟨b, member, points⟩ := emotionBonus_nan spoilt
  have within : b ∈ sourceBonus m :: (pinBonus m ++ created ++ accessed ++ entityBonus s m ++
      emotionBonus m ++ categoryBonus m ++ contentBonus m) := by
    simp only [List.mem_cons, List.mem_append, member, or_true, true_or]
  rw [addBonuses_of_mem_nan within points hsum, clamp_nan] at hx
  exact (Except.ok.inj hx).symm

theorem score_nonNegative {m : Memory} {s : GameState} {x : Double} (h : m.score s = .ok x) :
    x.NonNegative := by
  by_cases spoilt : m.emotionalWeight = some .nan
  · rw [score_of_nan spoilt h]
    exact Double.nonNegative_zero
  · obtain ⟨bs, sum, hbs, hsum, hx⟩ := score_eq_ok.mp h
    have start : (Number.int 0).NonNegative := Int.le_refl 0
    exact (clamp_eq_ok (addBonuses_nonNegative start (bonuses_nonNegative spoilt hbs) hsum) hx).1

/-- Importance depends on the turn and on the known entities alone. -/
theorem analyze_congr {s s' : GameState} (turn : s'.turnCount = s.turnCount)
    (known : s'.knownEntities = s.knownEntities) (m : Memory) : m.analyze s' = m.analyze s := by
  simp only [analyze, bonuses, entityBonus, funext (entityPoints_congr known), turn]

theorem score_congr {s s' : GameState} (turn : s'.turnCount = s.turnCount)
    (known : s'.knownEntities = s.knownEntities) (m : Memory) : m.score s' = m.score s := by
  rw [score, analyze_congr turn known, score]

/-! ### What can fail -/

theorem momentBonus_ranged (label : String) (full : Int) (rate : Double) (turn : Nat)
    (moment : Option Int) : Ranged (momentBonus label full rate turn moment) := by
  unfold momentBonus
  split
  · exact ranged_ok []
  · split
    · exact ranged_ok []
    · apply ranged_bind
      · exact ranged_bind (ranged_ofArithmetic _) fun turns => ranged_ok _
      · intro left
        exact ranged_ok _

theorem analyze_ranged (m : Memory) (s : GameState) : Ranged (m.analyze s) := by
  apply ranged_bind
  · apply ranged_bind (momentBonus_ranged _ _ _ _ _)
    intro created
    exact ranged_bind (momentBonus_ranged _ _ _ _ _) fun accessed => ranged_ok _
  · intro bs
    apply ranged_bind (ranged_foldlM (fun _ _ => ranged_ofArithmetic _) _ _)
    intro sum
    apply ranged_bind
    · exact ranged_bind (ranged_ofArithmetic _) fun x => ranged_ok _
    · intro score
      exact ranged_ok _

theorem score_ranged (m : Memory) (s : GameState) : Ranged (m.score s) :=
  ranged_map _ (m.analyze_ranged s)

end Memory

end Gamebook
