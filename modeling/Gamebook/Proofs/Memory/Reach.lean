import Mathlib
import Gamebook.Proofs.Memory.Enhancement
import Gamebook.Proofs.Number.Amount

/-!
Memories that have a score. The moments of a memory are set off against the present turn and the
points of its entities are added up; unless one of these is absurdly large, every step of scoring
and enhancing gives a result, and an enhanced memory can be scored again.
-/

namespace Gamebook

open Outcome

/-- More names than a memory can sensibly be related to. -/
def crowd : Nat := 2 ^ 990

namespace Memory

/-- A memory whose moments and related entities can be computed with in a state. -/
structure InReach (s : GameState) (m : Memory) : Prop where
  created : ∀ t, m.createdAt = some t → ((s.turnCount : Int) - t).natAbs ≤ farthest
  accessed : ∀ t, m.lastAccessed = some t → ((s.turnCount : Int) - t).natAbs ≤ farthest
  related : m.related.length ≤ crowd

/-- How far the points of bonuses reach together. -/
def reachOf (bs : List Bonus) : Nat := (bs.map (·.points.reach)).sum

theorem reachOf_append (bs bs' : List Bonus) : reachOf (bs ++ bs') = reachOf bs + reachOf bs' := by
  rw [reachOf, List.map_append, List.sum_append, reachOf, reachOf]

theorem reachOf_cons (b : Bonus) (bs : List Bonus) :
    reachOf (b :: bs) = b.points.reach + reachOf bs := by
  rw [reachOf, List.map_cons, List.sum_cons, reachOf]

theorem reachOf_singleton (points : Number) (reason : String) :
    reachOf [⟨points, reason⟩] = points.reach := by
  rw [reachOf_cons, reachOf, List.map_nil, List.sum_nil, Nat.add_zero]

theorem reachOf_pinBonus (m : Memory) : reachOf (pinBonus m) ≤ 50 := by
  rw [pinBonus]
  split_ifs
  · rw [reachOf_singleton]
    exact Nat.le_refl 50
  · exact Nat.zero_le 50

theorem natAbs_entityPoints (s : GameState) (name : String) :
    (entityPoints s name).natAbs ≤ 10 := by
  rw [entityPoints]
  split
  · exact Nat.zero_le 10
  · split_ifs <;> decide

theorem natAbs_foldl_entityPoints (s : GameState) (names : List String) (start : Int) :
    ((names.map (entityPoints s)).foldl (· + ·) start).natAbs ≤
      start.natAbs + 10 * names.length := by
  induction names generalizing start with
  | nil => exact Nat.le_refl _
  | cons name names ih =>
      have step := Int.natAbs_add_le start (entityPoints s name)
      have one := natAbs_entityPoints s name
      have rest := ih (start + entityPoints s name)
      rw [List.map_cons, List.foldl_cons, List.length_cons]
      omega

theorem reachOf_entityBonus (s : GameState) (m : Memory) :
    reachOf (entityBonus s m) ≤ 10 * m.related.length := by
  have points := natAbs_foldl_entityPoints s m.related 0
  rw [Int.natAbs_zero, Nat.zero_add] at points
  simp only [entityBonus]
  split_ifs
  · exact Nat.zero_le _
  · rw [reachOf_singleton]
    exact points

theorem reachOf_emotionBonus (m : Memory) : reachOf (emotionBonus m) = 0 := by
  rw [emotionBonus]
  split
  · rfl
  · split_ifs <;> rfl

theorem reachOf_categoryBonus (m : Memory) : reachOf (categoryBonus m) ≤ 15 := by
  rw [categoryBonus]
  split
  · exact Nat.zero_le 15
  · rename_i category _
    cases category <;> decide

theorem reachOf_contentBonus (m : Memory) : reachOf (contentBonus m) ≤ 50 := by
  have points : (contentImportance m.text).reach ≤ 50 := by
    rw [contentImportance, Number.min]
    split_ifs
    · exact Nat.zero_le 50
    · exact Nat.le_refl 50
  simp only [contentBonus]
  split_ifs
  · rwa [reachOf_singleton]
  · exact Nat.zero_le 50

theorem exists_momentBonus {label : String} {full : Int} {rate : Double} {turn : Nat}
    {moment : Option Int}
    (h : ∀ t, moment = some t → ((turn : Int) - t).natAbs ≤ farthest) :
    ∃ bs, momentBonus label full rate turn moment = .ok bs := by
  cases moment with
  | none => exact ⟨[], rfl⟩
  | some t =>
      simp only [momentBonus]
      split_ifs with zero
      · exact ⟨[], rfl⟩
      · obtain ⟨turns, converted⟩ :=
          Number.exists_toDouble? (x := .int (turn - t)) (h t rfl)
        simp only [fading, converted, bind_eq_ok, pure_eq_ok]
        exact ⟨_, _, ⟨turns, rfl, rfl⟩, rfl⟩

/-- A moment that is filled in is the present one, for which there is a bonus. -/
theorem exists_momentBonus_stamp {label : String} {full : Int} {rate : Double} {turn : Nat}
    {moment : Option Int} {bs : List Bonus} (h : momentBonus label full rate turn moment = .ok bs) :
    ∃ bs', momentBonus label full rate turn (stamp turn moment) = .ok bs' := by
  rw [stamp]
  split_ifs with unset
  · apply exists_momentBonus
    intro t now
    rw [← Option.some.inj now, Int.sub_self]
    exact Nat.zero_le _
  · exact ⟨bs, h⟩

theorem reachOf_momentBonus {label : String} {full : Int} {rate : Double} {turn : Nat}
    {moment : Option Int} {bs : List Bonus} (h : momentBonus label full rate turn moment = .ok bs) :
    reachOf bs = 0 := by
  cases moment with
  | none =>
      obtain rfl := Except.ok.inj h
      rfl
  | some t =>
      simp only [momentBonus] at h
      split_ifs at h
      · obtain rfl := Except.ok.inj h
        rfl
      · obtain ⟨left, -, result⟩ := bind_eq_ok.mp h
        obtain rfl := pure_eq_ok.mp result
        split_ifs <;> rfl

theorem exists_addBonuses {sum : Number} {bs : List Bonus}
    (h : sum.reach + reachOf bs ≤ farthest) :
    ∃ x, addBonuses sum bs = .ok x ∧ x.reach ≤ farthest := by
  induction bs generalizing sum with
  | nil => exact ⟨sum, rfl, h⟩
  | cons b bs ih =>
      rw [reachOf_cons, ← Nat.add_assoc] at h
      obtain ⟨next, step, reach⟩ := Number.exists_add? ((Nat.le_add_right _ _).trans h)
      obtain ⟨x, rest, last⟩ := ih ((Nat.add_le_add_right reach _).trans h)
      exact ⟨x, addBonuses_cons_eq_ok.mpr ⟨next, step, rest⟩, last⟩

/-- A memory has a score if its moments have bonuses and it is not related to a crowd. -/
theorem exists_score {s : GameState} {m : Memory} {created accessed : List Bonus}
    (hcreated : momentBonus "Recent creation" 20 (.ofRatio 1 2) s.turnCount m.createdAt = .ok created)
    (haccessed : momentBonus "Recently accessed" 15 (.ofRatio 3 10) s.turnCount m.lastAccessed =
      .ok accessed) (names : m.related.length ≤ crowd) : ∃ x, m.score s = .ok x := by
  have source : (sourceBonus m).points.reach ≤ 30 := by
    change (sourcePoints m.source).natAbs ≤ 30
    rcases m.source with _ | _ | _ | _ <;> decide
  have room : 200 + 10 * crowd ≤ farthest := by decide +kernel
  have reach : (Number.int 0).reach + reachOf (sourceBonus m :: (pinBonus m ++ created ++ accessed ++
      entityBonus s m ++ emotionBonus m ++ categoryBonus m ++ contentBonus m)) ≤ farthest := by
    have pin := reachOf_pinBonus m
    have known := reachOf_entityBonus s m
    have theme := reachOf_categoryBonus m
    have content := reachOf_contentBonus m
    rw [reachOf_cons]
    simp only [reachOf_append, reachOf_momentBonus hcreated, reachOf_momentBonus haccessed,
      reachOf_emotionBonus]
    change 0 + _ ≤ _
    omega
  obtain ⟨sum, added, far⟩ := exists_addBonuses reach
  obtain ⟨y, converted⟩ := Number.exists_toDouble? far
  have clamped : ∃ x, clamp sum = .ok x := by
    simp only [clamp, converted, bind_eq_ok, pure_eq_ok]
    exact ⟨_, y, rfl, rfl⟩
  obtain ⟨x, clamped⟩ := clamped
  exact ⟨x, score_eq_ok.mpr ⟨_, sum, bonuses_eq_ok.mpr ⟨created, accessed, hcreated, haccessed, rfl⟩,
    added, clamped⟩⟩

theorem InReach.exists_score {s : GameState} {m : Memory} (h : m.InReach s) :
    ∃ x, m.score s = .ok x := by
  obtain ⟨created, hcreated⟩ := exists_momentBonus h.created
  obtain ⟨accessed, haccessed⟩ := exists_momentBonus h.accessed
  exact Memory.exists_score hcreated haccessed h.related

theorem stamp_inReach {turn : Nat} {moment : Option Int}
    (h : ∀ t, moment = some t → ((turn : Int) - t).natAbs ≤ farthest) :
    ∀ t, stamp turn moment = some t → ((turn : Int) - t).natAbs ≤ farthest := by
  intro t stamped
  rw [stamp] at stamped
  split_ifs at stamped
  · rw [← Option.some.inj stamped, Int.sub_self]
    exact Nat.zero_le _
  · exact h t stamped

theorem length_relatedEntities_le (text : String) (known : Keyed Entity) :
    (Gamebook.relatedEntities text known).length ≤ known.length := by
  simp only [Gamebook.relatedEntities, List.length_map]
  exact List.length_filter_le _ _

theorem length_related_filled_le {s : GameState} {m : Memory} (h : m.related.length ≤ crowd)
    (known : s.knownEntities.length ≤ crowd) : (m.filled s).related.length ≤ crowd := by
  by_cases missing : m.related.isEmpty = true
  · rw [Memory.related, filled_relatedEntities, if_pos missing, Option.getD_some]
    exact (length_relatedEntities_le _ _).trans known
  · rw [filled_related_of_given s missing]
    exact h

theorem InReach.filled {s : GameState} {m : Memory} (h : m.InReach s)
    (known : s.knownEntities.length ≤ crowd) : (m.filled s).InReach s where
  created := stamp_inReach h.created
  accessed := stamp_inReach h.accessed
  related := length_related_filled_le h.related known

theorem InReach.noted {s : GameState} {m : Memory} (h : m.InReach s) (noted : Option Double) :
    ({ m with importance := noted } : Memory).InReach s where
  created := h.created
  accessed := h.accessed
  related := h.related

/-- A memory that has a score can be enhanced. -/
theorem exists_enhanced {s : GameState} {m : Memory} {x : Double} (scored : m.score s = .ok x)
    (names : m.related.length ≤ crowd) (known : s.knownEntities.length ≤ crowd) :
    ∃ e, m.enhanced s = .ok e := by
  obtain ⟨bs, -, hbs, -, -⟩ := score_eq_ok.mp scored
  obtain ⟨created, accessed, hcreated, haccessed, -⟩ := bonuses_eq_ok.mp hbs
  obtain ⟨created', hcreated'⟩ := exists_momentBonus_stamp hcreated
  obtain ⟨accessed', haccessed'⟩ := exists_momentBonus_stamp haccessed
  obtain ⟨y, score⟩ : ∃ y, (m.filled s).score s = .ok y :=
    exists_score hcreated' haccessed' (length_related_filled_le names known)
  exact ⟨_, enhanced_eq_ok.mpr ⟨y, score, rfl⟩⟩

/-- A memory that was made in the present turn. -/
structure Made (s : GameState) (m : Memory) : Prop where
  created : m.createdAt = some ↑s.turnCount
  accessed : m.lastAccessed = some ↑s.turnCount
  related : m.related.length ≤ crowd

theorem Made.inReach {s : GameState} {m : Memory} (h : m.Made s) : m.InReach s where
  created t made := by
    rw [← Option.some.inj (h.created.symm.trans made), Int.sub_self]
    exact Nat.zero_le _
  accessed t made := by
    rw [← Option.some.inj (h.accessed.symm.trans made), Int.sub_self]
    exact Nat.zero_le _
  related := h.related

theorem InReach.exists_enhanced {s : GameState} {m : Memory} (h : m.InReach s)
    (known : s.knownEntities.length ≤ crowd) : ∃ e, m.enhanced s = .ok e ∧ e.InReach s := by
  obtain ⟨x, score⟩ := (h.filled known).exists_score
  exact ⟨_, enhanced_eq_ok.mpr ⟨x, score, rfl⟩, (h.filled known).noted (some x)⟩

theorem Made.exists_enhanced {s : GameState} {m : Memory} (h : m.Made s)
    (known : s.knownEntities.length ≤ crowd) : ∃ e, m.enhanced s = .ok e ∧ e.Made s := by
  obtain ⟨e, enhanced, reach⟩ := h.inReach.exists_enhanced known
  obtain ⟨x, -, rfl⟩ := enhanced_eq_ok.mp enhanced
  refine ⟨_, enhanced, ?_, ?_, reach.related⟩
  · change stamp s.turnCount m.createdAt = _
    rw [h.created, stamp, ite_self]
  · change stamp s.turnCount m.lastAccessed = _
    rw [h.accessed, stamp, ite_self]

end Memory

end Gamebook
