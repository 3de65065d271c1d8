import Mathlib
import Gamebook.Number.Double

/-!
Rounding to doubles is monotone, and it fixes every magnitude that a double can hold. Codes are
compared instead of values: a magnitude in units is never decoded where its code will do.
-/

namespace Gamebook.Double

theorem binade_eq : binade = 2 ^ 52 := by decide

theorem le_roundQuotient (num den : Nat) : num / den ≤ roundQuotient num den := by
  simp only [roundQuotient]
  split_ifs <;> omega

theorem roundQuotient_le (num den : Nat) : roundQuotient num den ≤ num / den + 1 := by
  simp only [roundQuotient]
  split_ifs <;> omega

theorem roundQuotient_mono {a b : Nat} (den : Nat) (h : a ≤ b) :
    roundQuotient a den ≤ roundQuotient b den := by
  rcases Nat.lt_or_eq_of_le (Nat.div_le_div_right (c := den) h) with below | same
  · exact (roundQuotient_le a den).trans ((Nat.succ_le_of_lt below).trans (le_roundQuotient b den))
  · have ha := Nat.div_add_mod a den
    have hb := Nat.div_add_mod b den
    rw [same] at ha
    have rest : a % den ≤ b % den := by omega
    simp only [roundQuotient, same]
    split_ifs <;> omega

theorem roundQuotient_mul (m den : Nat) (h : 0 < den) :
    roundQuotient (m * den) den = m := by
  simp only [roundQuotient, Nat.mul_div_cancel m h, Nat.mul_mod_left]
  split_ifs <;> omega

/-- The leading bits that are kept of a magnitude fill at most one binade above the first. -/
theorem leading_lt (num den : Nat) :
    num / (den <<< spareBits (num / den)) < 2 * binade := by
  rw [Nat.shiftLeft_eq, ← Nat.div_div_eq_div_mul, Nat.div_lt_iff_lt_mul (by positivity)]
  have small : num / den < 2 ^ ((num / den).log2 + 1) := Nat.lt_log2_self
  have power : 2 ^ ((num / den).log2 + 1) ≤ 2 ^ (53 + spareBits (num / den)) :=
    Nat.pow_le_pow_right (by decide) (by simp only [spareBits]; omega)
  have double : 2 ^ 53 = 2 * binade := by decide
  have split : 2 ^ (53 + spareBits (num / den)) = 2 * binade * 2 ^ spareBits (num / den) := by
    rw [Nat.pow_add, double]
  exact small.trans_le (power.trans_eq split)

/-- As soon as bits are dropped, the leading bits fill the first binade. -/
theorem binade_le_leading (num den : Nat) (h : 0 < spareBits (num / den)) :
    binade ≤ num / (den <<< spareBits (num / den)) := by
  rw [Nat.shiftLeft_eq, ← Nat.div_div_eq_div_mul, Nat.le_div_iff_mul_le (by positivity)]
  have large : num / den ≠ 0 := by
    intro zero
    simp [spareBits, zero] at h
  have power : binade * 2 ^ spareBits (num / den) = 2 ^ (num / den).log2 := by
    rw [binade_eq, ← Nat.pow_add]
    simp only [spareBits] at h ⊢
    congr 1
    omega
  rw [power]
  exact Nat.log2_self_le large

theorem spareBits_mono {a b : Nat} (h : a ≤ b) : spareBits a ≤ spareBits b := by
  simp only [spareBits, Nat.log2_eq_log_two]
  exact Nat.sub_le_sub_right (Nat.log_mono_right h) 52

theorem nearestCode_mono {a b : Nat} (den : Nat) (h : a ≤ b) :
    nearestCode a den ≤ nearestCode b den := by
  simp only [nearestCode]
  have spare := spareBits_mono (Nat.div_le_div_right (c := den) h)
  rcases Nat.lt_or_eq_of_le spare with fewer | same
  · have upper := roundQuotient_le a (den <<< spareBits (a / den))
    have bound := leading_lt a den
    have lower := le_roundQuotient b (den <<< spareBits (b / den))
    have full := binade_le_leading b den (by omega)
    have step : (spareBits (a / den) + 1) * binade ≤ spareBits (b / den) * binade :=
      Nat.mul_le_mul_right _ fewer
    rw [Nat.add_mul] at step
    omega
  · rw [same]
    exact Nat.add_le_add_left (roundQuotient_mono _ h) _

theorem units_of_lt {code : Nat} (h : code < binade) : units code = code := if_pos h

/-- Behind the first binade a code is a number of doublings with leading bits. -/
theorem units_doubled (doublings : Nat) {rest : Nat} (h : rest < binade) :
    units ((doublings + 1) * binade + rest) = (binade + rest) * 2 ^ doublings := by
  have large : ¬ (doublings + 1) * binade + rest < binade := by
    rw [Nat.add_mul]
    omega
  have positive : 0 < binade := by decide
  have quotient : ((doublings + 1) * binade + rest) / binade = doublings + 1 := by
    rw [Nat.add_comm, Nat.add_mul_div_right _ _ positive, Nat.div_eq_of_lt h, Nat.zero_add]
  have remainder : ((doublings + 1) * binade + rest) % binade = rest := by
    rw [Nat.add_comm, Nat.add_mul_mod_self_right, Nat.mod_eq_of_lt h]
  simp only [units, if_neg large, quotient, remainder, Nat.shiftLeft_eq, Nat.add_sub_cancel]

/-- A code is either its own magnitude or has doublings. -/
theorem code_cases (code : Nat) :
    code < binade ∨ ∃ doublings rest, rest < binade ∧ code = (doublings + 1) * binade + rest := by
  by_cases small : code < binade
  · exact .inl small
  · have positive : 0 < binade := by decide
    refine .inr ⟨code / binade - 1, code % binade, Nat.mod_lt _ positive, ?_⟩
    have quotient : 1 ≤ code / binade := (Nat.one_le_div_iff positive).mpr (by omega)
    rw [Nat.sub_add_cancel quotient, Nat.mul_comm]
    exact (Nat.div_add_mod code binade).symm

theorem log2_leading (doublings : Nat) {rest : Nat} (h : rest < binade) :
    ((binade + rest) * 2 ^ doublings).log2 = 52 + doublings := by
  have nonzero : (binade + rest) * 2 ^ doublings ≠ 0 :=
    Nat.mul_ne_zero (by have : 0 < binade := by decide
                        omega) (by positivity)
  have low : 2 ^ (52 + doublings) = binade * 2 ^ doublings := by
    rw [Nat.pow_add, binade_eq]
  have high : 2 ^ (52 + doublings + 1) = 2 * binade * 2 ^ doublings := by
    rw [Nat.pow_succ, low, Nat.mul_comm _ 2, Nat.mul_assoc]
  rw [Nat.log2_eq_iff nonzero, low, high]
  constructor
  · exact Nat.mul_le_mul_right _ (Nat.le_add_right _ _)
  · exact Nat.mul_lt_mul_of_pos_right (by omega) (by positivity)

/-- The magnitude of a code is rounded to that very code. -/
@[simp] theorem nearestCode_units (code : Nat) : nearestCode (units code) 1 = code := by
  rcases code_cases code with small | ⟨doublings, rest, bound, rfl⟩
  · have spare : spareBits (code / 1) = 0 := by
      rw [Nat.div_one, spareBits, Nat.sub_eq_zero_iff_le]
      by_cases zero : code = 0
      · simp [zero]
      · exact Nat.le_of_lt ((Nat.log2_lt zero).mpr (binade_eq ▸ small))
    have kept : roundQuotient (code * 1) 1 = code := roundQuotient_mul code 1 Nat.one_pos
    rw [units_of_lt small, nearestCode, spare]
    simpa only [Nat.zero_mul, Nat.zero_add, Nat.shiftLeft_zero, Nat.mul_one] using kept
  · have spare : spareBits ((binade + rest) * 2 ^ doublings / 1) = doublings := by
      rw [Nat.div_one, spareBits, log2_leading doublings bound]
      omega
    rw [units_doubled doublings bound, nearestCode, spare, Nat.one_shiftLeft,
      roundQuotient_mul _ _ (by positivity), Nat.add_mul]
    omega

theorem units_mono : Monotone units := by
  apply monotone_nat_of_le_succ
  intro code
  have positive : 0 < binade := by decide
  rcases code_cases code with small | ⟨doublings, rest, bound, rfl⟩
  · rcases Nat.lt_or_eq_of_le (Nat.succ_le_of_lt small) with within | edge
    · rw [units_of_lt small, units_of_lt within]
      exact Nat.le_succ code
    · have next : code + 1 = (0 + 1) * binade + 0 := by omega
      rw [units_of_lt small, next, units_doubled 0 positive]
      omega
  · rcases Nat.lt_or_eq_of_le (Nat.succ_le_of_lt bound) with within | edge
    · rw [Nat.add_assoc, units_doubled doublings bound, units_doubled doublings within]
      exact Nat.mul_le_mul_right _ (by omega)
    · have next : (doublings + 1) * binade + rest + 1 = (doublings + 1 + 1) * binade + 0 := by
        rw [Nat.add_mul (doublings + 1)]
        omega
      rw [units_doubled doublings bound, next, units_doubled (doublings + 1) positive,
        Nat.pow_succ, Nat.mul_comm (2 ^ doublings) 2, ← Nat.mul_assoc]
      exact Nat.mul_le_mul_right _ (by omega)

/-- A magnitude whose spare bits are zeros is kept exactly. -/
theorem units_nearestCode_of_dvd {num : Nat} (h : 2 ^ spareBits num ∣ num) :
    units (nearestCode num 1) = num := by
  obtain ⟨leading, split⟩ := h
  have quotient : num / (1 <<< spareBits (num / 1)) = leading := by
    rw [Nat.div_one, Nat.one_shiftLeft]
    exact Nat.div_eq_of_eq_mul_right (by positivity) split
  have upper := leading_lt num 1
  rw [quotient] at upper
  have product : leading * (1 <<< spareBits num) = num := by
    rw [Nat.one_shiftLeft, Nat.mul_comm]
    exact split.symm
  have kept := roundQuotient_mul leading (1 <<< spareBits num)
    (by rw [Nat.one_shiftLeft]; positivity)
  rw [product] at kept
  have code : nearestCode num 1 = spareBits num * binade + leading := by
    rw [nearestCode, Nat.div_one, kept]
  by_cases full : binade ≤ leading
  · obtain ⟨rest, rfl⟩ := Nat.exists_eq_add_of_le full
    have regroup : nearestCode num 1 = (spareBits num + 1) * binade + rest := by
      rw [code, Nat.add_mul, Nat.one_mul, Nat.add_assoc]
    rw [regroup, units_doubled _ (by omega), Nat.mul_comm]
    exact split.symm
  · have spare : spareBits num = 0 := by
      by_contra dropped
      have lower := binade_le_leading num 1
        (by rw [Nat.div_one]; exact Nat.pos_of_ne_zero dropped)
      rw [quotient] at lower
      exact full lower
    rw [spare, Nat.pow_zero, Nat.one_mul] at split
    rw [code, spare, Nat.zero_mul, Nat.zero_add, units_of_lt (by omega), split]

end Gamebook.Double
