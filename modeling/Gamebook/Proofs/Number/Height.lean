import Mathlib
import Gamebook.Proofs.Number.Rounding

/-!
Doubles that are not negative. Such a double is known by its height, its code among the
magnitudes with infinity on top. The order of such doubles is the order of heights, and a sum never
falls below its terms. Whole numbers are doubles up to `2 ^ 53`, so a sum of doubles is exact there.
-/

namespace Gamebook

namespace Double

/-- The doubles from zero to infinity, without the negative zero. -/
inductive NonNegative : Double → Prop
  | infinite : NonNegative (.infinite false)
  | finite (code : Nat) (below : code < limit) : NonNegative (.finite false code below)

/-- The place of a double among the magnitudes; infinity comes last. -/
def height : Double → Nat
  | .finite false code _ => code
  | .infinite false => limit
  | _ => 0

theorem NonNegative.height_le {x : Double} (h : NonNegative x) : x.height ≤ limit := by
  cases h with
  | infinite => exact Nat.le_refl limit
  | finite code below => exact Nat.le_of_lt below

theorem lt_iff_height {x y : Double} (hx : NonNegative x) (hy : NonNegative y) :
    x.lt y = true ↔ x.height < y.height := by
  cases hx with
  | infinite =>
      cases hy with
      | infinite => exact ⟨fun h => (nomatch h), fun h => absurd h (Nat.lt_irrefl _)⟩
      | finite code below =>
          exact ⟨fun h => (nomatch h), fun h => absurd h (Nat.lt_asymm below)⟩
  | finite code below =>
      cases hy with
      | infinite => exact ⟨fun _ => below, fun _ => rfl⟩
      | finite code' below' =>
          change decide ((code : Int) < code') = true ↔ code < code'
          rw [decide_eq_true_iff, Int.ofNat_lt]

theorem limit_pos : 0 < limit := Nat.mul_pos (by decide) (by decide)

theorem nonNegative_zero : NonNegative 0 := .finite 0 limit_pos

theorem ofQuotient_nonNegative (num den : Nat) : NonNegative (ofQuotient false num den) := by
  simp only [ofQuotient]
  split
  · exact .finite _ _
  · exact .infinite

theorem height_ofQuotient (num den : Nat) :
    (ofQuotient false num den).height = min (nearestCode num den) limit := by
  by_cases below : nearestCode num den < limit
  · rw [ofQuotient, dif_pos below]
    exact (Nat.min_eq_left (Nat.le_of_lt below)).symm
  · rw [ofQuotient, dif_neg below]
    exact (Nat.min_eq_right (Nat.not_lt.mp below)).symm

/-- A finite sum is rounded once. -/
theorem add_finite {a b : Nat} (ha : a < limit) (hb : b < limit) :
    (finite false a ha + finite false b hb : Double) = ofQuotient false (units a + units b) 1 := by
  change (if (units a : Int) + units b = 0 then signedZero false
    else ofQuotient (decide ((units a : Int) + units b < 0)) ((units a : Int) + units b).natAbs 1) = _
  have whole : (units a : Int) + units b = ((units a + units b : Nat) : Int) := rfl
  rw [whole, Int.natAbs_natCast]
  by_cases zero : units a + units b = 0
  · rw [zero]
    rfl
  · have sign : decide (((units a + units b : Nat) : Int) < 0) = false :=
      decide_eq_false (Int.not_lt.mpr (Int.natCast_nonneg _))
    rw [if_neg (by exact_mod_cast zero), sign]

theorem add_infinite {x : Double} (h : NonNegative x) :
    x + .infinite false = .infinite false := by
  cases h with
  | infinite => rfl
  | finite code below => rfl

theorem infinite_add {x : Double} (h : NonNegative x) :
    .infinite false + x = .infinite false := by
  cases h with
  | infinite => rfl
  | finite code below => rfl

theorem NonNegative.add {x y : Double} (hx : NonNegative x) (hy : NonNegative y) :
    NonNegative (x + y) := by
  cases hx with
  | infinite =>
      rw [infinite_add hy]
      exact .infinite
  | finite a ha =>
      cases hy with
      | infinite => exact .infinite
      | finite b hb =>
          rw [add_finite]
          exact ofQuotient_nonNegative _ _

theorem height_add_mono {x x' y y' : Double} (hx : NonNegative x) (hx' : NonNegative x')
    (hy : NonNegative y) (hy' : NonNegative y') (left : x.height ≤ x'.height)
    (right : y.height ≤ y'.height) : (x + y).height ≤ (x' + y').height := by
  have top := (hx.add hy).height_le
  cases hx' with
  | infinite =>
      rw [infinite_add hy']
      exact top
  | finite a' ha' =>
      cases hy' with
      | infinite => exact top
      | finite b' hb' =>
          cases hx with
          | infinite => exact absurd ha' (Nat.not_lt.mpr left)
          | finite a ha =>
              cases hy with
              | infinite => exact absurd hb' (Nat.not_lt.mpr right)
              | finite b hb =>
                  rw [add_finite, add_finite, height_ofQuotient, height_ofQuotient]
                  have sum : units a + units b ≤ units a' + units b' :=
                    Nat.add_le_add (units_mono left) (units_mono right)
                  exact min_le_min_right limit (nearestCode_mono 1 sum)

theorem height_add_zero {x : Double} (h : NonNegative x) : (x + 0).height = x.height := by
  cases h with
  | infinite => rfl
  | finite a ha =>
      change (Double.finite false a ha + Double.finite false 0 _ : Double).height = a
      rw [add_finite, height_ofQuotient, show units 0 = 0 from rfl, Nat.add_zero,
        nearestCode_units]
      exact Nat.min_eq_left (Nat.le_of_lt ha)

theorem height_le_add {x y : Double} (hx : NonNegative x) (hy : NonNegative y) :
    x.height ≤ (x + y).height := by
  have grown := height_add_mono hx hx nonNegative_zero hy le_rfl (Nat.zero_le _)
  rwa [height_add_zero hx] at grown

/-- The nearest double to a whole number that is not negative. -/
theorem ofInt_natCast (n : Nat) : ofInt n = ofQuotient false (n * unitsPerOne) 1 := by
  have sign : decide ((n : Int) < 0) = false :=
    decide_eq_false (Int.not_lt.mpr (Int.natCast_nonneg n))
  rw [ofInt, ofRatio, sign, Int.natAbs_natCast]

theorem ofInt_nonNegative (n : Nat) : NonNegative (ofInt n) := by
  rw [ofInt_natCast]
  exact ofQuotient_nonNegative _ _

theorem height_ofInt_mono {m n : Nat} (h : m ≤ n) : (ofInt m).height ≤ (ofInt n).height := by
  rw [ofInt_natCast, ofInt_natCast, height_ofQuotient, height_ofQuotient]
  exact min_le_min_right limit (nearestCode_mono 1 (Nat.mul_le_mul_right unitsPerOne h))

/-- A number of few bits loses none of them, however often it is doubled. -/
theorem pow_spareBits_dvd {n : Nat} (doublings : Nat) (h : n < 2 ^ 53) :
    2 ^ spareBits (n * 1 <<< doublings) ∣ n * 1 <<< doublings := by
  rw [Nat.one_shiftLeft]
  apply Dvd.dvd.mul_left
  apply pow_dvd_pow
  by_cases zero : n = 0
  · simp [spareBits, zero]
  · have bound : (n * 2 ^ doublings).log2 < 53 + doublings := by
      rw [Nat.log2_lt (by positivity), Nat.pow_add]
      exact Nat.mul_lt_mul_of_pos_right h (by positivity)
    simp only [spareBits]
    omega

/-- A whole number below `2 ^ 53` is a double. -/
theorem ofInt_eq_finite {n : Nat} (h : n < 2 ^ 53) :
    ∃ code below, ofInt n = .finite false code below ∧ units code = n * unitsPerOne := by
  have kept : 2 ^ spareBits (n * unitsPerOne) ∣ n * unitsPerOne := pow_spareBits_dvd 1074 h
  have below : nearestCode (n * unitsPerOne) 1 < limit := by
    have top : nearestCode (2 ^ 53 * unitsPerOne) 1 < limit := by decide +kernel
    exact (nearestCode_mono 1 (Nat.mul_le_mul_right unitsPerOne h.le)).trans_lt top
  refine ⟨_, below, ?_, units_nearestCode_of_dvd kept⟩
  rw [ofInt_natCast, ofQuotient, dif_pos below]

/-- Small whole numbers are added as doubles without rounding. -/
theorem ofInt_add {m n : Nat} (hm : m < 2 ^ 53) (hn : n < 2 ^ 53) :
    ofInt m + ofInt n = ofInt (m + n : Nat) := by
  obtain ⟨a, ha, left, sizeLeft⟩ := ofInt_eq_finite hm
  obtain ⟨b, hb, right, sizeRight⟩ := ofInt_eq_finite hn
  rw [left, right, add_finite, ofInt_natCast, sizeLeft, sizeRight, Nat.add_mul]

theorem NonNegative.add_comm {x y : Double} (hx : NonNegative x) (hy : NonNegative y) :
    x + y = y + x := by
  cases hx with
  | infinite => rw [infinite_add hy, add_infinite hy]
  | finite a ha =>
      cases hy with
      | infinite => rfl
      | finite b hb => rw [add_finite, add_finite, Nat.add_comm]

/-- The height of a hundred. -/
def fullHeight : Nat := (ofInt (100 : Nat)).height

/-- The height of a double, but at most that of a hundred. -/
def capped (x : Double) : Nat := min x.height fullHeight

theorem capped_le_height (x : Double) : x.capped ≤ x.height := Nat.min_le_left _ _

theorem capped_le_full (x : Double) : x.capped ≤ fullHeight := Nat.min_le_right _ _

theorem full_le_height_ofInt {n : Nat} (h : 100 ≤ n) : fullHeight ≤ (ofInt n).height :=
  height_ofInt_mono h

theorem capped_add_mono {x y z : Double} (hx : NonNegative x) (hy : NonNegative y)
    (hz : NonNegative z) (h : x.capped ≤ y.height) : (x + z).capped ≤ (y + z).height := by
  rcases min_le_iff.mp h with below | full
  · exact (capped_le_height _).trans (height_add_mono hx hy hz hz below le_rfl)
  · exact ((capped_le_full _).trans full).trans (height_le_add hy hz)

/-- Up to a hundred, a sum of whole numbers does not rise above the sum of the doubles. -/
theorem capped_ofInt_add (m n : Nat) :
    (ofInt (m + n : Nat)).capped ≤ (ofInt m + ofInt n).height := by
  have hm := ofInt_nonNegative m
  have hn := ofInt_nonNegative n
  rcases Nat.lt_or_ge m 100 with small | large
  · rcases Nat.lt_or_ge n 100 with small' | large'
    · rw [ofInt_add (small.trans (by decide)) (small'.trans (by decide))]
      exact capped_le_height _
    · rw [hm.add_comm hn]
      exact ((capped_le_full _).trans (full_le_height_ofInt large')).trans (height_le_add hn hm)
  · exact ((capped_le_full _).trans (full_le_height_ofInt large)).trans (height_le_add hm hn)

end Double

end Gamebook
