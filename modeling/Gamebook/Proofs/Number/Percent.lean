import Gamebook.Proofs.Number.Difference

/-!
Amounts between zero and a hundred. Rounding does not lead across a whole number that is a double, so a
sum of doubles stays on the side of zero or of a hundred on which the exact one is; what is cut on the
other side then lies between the two.
-/

namespace Gamebook

namespace Double

/-- The nearest double to a whole number of units; a sum that is zero has a sign of its own. -/
def rounded (sign : Bool) (sum : Int) : Double :=
  if sum = 0 then signedZero sign else ofQuotient (sum < 0) sum.natAbs 1

theorem finite_add_finite (s t : Bool) {a b : Nat} (ha : a < limit) (hb : b < limit) :
    (finite s a ha + finite t b hb : Double) =
      rounded (s && t) (signedUnits s a + signedUnits t b) := rfl

theorem signedUnits_not (s : Bool) (a : Nat) : signedUnits (!s) a = -signedUnits s a := by
  cases s <;> simp [signedUnits]

theorem signedUnits_zero (s : Bool) : signedUnits s 0 = 0 := by
  cases s <;> rfl

/-- A finite double is at most a whole number exactly if it is in units. -/
theorem finite_le_int_iff (s : Bool) (code : Nat) (below : code < limit) (i : Int) :
    (Number.float (finite s code below)).le (.int i) = true ↔ signedUnits s code ≤ i * unitsPerOne :=
  Number.le_iff_units (x := .float (finite s code below)) (y := .int i) rfl trivial

/-- What is not negative is not rounded below zero. -/
theorem zero_le_rounded (sign : Bool) {sum : Int} (low : 0 ≤ sum) :
    (Number.int 0).le (.float (rounded sign sum)) = true := by
  rw [rounded, decide_eq_false (not_lt.mpr low), ofQuotient]
  split_ifs with zero
  · rw [signedZero, Number.int_le_finite_iff, signedUnits_zero, Int.zero_mul]
  · rw [Number.int_le_finite_iff, Int.zero_mul]
    exact Int.natCast_nonneg _
  · rfl

/-- What is not above a small whole number is not rounded above it. -/
theorem rounded_le (sign : Bool) {n : Nat} {sum : Int} (small : n < 2 ^ 53)
    (high : sum ≤ n * unitsPerOne) : (Number.float (rounded sign sum)).le (.int n) = true := by
  have top : (0 : Int) ≤ n * unitsPerOne :=
    Int.mul_nonneg (Int.natCast_nonneg n) (Int.natCast_nonneg unitsPerOne)
  rw [rounded]
  split_ifs with zero
  · rw [signedZero, finite_le_int_iff, signedUnits_zero]
    exact top
  · rcases lt_or_ge sum 0 with below | above
    · rw [decide_eq_true below, ofQuotient]
      split_ifs
      · rw [finite_le_int_iff]
        have low : signedUnits true (nearestCode sum.natAbs 1) ≤ 0 := by
          rw [signedUnits, if_pos rfl]
          exact Int.neg_nonpos_of_nonneg (Int.natCast_nonneg _)
        exact low.trans top
      · rfl
    · obtain ⟨c, hc, -, worth⟩ := ofInt_eq_finite small
      have size : sum.natAbs ≤ n * unitsPerOne := by
        rw [← Int.ofNat_le, Int.natAbs_of_nonneg above, Nat.cast_mul]
        exact high
      have order : nearestCode sum.natAbs 1 ≤ c := by
        rw [← nearestCode_units c, worth]
        exact nearestCode_mono 1 size
      rw [decide_eq_false (not_lt.mpr above), ofQuotient, dif_pos (order.trans_lt hc),
        finite_le_int_iff]
      have bound : (units (nearestCode sum.natAbs 1) : Int) ≤ (n * unitsPerOne : Nat) :=
        Int.ofNat_le.mpr (worth ▸ units_mono order)
      exact bound.trans (Nat.cast_mul n unitsPerOne).le

end Double

namespace Number

variable {x y z : Number} {a b : Double}

/-- Amounts are combined as whole numbers if both are, and as doubles if both are within their range. -/
theorem combine_eq_some {whole : Int → Int → Int} {float : Double → Double → Double}
    (h : combine whole float x y = some z) :
    (∃ i j, x = .int i ∧ y = .int j ∧ z = .int (whole i j)) ∨
      ∃ a b, x.toDouble? = some a ∧ y.toDouble? = some b ∧ z = .float (float a b) := by
  rw [combine.eq_def] at h
  split at h
  · exact .inl ⟨_, _, rfl, rfl, (Option.some.inj h).symm⟩
  · obtain ⟨a, left, h⟩ := Option.bind_eq_some_iff.mp h
    obtain ⟨b, right, h⟩ := Option.bind_eq_some_iff.mp h
    exact .inr ⟨a, b, left, right, (Option.some.inj h).symm⟩

/-- Whether an amount lies between zero and a hundred. -/
structure Percent (x : Number) : Prop where
  low : (Number.int 0).le x = true
  high : x.le (.int 100) = true

instance (x : Number) : Decidable x.Percent :=
  decidable_of_iff ((Number.int 0).le x = true ∧ x.le (.int 100) = true)
    ⟨fun h => ⟨h.1, h.2⟩, fun h => ⟨h.low, h.high⟩⟩

theorem isFinite_int (i : Int) : (Number.int i).IsFinite := trivial

theorem isFinite_or (x : Number) :
    x.IsFinite ∨ x = .float .nan ∨ ∃ s, x = .float (.infinite s) := by
  cases x with
  | int i => exact .inl (isFinite_int i)
  | float x =>
    cases x with
    | nan => exact .inr (.inl rfl)
    | infinite s => exact .inr (.inr ⟨s, rfl⟩)
    | finite s c hc => exact .inl rfl

theorem Percent.isFinite (h : x.Percent) : x.IsFinite := isFinite_of_between h.low h.high

theorem percent_iff_units (finite : x.IsFinite) :
    x.Percent ↔ 0 ≤ x.units ∧ x.units ≤ (Number.int 100).units := by
  have low : (Number.int 0).le x = true ↔ 0 ≤ x.units := by
    rw [le_iff_units (isFinite_int 0) finite, units, Int.zero_mul]
  have high := le_iff_units finite (isFinite_int 100)
  exact ⟨fun h => ⟨low.mp h.low, high.mp h.high⟩, fun h => ⟨low.mpr h.1, high.mpr h.2⟩⟩

/-- What is cut off at zero lies between zero and a hundred unless it is above a hundred. -/
theorem percent_max_iff : ((Number.int 0).max x).Percent ↔ (Number.int 100).lt x = false := by
  rcases isFinite_or x with finite | rfl | ⟨s, rfl⟩
  · have positive : (Number.int 0).lt x = true ↔ 0 < x.units := by
      rw [lt_iff_units (isFinite_int 0) finite, units, Int.zero_mul]
    rw [max, ← Bool.not_eq_true, lt_iff_units (isFinite_int 100) finite, not_lt]
    by_cases above : (Number.int 0).lt x = true
    · rw [if_pos above, percent_iff_units finite]
      exact and_iff_right (positive.mp above).le
    · rw [if_neg above]
      have low := not_lt.mp (above ∘ positive.mpr)
      exact iff_of_true ⟨rfl, rfl⟩ (low.trans (Int.natCast_nonneg (100 * unitsPerOne)))
  · decide
  · cases s <;> decide

/-- What is cut off at a hundred lies between zero and a hundred unless it is below zero. -/
theorem percent_min_iff : ((Number.int 100).min x).Percent ↔ x.lt (.int 0) = false := by
  rcases isFinite_or x with finite | rfl | ⟨s, rfl⟩
  · have negative : x.lt (.int 0) = true ↔ x.units < 0 := by
      rw [lt_iff_units finite (isFinite_int 0), units, Int.zero_mul]
    have small := lt_iff_units finite (isFinite_int 100)
    rw [min, ← Bool.not_eq_true, negative, not_lt]
    by_cases below : x.lt (.int 100) = true
    · rw [if_pos below, percent_iff_units finite]
      exact and_iff_left (small.mp below).le
    · rw [if_neg below]
      have high := not_lt.mp (below ∘ small.mpr)
      have full : (0 : Int) ≤ (Number.int 100).units := Int.natCast_nonneg (100 * unitsPerOne)
      exact iff_of_true ⟨rfl, rfl⟩ (full.trans high)
  · decide
  · cases s <;> decide

theorem int_not_lt {i : Int} (h : x.le (.int i) = true) : (Number.int i).lt x = false := by
  rcases isFinite_or x with finite | rfl | ⟨s, rfl⟩
  · rw [← Bool.not_eq_true, lt_iff_units (isFinite_int i) finite]
    exact not_lt.mpr ((le_iff_units finite (isFinite_int i)).mp h)
  · rfl
  · cases s with
    | false => exact nomatch h
    | true => rfl

theorem not_lt_int {i : Int} (h : (Number.int i).le x = true) : x.lt (.int i) = false := by
  rcases isFinite_or x with finite | rfl | ⟨s, rfl⟩
  · rw [← Bool.not_eq_true, lt_iff_units finite (isFinite_int i)]
    exact not_lt.mpr ((le_iff_units (isFinite_int i) finite).mp h)
  · rfl
  · cases s with
    | false => rfl
    | true => exact nomatch h

theorem Percent.toDouble? (h : x.Percent) (double : x.toDouble? = some a) :
    ∃ s c hc, a = .finite s c hc ∧ 0 ≤ Double.signedUnits s c ∧
      Double.signedUnits s c ≤ (100 : Nat) * unitsPerOne := by
  have finite := h.isFinite
  obtain ⟨low, high⟩ := (percent_iff_units finite).mp h
  cases x with
  | int i =>
    have least := int_le_int.mp h.low
    have greatest := int_le_int.mp h.high
    obtain ⟨n, rfl⟩ := Int.eq_ofNat_of_zero_le least
    obtain ⟨c, hc, same, worth⟩ := toDouble?_small (n := n) (by omega)
    obtain rfl := Option.some.inj (double.symm.trans same)
    refine ⟨false, c, hc, rfl, Int.natCast_nonneg _, ?_⟩
    exact worth.le.trans (Int.mul_le_mul_of_nonneg_right greatest (Int.natCast_nonneg _))
  | float x =>
    obtain rfl := Option.some.inj double
    cases x with
    | nan | infinite => exact absurd finite Bool.false_ne_true
    | finite s c hc => exact ⟨s, c, hc, rfl, low, high⟩

/-- An amount that is not negative is so as a double. -/
theorem toDouble?_nonneg (h : (Number.int 0).le y = true) (double : y.toDouble? = some b) :
    b = .infinite false ∨ ∃ t c hc, b = .finite t c hc ∧ 0 ≤ Double.signedUnits t c := by
  cases y with
  | int i =>
    obtain ⟨n, rfl⟩ := Int.eq_ofNat_of_zero_le (int_le_int.mp h)
    have positive : b.NonNegative := eq_double_of_toDouble? double ▸ Double.ofInt_nonNegative n
    cases positive with
    | infinite => exact .inl rfl
    | finite c hc => exact .inr ⟨false, c, hc, rfl, Int.natCast_nonneg _⟩
  | float y =>
    obtain rfl := Option.some.inj double
    cases y with
    | nan => exact nomatch h
    | infinite s =>
      cases s with
      | false => exact .inl rfl
      | true => exact nomatch h
    | finite t c hc =>
      have low := (int_le_finite_iff 0 t c hc).mp h
      rw [Int.zero_mul] at low
      exact .inr ⟨t, c, hc, rfl, low⟩

/-- Taking off an amount that is not negative does not lead above a hundred. -/
theorem Percent.sub? (h : x.Percent) (positive : (Number.int 0).le y = true)
    (left : x.sub? y = some z) : (Number.int 100).lt z = false := by
  refine int_not_lt ?_
  rcases combine_eq_some left with ⟨i, j, rfl, rfl, rfl⟩ | ⟨a, b, before, given, rfl⟩
  · have high := int_le_int.mp h.high
    have low := int_le_int.mp positive
    exact int_le_int.mpr (by omega)
  · obtain ⟨s, c, hc, rfl, -, high⟩ := h.toDouble? before
    rcases toDouble?_nonneg positive given with rfl | ⟨t, e, he, rfl, low⟩
    · rfl
    · refine Double.rounded_le (s && !t) (n := 100) (by decide) ?_
      rw [Double.signedUnits_not]
      omega

/-- Adding an amount that is not negative does not lead below zero. -/
theorem Percent.add? (h : x.Percent) (positive : (Number.int 0).le y = true)
    (raised : x.add? y = some z) : z.lt (.int 0) = false := by
  refine not_lt_int ?_
  rcases combine_eq_some raised with ⟨i, j, rfl, rfl, rfl⟩ | ⟨a, b, before, given, rfl⟩
  · have first := int_le_int.mp h.low
    have second := int_le_int.mp positive
    exact int_le_int.mpr (by omega)
  · obtain ⟨s, c, hc, rfl, first, -⟩ := h.toDouble? before
    rcases toDouble?_nonneg positive given with rfl | ⟨t, e, he, rfl, second⟩
    · rfl
    · exact Double.zero_le_rounded (s && t) (by omega)

end Number

end Gamebook
