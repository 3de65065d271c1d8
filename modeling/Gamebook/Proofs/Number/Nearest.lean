import Gamebook.Proofs.Number.Units

/-!
Nearest doubles and exact values. A double lies on the same side of a decimal as of the double nearest
to it, unless it is that double. So reading a decimal as a double changes no comparison with another
double.
-/

namespace Gamebook

namespace Double

variable {num den a : Nat} {d : Decimal}

/-! ### Quotients -/

theorem roundQuotient_scale (num den : Nat) {k : Nat} (pos : 0 < k) :
    roundQuotient (num * k) (den * k) = roundQuotient num den := by
  have less (m n : Nat) : 2 * (m * k) < n * k ↔ 2 * m < n := by
    rw [← Nat.mul_assoc]
    exact Nat.mul_lt_mul_right pos
  have more (m n : Nat) : n * k < 2 * (m * k) ↔ n < 2 * m := by
    rw [← Nat.mul_assoc]
    exact Nat.mul_lt_mul_right pos
  simp only [roundQuotient, Nat.mul_div_mul_right _ _ pos, Nat.mul_mod_mul_right, less, more]

/-- The nearest code depends on the value of a quotient only. -/
theorem nearestCode_scale (pos : 0 < den) : nearestCode (num * den) den = nearestCode num 1 := by
  have shift (spare : Nat) : den <<< spare = 1 <<< spare * den := by
    rw [Nat.shiftLeft_eq, Nat.one_shiftLeft, Nat.mul_comm]
  rw [nearestCode, nearestCode, Nat.mul_div_cancel num pos, Nat.div_one, shift,
    roundQuotient_scale _ _ pos]

/-- A code is below the nearest code of a quotient exactly if it is worth less. -/
theorem lt_nearestCode_iff (pos : 0 < den) (apart : a ≠ nearestCode num den) :
    a < nearestCode num den ↔ units a * den < num := by
  have own : nearestCode (units a * den) den = a := by
    rw [nearestCode_scale pos, nearestCode_units]
  constructor
  · intro below
    by_contra large
    have above := nearestCode_mono den (Nat.not_lt.mp large)
    omega
  · intro small
    have above := nearestCode_mono den small.le
    omega

/-! ### Decimals -/

def Decimal.value (d : Decimal) : ℚ := d.digits * 10 ^ d.exponent

theorem Decimal.value_nonneg (d : Decimal) : 0 ≤ d.value := by
  rw [value]
  positivity

/-- Ten to a power without its sign multiplies and divides. -/
theorem Decimal.quotient_spec (d : Decimal) :
    0 < d.quotient.2 ∧ (d.quotient.1 : ℚ) = d.value * unitsPerOne * d.quotient.2 := by
  have power : (tenTo d.exponent : ℚ) = 10 ^ d.exponent.natAbs := by
    rw [tenTo, Nat.pow_eq, Nat.cast_pow, Nat.cast_ofNat]
  have nonzero : (10 : ℚ) ^ d.exponent.natAbs ≠ 0 := by positivity
  rw [quotient, value]
  split_ifs with negative
  · refine ⟨by simp [tenTo], ?_⟩
    have split : d.exponent = -(d.exponent.natAbs : Int) := by omega
    rw [Nat.cast_mul, power]
    conv_rhs => rw [split, zpow_neg, zpow_natCast, Int.natAbs_neg, Int.natAbs_natCast]
    field_simp
  · refine ⟨Nat.one_pos, ?_⟩
    have split : d.exponent = (d.exponent.natAbs : Int) := by omega
    rw [Nat.cast_mul, Nat.cast_mul, power, Nat.cast_one, mul_one]
    conv_rhs => rw [split, zpow_natCast]

/-- The number of digits of a decimal and its exponent tell its magnitude. -/
theorem Decimal.value_bounds (nonzero : d.digits ≠ 0) :
    (10 : ℚ) ^ ((digitChars d.digits).length + d.exponent - 1) ≤ d.value ∧
      d.value < 10 ^ ((digitChars d.digits).length + d.exponent) := by
  have some : 0 < (digitChars d.digits).length := Nat.length_toDigits_pos
  have scale : (0 : ℚ) < 10 ^ d.exponent := by positivity
  have high : d.digits < 10 ^ (digitChars d.digits).length :=
    (Nat.length_toDigits_le_iff (by decide) some).mp le_rfl
  have low : 10 ^ ((digitChars d.digits).length - 1) ≤ d.digits := by
    by_contra small
    rcases Nat.eq_zero_or_pos ((digitChars d.digits).length - 1) with single | several
    · rw [single, pow_zero] at small
      omega
    · have fewer := (Nat.length_toDigits_le_iff (b := 10) (by decide) several).mpr (not_le.mp small)
      change (digitChars d.digits).length ≤ _ at fewer
      omega
  rw [value]
  constructor
  · have split : ((digitChars d.digits).length : Int) + d.exponent - 1 =
        ((digitChars d.digits).length - 1 : Nat) + d.exponent := by omega
    rw [split, zpow_add₀ (by norm_num), zpow_natCast]
    exact mul_le_mul_of_nonneg_right (by exact_mod_cast low) scale.le
  · rw [zpow_add₀ (by norm_num), zpow_natCast]
    exact mul_lt_mul_of_pos_right (by exact_mod_cast high) scale

theorem unitsPerOne_pos : (0 : ℚ) < unitsPerOne := Nat.cast_pos.mpr (by decide)

/-- A decimal of so many digits before the point is beyond all doubles. -/
theorem Decimal.lt_value_of_huge (nonzero : d.digits ≠ 0) (below : a < limit)
    (huge : 310 < (digitChars d.digits).length + d.exponent) :
    (units a / unitsPerOne : ℚ) < d.value := by
  have last : units (limit - 1) < 10 ^ 310 * unitsPerOne := by decide +kernel
  have top : units a < 10 ^ 310 * unitsPerOne :=
    (units_mono (Nat.le_sub_one_of_lt below)).trans_lt last
  have large : (10 : ℚ) ^ 310 ≤ d.value := by
    refine le_trans ?_ (value_bounds nonzero).1
    rw [← zpow_natCast]
    exact zpow_le_zpow_right₀ (by norm_num) (by omega)
  rw [div_lt_iff₀ unitsPerOne_pos]
  calc (units a : ℚ) < ((10 ^ 310 * unitsPerOne : Nat) : ℚ) := Nat.cast_lt.mpr top
    _ = 10 ^ 310 * unitsPerOne := by rw [Nat.cast_mul, Nat.cast_pow, Nat.cast_ofNat]
    _ ≤ d.value * unitsPerOne := mul_le_mul_of_nonneg_right large unitsPerOne_pos.le

/-- A decimal of so many zeros behind the point is below all doubles but zero. -/
theorem Decimal.value_lt_of_tiny (nonzero : d.digits ≠ 0) (some : 0 < a)
    (tiny : (digitChars d.digits).length + d.exponent < -326) :
    d.value < (units a / unitsPerOne : ℚ) := by
  have least : unitsPerOne ≤ 10 ^ 327 := by decide +kernel
  have small : d.value * 10 ^ 327 < 1 := by
    rw [← lt_div_iff₀ (by positivity), one_div, ← zpow_natCast, ← zpow_neg]
    refine (value_bounds nonzero).2.trans_le ?_
    exact zpow_le_zpow_right₀ (by norm_num) (by omega)
  rw [lt_div_iff₀ unitsPerOne_pos]
  calc d.value * unitsPerOne ≤ d.value * ((10 ^ 327 : Nat) : ℚ) :=
        mul_le_mul_of_nonneg_left (Nat.cast_le.mpr least) d.value_nonneg
    _ = d.value * 10 ^ 327 := by rw [Nat.cast_pow, Nat.cast_ofNat]
    _ < 1 := small
    _ ≤ units a := Nat.one_le_cast.mpr (units_pos some)

theorem finite_lt_finite {b : Nat} {ha : a < limit} {hb : b < limit} :
    (Double.finite false a ha).lt (.finite false b hb) = true ↔ a < b := by
  simp [lt, rank]

/-- A double that is not negative lies on the same side of a decimal as of the nearest double. -/
theorem lt_ofDecimal_iff (below : a < limit) (apart : ofDecimal false d ≠ .finite false a below) :
    (Double.finite false a below).lt (ofDecimal false d) = true ↔
      (units a / unitsPerOne : ℚ) < d.value := by
  simp only [ofDecimal] at apart ⊢
  split_ifs at apart ⊢ with zero huge tiny
  · have worth : (0 : ℚ) ≤ units a / unitsPerOne :=
      div_nonneg (Nat.cast_nonneg _) unitsPerOne_pos.le
    refine iff_of_false (fun less => Nat.not_lt_zero a (finite_lt_finite.mp less)) (not_lt.mpr ?_)
    rwa [Decimal.value, zero, Nat.cast_zero, zero_mul]
  · exact iff_of_true rfl (Decimal.lt_value_of_huge zero below huge)
  · have some : 0 < a := by
      refine Nat.pos_of_ne_zero fun none => apart ?_
      subst none
      rfl
    exact iff_of_false (fun less => Nat.not_lt_zero a (finite_lt_finite.mp less))
      (not_lt.mpr (Decimal.value_lt_of_tiny zero some tiny).le)
  · obtain ⟨positive, exact⟩ := d.quotient_spec
    have side : (units a / unitsPerOne : ℚ) < d.value ↔ units a * d.quotient.2 < d.quotient.1 := by
      have scale : (0 : ℚ) < d.quotient.2 := Nat.cast_pos.mpr positive
      rw [div_lt_iff₀ unitsPerOne_pos, ← mul_lt_mul_iff_left₀ scale, ← exact]
      exact_mod_cast Iff.rfl
    rw [ofQuotient] at apart ⊢
    rw [side]
    split_ifs at apart ⊢ with fits
    · rw [finite_lt_finite]
      refine lt_nearestCode_iff positive fun same => apart ?_
      subst same
      rfl
    · have above : a < nearestCode d.quotient.1 d.quotient.2 := below.trans_le (not_lt.mp fits)
      exact iff_of_true rfl ((lt_nearestCode_iff positive above.ne).mp above)

/-- No double that is not negative is below the nearest double to a negative decimal. -/
theorem not_lt_ofDecimal_negative {below : a < limit} :
    (Double.finite false a below).lt (ofDecimal true d) = false := by
  have low {b : Nat} {hb : b < limit} : (Double.finite false a below).lt (.finite true b hb) = false := by
    simp only [lt, rank, if_true, Bool.false_eq_true, if_false, decide_eq_false_iff_not]
    omega
  simp only [ofDecimal]
  split_ifs
  · exact low
  · rfl
  · exact low
  · rw [ofQuotient]
    split_ifs
    · exact low
    · rfl

end Double

namespace Number

variable {x z : Number} {y : Double}

def value (x : Number) : ℚ := x.units / unitsPerOne

theorem value_le_iff : x.value ≤ z.value ↔ x.units ≤ z.units := by
  rw [value, value, div_le_div_iff_of_pos_right Double.unitsPerOne_pos, Int.cast_le]

theorem value_int (i : Int) : (Number.int i).value = i := by
  rw [value, units, Int.cast_mul, Int.cast_natCast, mul_div_assoc,
    div_self Double.unitsPerOne_pos.ne', mul_one]

/-- The whole number zero compares with doubles as the double zero does. -/
theorem int_zero_compares (zero : 0 < Double.limit) (y : Double) :
    (Number.int 0).lt (.float y) = (Double.finite false 0 zero).lt y ∧
      (Number.int 0).same (.float y) = (Double.finite false 0 zero).same y := by
  cases y with
  | nan => exact ⟨rfl, rfl⟩
  | infinite s => cases s <;> exact ⟨rfl, rfl⟩
  | finite s b hb =>
    have none : (0 : Int) * unitsPerOne = Double.signedUnits false 0 := Int.zero_mul _
    constructor
    · rw [Bool.eq_iff_iff, lt, none]
      exact decide_eq_true_iff.trans ((Double.rank_lt_iff false s).symm.trans decide_eq_true_iff.symm)
    · rw [Bool.eq_iff_iff, same, none]
      exact beq_iff_eq.trans ((Double.rank_eq_iff false s).symm.trans beq_iff_eq.symm)

/-- From zero to below one an amount compares as a double does. -/
theorem exists_double (low : (Number.int 0).le x = true) (high : x.lt (.int 1) = true) :
    ∃ a below, x.value = Double.units a / unitsPerOne ∧ ∀ y,
      x.lt (.float y) = (Double.finite false a below).lt y ∧
        x.same (.float y) = (Double.finite false a below).same y := by
  have finite : x.IsFinite :=
    isFinite_of_between low (j := 1) (by rw [le, high, Bool.true_or])
  have worth : 0 ≤ x.units := by
    have above := (le_iff_units (x := .int 0) trivial finite).mp low
    rwa [units, Int.zero_mul] at above
  have zero : 0 < Double.limit := by decide
  cases x with
  | int i =>
    obtain rfl : i = 0 := by
      have below := of_decide_eq_true high
      have above := int_le_int.mp low
      omega
    refine ⟨0, zero, ?_, int_zero_compares zero⟩
    rw [value, units, Int.zero_mul, Int.cast_zero]
    exact congrArg (· / _) Nat.cast_zero.symm
  | float x =>
    cases x with
    | nan | infinite => cases finite
    | finite s a ha =>
      have plain : s = false ∨ a = 0 := by
        refine or_iff_not_imp_left.mpr fun signed => Nat.eq_zero_of_not_pos fun some => ?_
        have large := Double.units_pos some
        have below : (0 : Int) ≤ -(Double.units a : Int) := by
          simpa [units, Double.signedUnits, signed] using worth
        omega
      have own : Double.signedUnits s a = Double.units a ∧ Double.rank s a = Double.rank false a := by
        rcases plain with rfl | rfl
        · exact ⟨rfl, rfl⟩
        · cases s <;> exact ⟨rfl, rfl⟩
      refine ⟨a, ha, ?_, fun y => ?_⟩
      · rw [value, units, own.1, Int.cast_natCast]
      · cases y with
        | nan | infinite => exact ⟨rfl, rfl⟩
        | finite t b hb =>
          simp only [lt, same, Double.lt, Double.same, own.2, and_self]

/-- An amount from zero to below one is below the nearest double to a decimal exactly if it is below
the decimal, unless it is that double. -/
theorem lt_ofDecimal_iff {d : Double.Decimal} (low : (Number.int 0).le x = true)
    (high : x.lt (.int 1) = true) (negative : Bool)
    (apart : x.same (.float (.ofDecimal negative d)) = false) :
    x.lt (.float (.ofDecimal negative d)) = true ↔
      x.value < if negative then -d.value else d.value := by
  obtain ⟨a, below, worth, compares⟩ := exists_double low high
  rw [(compares _).2] at apart
  rw [(compares _).1, worth]
  cases negative with
  | true =>
    rw [Double.not_lt_ofDecimal_negative]
    have least : (0 : ℚ) ≤ Double.units a / unitsPerOne :=
      div_nonneg (Nat.cast_nonneg _) Double.unitsPerOne_pos.le
    have most := d.value_nonneg
    refine iff_of_false Bool.false_ne_true (not_lt.mpr ?_)
    rw [if_pos rfl]
    linarith
  | false =>
    refine Double.lt_ofDecimal_iff below fun same => ?_
    rw [same, Double.same, beq_self_eq_true] at apart
    cases apart

end Number

/-! ### Up to a hundred -/

namespace Double

/-- A score and one that is no lower: both are finite and between zero and a hundred. -/
structure Rises (x y : Double) : Prop where
  finite : x.isFinite = true ∧ y.isFinite = true
  low : 0 ≤ (Number.float x).value
  order : (Number.float x).value ≤ (Number.float y).value
  high : (Number.float y).value ≤ 100

/-- Up to a hundred a double is finite, and worth the units of its height. -/
theorem NonNegative.units_height {x : Double} (h : x.NonNegative) (bounded : x.height ≤ fullHeight) :
    x.isFinite = true ∧ (Number.float x).units = units x.height := by
  obtain ⟨full, below, hundred, -⟩ := ofInt_eq_finite (n := 100) (by decide)
  cases h with
  | infinite =>
    rw [fullHeight, hundred] at bounded
    exact absurd below (Nat.not_lt.mpr bounded)
  | finite code _ => exact ⟨rfl, rfl⟩

theorem units_fullHeight : units fullHeight = 100 * unitsPerOne := by
  obtain ⟨full, below, hundred, worth⟩ := ofInt_eq_finite (n := 100) (by decide)
  rw [fullHeight, hundred]
  exact worth

theorem rises_of_height_le {x y : Double} (hx : x.NonNegative) (hy : y.NonNegative)
    (order : x.height ≤ y.height) (bounded : y.height ≤ fullHeight) : Rises x y := by
  obtain ⟨finite, worth⟩ := hx.units_height (order.trans bounded)
  obtain ⟨finite', worth'⟩ := hy.units_height bounded
  have zero : (Number.int 0).value = 0 := Number.value_int 0
  have hundred : (Number.int 100).value = 100 := Number.value_int 100
  constructor
  · exact ⟨finite, finite'⟩
  · rw [← zero, Number.value_le_iff, worth, Number.units, Int.zero_mul]
    exact Int.natCast_nonneg _
  · rw [Number.value_le_iff, worth, worth', Int.ofNat_le]
    exact units_mono order
  · rw [← hundred, Number.value_le_iff, worth', Number.units]
    exact_mod_cast (units_mono bounded).trans_eq units_fullHeight

end Double

end Gamebook
