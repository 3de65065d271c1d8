import Mathlib
import Gamebook.Number.Basic
import Gamebook.Proofs.Number.Height

/-!
Amounts: how they compare, which of them can be computed with, and their sums. A whole number is
compared with a double exactly, in units; so comparisons follow the order of whole numbers on one side
and the order of heights on the other. A whole number becomes a double if it is not too far from zero,
and a sum of amounts reaches no farther than its terms together.
-/

namespace Gamebook

/-! ### Order -/

namespace Number

/-- A whole number is at most a finite double exactly if it is in units. -/
theorem int_le_finite_iff (i : Int) (negative : Bool) (code : Nat) (below : code < Double.limit) :
    (Number.int i).le (.float (.finite negative code below)) = true ↔
      i * unitsPerOne ≤ Double.signedUnits negative code := by
  simp only [le, lt, same, Bool.or_eq_true, decide_eq_true_eq, beq_iff_eq]
  exact Int.le_iff_lt_or_eq.symm

theorem int_le_antitone {i j : Int} {x : Double} (h : i ≤ j)
    (fits : (Number.int j).le (.float x) = true) : (Number.int i).le (.float x) = true := by
  cases x with
  | nan => exact nomatch fits
  | infinite negative => exact fits
  | finite negative code below =>
      rw [int_le_finite_iff] at fits ⊢
      exact (Int.mul_le_mul_of_nonneg_right h (Int.natCast_nonneg _)).trans fits

/-- What is below an amount is so at every lesser height. -/
theorem float_lt_antitone {x y : Double} {bound : Number} (hx : x.NonNegative)
    (hy : y.NonNegative) (h : x.height ≤ y.height) (below : (Number.float y).lt bound = true) :
    (Number.float x).lt bound = true := by
  cases hy with
  | infinite => cases bound with
      | int i => exact nomatch below
      | float z => cases z <;> exact nomatch below
  | finite b hb =>
      cases hx with
      | infinite => exact absurd hb (Nat.not_lt.mpr h)
      | finite a ha =>
          cases bound with
          | int i =>
              have order : (Double.units b : Int) < i * unitsPerOne := of_decide_eq_true below
              have lower : (Double.units a : Int) ≤ Double.units b :=
                Int.ofNat_le.mpr (Double.units_mono h)
              exact decide_eq_true (lower.trans_lt order)
          | float z =>
              cases z with
              | nan => exact nomatch below
              | infinite negative => exact below
              | finite negative c hc =>
                  have order : (b : Int) < Double.rank negative c := of_decide_eq_true below
                  exact decide_eq_true ((Int.ofNat_le.mpr h).trans_lt order)

end Number

/-! ### Reach -/

/-- A distance from zero within the range of doubles. -/
def farthest : Nat := 2 ^ 1000

theorem Double.ofInt_isFinite {i : Int} (h : i.natAbs ≤ farthest) :
    (Double.ofInt i).isFinite = true := by
  have top : nearestCode (farthest * unitsPerOne) 1 < limit := by decide +kernel
  have below : nearestCode (i.natAbs * unitsPerOne) 1 < limit :=
    (nearestCode_mono 1 (Nat.mul_le_mul_right unitsPerOne h)).trans_lt top
  rw [ofInt, ofRatio, ofQuotient, dif_pos below]
  rfl

namespace Number

/-- How far a whole number is from zero. A double can be added to any amount that has become one. -/
def reach : Number → Nat
  | .int i => i.natAbs
  | .float _ => 0

theorem exists_toDouble? {x : Number} (h : x.reach ≤ farthest) : ∃ y, x.toDouble? = some y := by
  cases x with
  | int i => exact ⟨_, if_pos (Double.ofInt_isFinite h)⟩
  | float x => exact ⟨x, rfl⟩

theorem exists_add? {x y : Number} (h : x.reach + y.reach ≤ farthest) :
    ∃ z, x.add? y = some z ∧ z.reach ≤ x.reach + y.reach := by
  obtain ⟨a, ha⟩ := exists_toDouble? ((Nat.le_add_right _ _).trans h)
  obtain ⟨b, hb⟩ := exists_toDouble? ((Nat.le_add_left _ _).trans h)
  have rounded : (x.toDouble?.bind fun a => y.toDouble?.bind fun b =>
      some (Number.float (a + b))) = some (.float (a + b)) := by
    rw [ha, Option.bind_some, hb, Option.bind_some]
  cases x with
  | int i =>
      cases y with
      | int j => exact ⟨_, rfl, Int.natAbs_add_le i j⟩
      | float y => exact ⟨_, rounded, Nat.zero_le _⟩
  | float x => exact ⟨_, rounded, Nat.zero_le _⟩

end Number

/-!
### Sums

Sums of amounts that are not negative, term by term. Whole numbers are added without rounding, so a
sum that meets a double earlier may be rounded where another is not. Up to the height of a hundred
whole numbers are doubles, so there the two agree: `UpTo` orders amounts up to that height, adding
the same amount to both sides keeps the order, and so does adding an amount to the greater side.
-/

namespace Number

/-- The amount as a double. -/
def double : Number → Double
  | .int i => .ofInt i
  | .float x => x

/-- Whether an amount is zero or more. -/
def NonNegative : Number → Prop
  | .int i => 0 ≤ i
  | .float x => x.NonNegative

theorem NonNegative.double {x : Number} (h : x.NonNegative) : x.double.NonNegative := by
  cases x with
  | int i =>
      obtain ⟨n, rfl⟩ := Int.eq_ofNat_of_zero_le h
      exact Double.ofInt_nonNegative n
  | float x => exact h

theorem eq_double_of_toDouble? {x : Number} {y : Double} (h : x.toDouble? = some y) :
    y = x.double := by
  cases x with
  | int i =>
      simp only [toDouble?, Option.ite_none_right_eq_some, Option.some.injEq] at h
      exact h.2.symm
  | float x => exact (Option.some.inj h).symm

/-- A sum in which a double takes part is the sum of doubles. -/
theorem add?_rounded {x y z : Number} (h : x.add? y = some z)
    (mixed : ∀ i j, ¬ (x = .int i ∧ y = .int j)) : z = .float (x.double + y.double) := by
  cases x with
  | int i =>
      cases y with
      | int j => exact absurd ⟨rfl, rfl⟩ (mixed i j)
      | float y =>
          simp only [add?, combine, Option.bind_eq_bind, Option.bind_eq_some_iff] at h
          obtain ⟨a, ha, b, hb, sum⟩ := h
          rw [eq_double_of_toDouble? ha, eq_double_of_toDouble? hb] at sum
          exact (Option.some.inj sum).symm
  | float x =>
      simp only [add?, combine, Option.bind_eq_bind, Option.bind_eq_some_iff] at h
      obtain ⟨a, ha, b, hb, sum⟩ := h
      rw [eq_double_of_toDouble? ha, eq_double_of_toDouble? hb] at sum
      exact (Option.some.inj sum).symm

theorem NonNegative.add? {x y z : Number} (hx : x.NonNegative) (hy : y.NonNegative)
    (h : x.add? y = some z) : z.NonNegative := by
  by_cases whole : ∃ i j, x = .int i ∧ y = .int j
  · obtain ⟨i, j, rfl, rfl⟩ := whole
    obtain rfl := Option.some.inj h
    exact Int.add_nonneg hx hy
  · rw [add?_rounded h fun i j both => whole ⟨i, j, both⟩]
    exact hx.double.add hy.double

/-- The order of amounts up to the height of a hundred. A sum of doubles never falls behind one of
whole numbers, so a double stands on the right. -/
inductive UpTo : Number → Number → Prop
  | whole {i j : Int} : i ≤ j → UpTo (.int i) (.int j)
  | rounded {x : Number} {y : Double} : x.double.capped ≤ y.height → UpTo x (.float y)

theorem UpTo.capped_le {x y : Number} (h : UpTo x y) (hx : x.NonNegative) :
    x.double.capped ≤ y.double.height := by
  cases h with
  | whole below =>
      obtain ⟨m, rfl⟩ := Int.eq_ofNat_of_zero_le hx
      obtain ⟨n, rfl⟩ := Int.eq_ofNat_of_zero_le (Int.le_trans hx below)
      exact (Double.capped_le_height _).trans (Double.height_ofInt_mono (Int.ofNat_le.mp below))
  | rounded below => exact below

theorem capped_add?_le {x y z : Number} (hx : x.NonNegative) (hy : y.NonNegative)
    (h : x.add? y = some z) : z.double.capped ≤ (x.double + y.double).height := by
  by_cases whole : ∃ i j, x = .int i ∧ y = .int j
  · obtain ⟨i, j, rfl, rfl⟩ := whole
    obtain rfl := Option.some.inj h
    obtain ⟨m, rfl⟩ := Int.eq_ofNat_of_zero_le hx
    obtain ⟨n, rfl⟩ := Int.eq_ofNat_of_zero_le hy
    exact Double.capped_ofInt_add m n
  · rw [add?_rounded h fun i j both => whole ⟨i, j, both⟩]
    exact Double.capped_le_height _

/-- Adding the same amount on both sides keeps the order. -/
theorem UpTo.add_both {x y z x' y' : Number} (h : UpTo x y) (hx : x.NonNegative)
    (hy : y.NonNegative) (hz : z.NonNegative) (left : x.add? z = some x')
    (right : y.add? z = some y') : UpTo x' y' := by
  have grown := Double.capped_add_mono hx.double hy.double hz.double (h.capped_le hx)
  have bound : x'.double.capped ≤ (y.double + z.double).height :=
    (le_min (capped_add?_le hx hz left) (Double.capped_le_full _)).trans grown
  cases h with
  | @whole i j below =>
      cases z with
      | int k =>
          obtain rfl := Option.some.inj left
          obtain rfl := Option.some.inj right
          exact .whole (Int.add_le_add_right below k)
      | float z =>
          rw [add?_rounded right (by rintro _ _ ⟨-, float⟩; cases float)]
          exact .rounded bound
  | @rounded y below =>
      rw [add?_rounded right (by rintro _ _ ⟨float, -⟩; cases float)]
      exact .rounded bound

/-- Adding an amount to the greater side keeps the order. -/
theorem UpTo.add_right {x y z y' : Number} (h : UpTo x y) (hx : x.NonNegative)
    (hy : y.NonNegative) (hz : z.NonNegative) (right : y.add? z = some y') : UpTo x y' := by
  have bound : x.double.capped ≤ (y.double + z.double).height :=
    (h.capped_le hx).trans (Double.height_le_add hy.double hz.double)
  cases h with
  | @whole i j below =>
      cases z with
      | int k =>
          obtain rfl := Option.some.inj right
          exact .whole (le_add_of_le_of_nonneg below hz)
      | float z =>
          rw [add?_rounded right (by rintro _ _ ⟨-, float⟩; cases float)]
          exact .rounded bound
  | @rounded y below =>
      rw [add?_rounded right (by rintro _ _ ⟨float, -⟩; cases float)]
      exact .rounded bound

end Number

end Gamebook
