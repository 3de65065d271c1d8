import Gamebook.Proofs.Number.Units

/-!
Amounts of any sign to which a small whole number is added up to a cap. The difference from before is
told as the nearest double to the exact one; for whole numbers, and from zero on for doubles of at most
forty-two binary places, it is told exactly.
-/

namespace Gamebook

namespace Double

variable {a b : Nat}

/-- What is worth no more than a double is not rounded beyond all doubles. -/
theorem exists_ofQuotient (negative : Bool) {num : Nat} (ha : a < limit) (small : num ≤ units a) :
    ∃ code below, ofQuotient negative num 1 = .finite negative code below := by
  have order : nearestCode num 1 ≤ a := nearestCode_units a ▸ nearestCode_mono 1 small
  exact ⟨_, order.trans_lt ha, dif_pos (order.trans_lt ha)⟩

/-- The difference of two doubles, the second other than zero, is the nearest double to the difference
of their values. -/
theorem sub_nears (s t : Bool) {ha : a < limit} {hb : b < limit} (nonzero : b ≠ 0) :
    (finite s a ha - finite t b hb : Double) =
      ofQuotient (signedUnits s a - signedUnits t b < 0)
        (signedUnits s a - signedUnits t b).natAbs 1 := by
  have opposite : signedUnits (!t) b = -signedUnits t b := by
    cases t <;> simp [signedUnits]
  change (if signedUnits s a + signedUnits (!t) b = 0 then signedZero (s && !t)
    else ofQuotient (decide (signedUnits s a + signedUnits (!t) b < 0))
      (signedUnits s a + signedUnits (!t) b).natAbs 1) = _
  rw [opposite, ← sub_eq_add_neg]
  split_ifs with equal
  · -- Equal values other than zero have one sign, so the zero that is left is the positive one.
    have sign : (s && !t) = false := by
      have worth := units_pos (Nat.pos_of_ne_zero nonzero)
      cases s <;> cases t <;> simp [signedUnits] at equal ⊢
      omega
    rw [sign, equal]
    decide +kernel
  · rfl

/-- A double to which nothing negative is added does not fall beyond the doubles. -/
theorem add_natural (s : Bool) (ha : a < limit) (hb : b < limit) :
    (finite s a ha + finite false b hb : Double).isFinite = true ∨
      (finite s a ha + finite false b hb : Double) = .infinite false := by
  cases s with
  | false =>
    rw [add_finite, ofQuotient]
    split_ifs
    · exact .inl rfl
    · exact .inr rfl
  | true =>
    have less : (-(units a : Int) + units b).natAbs ≤ units (max a b) := by
      have left := units_mono (le_max_left a b)
      have right := units_mono (le_max_right a b)
      omega
    obtain ⟨code, below, rounded⟩ := exists_ofQuotient (decide (-(units a : Int) + units b < 0))
      (max_lt ha hb) less
    left
    change (if -(units a : Int) + units b = 0 then signedZero (true && false)
      else ofQuotient (decide (-(units a : Int) + units b < 0))
        (-(units a : Int) + units b).natAbs 1).isFinite = true
    rw [rounded]
    split_ifs <;> rfl

end Double

namespace Number

variable {x : Number} {b n cap : Nat}

/-- Whether small whole numbers are added to an amount without rounding: a whole number, or a double
from zero on with no more than forty-two binary places. -/
def Plain (x : Number) : Prop :=
  (∃ i, x = .int i) ∨ x.IsFinite ∧ 0 ≤ x.units ∧ (Double.grain : Int) ∣ x.units

/-- What comes of adding to any amount up to a cap: finite amounts stay finite, and the difference is
told as the nearest double or exactly. -/
structure Cut (current reached gained : Number) : Prop where
  finite : current.IsFinite → reached.IsFinite
  nears : current.IsFinite → gained.Nears (reached.units - current.units)
  exact : current.Plain → gained.units = reached.units - current.units

/-- Nothing is added to an amount that stays. -/
theorem Cut.idle (x : Number) : Cut x x (.int 0) := by
  have none : x.units - x.units = 0 * unitsPerOne := by rw [sub_self, Int.zero_mul]
  exact ⟨id, fun _ => none.symm, fun _ => none.symm⟩

theorem sub?_float {w z : Double} (double : x.toDouble? = some w) :
    x.sub? (.float z) = some (.float (w - z)) := by
  cases x with
  | int i =>
    rw [sub?, combine, double]
    · rfl
    · intro i j _ whole
      cases whole
  | float x =>
    obtain rfl := Option.some.inj double
    rfl

/-- A whole number that is small is a double. -/
theorem toDouble?_small (small : n < 2 ^ 53) :
    ∃ code below, (Number.int n).toDouble? = some (.finite false code below) ∧
      (Double.units code : Int) = (Number.int n).units := by
  obtain ⟨code, below, whole, worth⟩ := Double.ofInt_eq_finite small
  refine ⟨code, below, ?_, by rw [worth, units, Nat.cast_mul]⟩
  rw [toDouble?, whole]
  rfl

/-- A double to which nothing negative is added is a double up to a small cap, and stays finite. -/
theorem exists_capped (x : Double) (hb : b < Double.limit) (small : cap < 2 ^ 53) :
    ∃ w, ((Number.float (x + .finite false b hb)).min (.int cap)).toDouble? = some w ∧
      (x.isFinite = true → ∃ s c hc, w = .finite s c hc ∧
        ((Number.float (x + .finite false b hb)).min (.int cap)).IsFinite ∧
        ((Number.float (x + .finite false b hb)).min (.int cap)).units =
          Double.signedUnits s c) := by
  obtain ⟨t, ht, top, worth⟩ := toDouble?_small small
  rw [min]
  split_ifs with beyond
  · exact ⟨_, top, fun _ => ⟨false, t, ht, rfl, trivial, worth.symm⟩⟩
  · refine ⟨_, rfl, fun finite => ?_⟩
    cases x with
    | nan | infinite => exact absurd finite Bool.false_ne_true
    | finite s a ha =>
      rcases Double.add_natural s ha hb with within | infinite
      · cases sum : (Double.finite s a ha + Double.finite false b hb) with
        | nan | infinite =>
          rw [sum] at within
          exact absurd within Bool.false_ne_true
        | finite u c hc => exact ⟨u, c, hc, rfl, rfl, rfl⟩
      · rw [infinite] at beyond
        exact absurd rfl beyond

/-- A small whole number added to a double, up to a small cap. -/
theorem exists_double_cut (x : Double) (nonzero : x.isZero = false) (few : n < 2 ^ 53)
    (small : cap < 2 ^ 53) :
    ∃ raised gained, (Number.float x).add? (.int n) = some raised ∧
      (raised.min (.int cap)).sub? (.float x) = some gained ∧
      (x.isFinite = true → (raised.min (.int cap)).IsFinite ∧
        gained.Nears ((raised.min (.int cap)).units - (Number.float x).units)) := by
  obtain ⟨b, hb, double, -⟩ := toDouble?_small few
  have added : (Number.float x).add? (.int n) = some (.float (x + .finite false b hb)) := by
    rw [add?, combine, double]
    · rfl
    · intro i j whole
      cases whole
  obtain ⟨w, reached, finite⟩ := exists_capped x hb small
  refine ⟨_, _, added, sub?_float reached, fun whole => ?_⟩
  obtain ⟨s, c, hc, rfl, kept, worth⟩ := finite whole
  cases x with
  | nan | infinite => exact absurd whole Bool.false_ne_true
  | finite t a ha =>
    refine ⟨kept, ?_⟩
    rw [worth]
    exact Double.sub_nears s t (by simpa [Double.isZero] using nonzero)

/-- A small whole number can be added to any amount below a small cap, and what comes of it can be set
off against the amount. -/
theorem exists_cut {current : Number} (positive : 0 < n) (few : n < 2 ^ 53) (small : cap < 2048)
    (nonzero : (∃ i, current = .int i) ∨ current.isZero = false)
    (room : (Number.int cap).le current = false) :
    ∃ raised gained, current.add? (.int n) = some raised ∧
      (raised.min (.int cap)).sub? current = some gained ∧
      Cut current (raised.min (.int cap)) gained := by
  cases current with
  | int i =>
    have below : i ≤ cap := (not_le.mp (int_le_int.not.mp (Bool.eq_false_iff.mp room))).le
    have raises := Raises.of_whole (n := n) (by omega) below
    refine ⟨.int (i + n), .int (Min.min (i + n) cap - i), rfl, ?_, ?_⟩ <;> rw [min_int]
    · rfl
    · exact ⟨fun _ => trivial, fun _ => raises.nears,
        fun _ => (raises.exact (grain_dvd_units_int i)).2⟩
  | float x =>
    have nonzero : x.isZero = false := nonzero.resolve_left (by rintro ⟨i, whole⟩; cases whole)
    obtain ⟨raised, gained, added, told, nears⟩ :=
      @exists_double_cut n cap x nonzero few (by omega)
    refine ⟨raised, gained, added, told, fun h => (nears h).1, fun h => (nears h).2, ?_⟩
    rintro (⟨i, whole⟩ | ⟨finite, low, fine⟩)
    · cases whole
    have below : (Number.float x).units ≤ cap * unitsPerOne := by
      have order := (le_iff_units (x := .int cap) trivial finite).not.mp (Bool.eq_false_iff.mp room)
      exact (not_le.mp order).le
    obtain ⟨code, within, double, -⟩ := toDouble?_small few
    obtain ⟨raised', gained', added', told', raises⟩ := exists_raises positive
      (nonNegative_of_units (x := .float x) nonzero finite low) finite below small (.inr ⟨_, double⟩)
    obtain rfl := Option.some.inj (added.symm.trans added')
    obtain rfl := Option.some.inj (told.symm.trans told')
    exact (raises.exact fine).2

end Number

end Gamebook
