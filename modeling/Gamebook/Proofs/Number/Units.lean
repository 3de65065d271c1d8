import Mathlib
import Gamebook.Number.Basic
import Gamebook.Proofs.Number.Amount

/-!
Amounts by their value in units. Finite amounts are compared as their values are; a difference of
doubles is the nearest double to the difference of the values. Below two thousand, doubles of at most
forty-two binary places, the whole numbers among them, are added and subtracted exactly.
-/

namespace Gamebook

namespace Double

variable {a b : Nat}

theorem units_strictMono : StrictMono units :=
  units_mono.strictMono_of_injective fun a b same => by
    rw [← nearestCode_units a, same, nearestCode_units]

theorem units_pos (h : 0 < a) : 0 < units a := units_strictMono h

/-- Codes with their signs are ordered as the values are. -/
theorem rank_lt_iff (s t : Bool) : rank s a < rank t b ↔ signedUnits s a < signedUnits t b := by
  have order : units a < units b ↔ a < b := units_strictMono.lt_iff_lt
  have order' : units b < units a ↔ b < a := units_strictMono.lt_iff_lt
  have low : 0 < units a ↔ 0 < a := units_strictMono.lt_iff_lt (a := 0)
  have low' : 0 < units b ↔ 0 < b := units_strictMono.lt_iff_lt (a := 0)
  cases s <;> cases t <;> simp only [rank, signedUnits, Bool.false_eq_true, if_true, if_false] <;> omega

theorem rank_eq_iff (s t : Bool) : rank s a = rank t b ↔ signedUnits s a = signedUnits t b := by
  have less := rank_lt_iff (a := a) (b := b) s t
  have more := rank_lt_iff (a := b) (b := a) t s
  omega

/-- The difference of two doubles is rounded once. -/
theorem sub_finite {ha : a < limit} {hb : b < limit} (h : b ≤ a) :
    (finite false a ha - finite false b hb : Double) = ofQuotient false (units a - units b) 1 := by
  have order := units_mono h
  have whole : (units a : Int) + -(units b : Int) = ((units a - units b : Nat) : Int) := by omega
  change (if (units a : Int) + -(units b : Int) = 0 then signedZero (false && true)
    else ofQuotient (decide ((units a : Int) + -(units b : Int) < 0))
      ((units a : Int) + -(units b : Int)).natAbs 1) = _
  rw [whole, Int.natAbs_natCast]
  by_cases zero : units a - units b = 0
  · rw [zero]
    rfl
  · rw [if_neg (by exact_mod_cast zero),
      decide_eq_false (Int.not_lt.mpr (Int.natCast_nonneg _))]

theorem nearestCode_of_ofQuotient {num den code : Nat} {below : code < limit}
    (rounded : ofQuotient false num den = .finite false code below) : nearestCode num den = code := by
  rw [ofQuotient] at rounded
  split_ifs at rounded
  exact (finite.inj rounded).2

/-- The units of the least binary place that is kept exactly. -/
def grain : Nat := 1 <<< 1032

theorem unitsPerOne_eq : unitsPerOne = 2 ^ 42 * grain := by decide

/-- A number of grains below two thousand is a double. -/
theorem ofQuotient_grains {num : Nat} (fine : grain ∣ num) (small : num < 2048 * unitsPerOne) :
    ∃ code below, ofQuotient false num 1 = .finite false code below ∧ units code = num := by
  obtain ⟨n, rfl⟩ := fine
  have few : n < 2 ^ 53 := by
    have scale : 2048 * unitsPerOne = grain * 2 ^ 53 := by decide
    exact Nat.lt_of_mul_lt_mul_left (scale ▸ small)
  have kept : 2 ^ spareBits (grain * n) ∣ grain * n := by
    rw [Nat.mul_comm]
    exact pow_spareBits_dvd 1032 few
  have below : nearestCode (grain * n) 1 < limit := by
    have top : nearestCode (2048 * unitsPerOne) 1 < limit := by decide +kernel
    exact (nearestCode_mono 1 small.le).trans_lt top
  exact ⟨_, below, by rw [ofQuotient, dif_pos below], units_nearestCode_of_dvd kept⟩

/-- Nothing from a small whole number on is rounded down below it. -/
theorem le_units_nearestCode {n num : Nat} (few : n < 2 ^ 53) (large : n * unitsPerOne ≤ num) :
    n * unitsPerOne ≤ units (nearestCode num 1) := by
  have kept : 2 ^ spareBits (n * unitsPerOne) ∣ n * unitsPerOne := pow_spareBits_dvd 1074 few
  calc n * unitsPerOne = units (nearestCode (n * unitsPerOne) 1) :=
        (units_nearestCode_of_dvd kept).symm
    _ ≤ units (nearestCode num 1) := units_mono (nearestCode_mono 1 large)

end Double

namespace Number

variable {x y z : Number}

/-- Whether an amount is neither infinite nor without a value. -/
def IsFinite : Number → Prop
  | .int _ => True
  | .float x => x.isFinite = true

/-- The value of a finite amount, in units. -/
def units : Number → Int
  | .int i => i * unitsPerOne
  | .float (.finite s code _) => Double.signedUnits s code
  | .float _ => 0

theorem lt_iff_units (hx : x.IsFinite) (hy : y.IsFinite) : x.lt y = true ↔ x.units < y.units := by
  have positive : (0 : Int) < unitsPerOne := by decide
  cases x with
  | int i =>
    cases y with
    | int j => exact decide_eq_true_iff.trans (mul_lt_mul_iff_left₀ positive).symm
    | float y =>
      cases y with
      | finite t b hb => exact decide_eq_true_iff
      | nan | infinite => exact nomatch hy
  | float x =>
    cases x with
    | nan | infinite => exact nomatch hx
    | finite s a ha =>
      cases y with
      | int j => exact decide_eq_true_iff
      | float y =>
        cases y with
        | nan | infinite => exact nomatch hy
        | finite t b hb => exact decide_eq_true_iff.trans (Double.rank_lt_iff s t)

theorem same_iff_units (hx : x.IsFinite) (hy : y.IsFinite) : x.same y = true ↔ x.units = y.units := by
  have positive : (unitsPerOne : Int) ≠ 0 := by decide
  cases x with
  | int i =>
    cases y with
    | int j => exact beq_iff_eq.trans (mul_left_inj' positive).symm
    | float y =>
      cases y with
      | finite t b hb => exact beq_iff_eq
      | nan | infinite => exact nomatch hy
  | float x =>
    cases x with
    | nan | infinite => exact nomatch hx
    | finite s a ha =>
      cases y with
      | int j => exact beq_iff_eq
      | float y =>
        cases y with
        | nan | infinite => exact nomatch hy
        | finite t b hb => exact beq_iff_eq.trans (Double.rank_eq_iff s t)

theorem le_iff_units (hx : x.IsFinite) (hy : y.IsFinite) : x.le y = true ↔ x.units ≤ y.units := by
  rw [le, Bool.or_eq_true, lt_iff_units hx hy, same_iff_units hx hy]
  exact Int.le_iff_lt_or_eq.symm

theorem int_le_int {i j : Int} : (Number.int i).le (.int j) = true ↔ i ≤ j := by
  simp only [le, lt, same, Bool.or_eq_true, decide_eq_true_eq, beq_iff_eq]
  exact Int.le_iff_lt_or_eq.symm

/-- What lies between two whole numbers is finite. -/
theorem isFinite_of_between {i j : Int} (low : (Number.int i).le x = true)
    (high : x.le (.int j) = true) : x.IsFinite := by
  cases x with
  | int k => trivial
  | float x =>
    cases x with
    | nan => exact nomatch low
    | infinite s =>
      cases s with
      | false => exact nomatch high
      | true => exact nomatch low
    | finite s a ha => rfl

theorem units_eq_zero (zero : x.isZero = true) : x.units = 0 := by
  cases x with
  | int i =>
    obtain rfl := beq_iff_eq.mp zero
    exact Int.zero_mul _
  | float x =>
    cases x with
    | nan | infinite => rfl
    | finite s a ha =>
      obtain rfl := beq_iff_eq.mp zero
      cases s <;> rfl

theorem nonzero?_eq_some {given : Option Number} :
    nonzero? given = some x ↔ given = some x ∧ x.isZero = false := by
  cases given with
  | none => exact ⟨nofun, fun h => nomatch h.1⟩
  | some y =>
    rw [nonzero?]
    split_ifs with zero
    · refine ⟨nofun, fun ⟨same, nonzero⟩ => ?_⟩
      obtain rfl := Option.some.inj same
      exact nomatch zero.symm.trans nonzero
    · refine ⟨fun same => ⟨same, ?_⟩, And.left⟩
      exact Option.some.inj same ▸ Bool.eq_false_iff.mpr zero

theorem nonzero?_int {i : Int} (pos : 0 < i) : nonzero? (some (.int i)) = some (.int i) :=
  nonzero?_eq_some.mpr ⟨rfl, by simpa [isZero] using pos.ne'⟩

/-- Without the negative zero, an amount that is worth nothing less than zero is not negative. -/
theorem nonNegative_of_units (nonzero : x.isZero = false) (finite : x.IsFinite)
    (low : 0 ≤ x.units) : x.NonNegative := by
  have positive : (0 : Int) < unitsPerOne := by decide
  cases x with
  | int i => exact nonneg_of_mul_nonneg_left low positive
  | float x =>
    cases x with
    | nan | infinite => exact nomatch finite
    | finite s a ha =>
      cases s with
      | false => exact .finite a ha
      | true =>
        have zero : a ≠ 0 := by simpa [isZero, Double.isZero] using nonzero
        have worth : (0 : Int) < Double.units a :=
          Int.natCast_pos.mpr (Double.units_pos (Nat.pos_of_ne_zero zero))
        have below : (0 : Int) ≤ -Double.units a := low
        omega

/-- Whether an amount is so many units, exactly or as the nearest double. -/
def Nears : Number → Int → Prop
  | .int i, value => i * unitsPerOne = value
  | .float x, value => x = .ofQuotient (value < 0) value.natAbs 1

/-!
### Order

Every amount that has a value has a place on the line of whole numbers of units, with an infinity at
either end, and amounts compare as their places do. So comparing is transitive, and of two amounts that
have values one is at most the other, whichever of them are doubles.
-/

/-- Whether an amount has a value. -/
def HasValue (x : Number) : Prop := x ≠ .float .nan

/-- The place of an amount that has a value. -/
def place : Number → WithBot (WithTop ℤ)
  | .float (.infinite true) => ⊥
  | .float (.infinite false) => (⊤ : WithTop ℤ)
  | x => (x.units : WithTop ℤ)

theorem place_of_isFinite (h : x.IsFinite) : x.place = ((x.units : WithTop ℤ) : WithBot (WithTop ℤ)) := by
  cases x with
  | int i => rfl
  | float x =>
    cases x with
    | finite s a ha => rfl
    | nan | infinite => exact nomatch h

theorem isFinite_or_infinite (h : x.HasValue) : x.IsFinite ∨ ∃ s, x = .float (.infinite s) := by
  cases x with
  | int i => exact .inl trivial
  | float x =>
    cases x with
    | nan => exact absurd rfl h
    | infinite s => exact .inr ⟨s, rfl⟩
    | finite s a ha => exact .inl rfl

theorem infinite_lt (h : y.IsFinite) (s : Bool) :
    (Number.float (.infinite s)).lt y = s ∧ (Number.float (.infinite s)).same y = false := by
  cases y with
  | int j => exact ⟨rfl, rfl⟩
  | float y =>
    cases y with
    | finite t b hb => exact ⟨rfl, rfl⟩
    | nan | infinite => exact nomatch h

theorem lt_infinite (h : x.IsFinite) (s : Bool) :
    x.lt (.float (.infinite s)) = !s ∧ x.same (.float (.infinite s)) = false := by
  cases x with
  | int i => exact ⟨rfl, rfl⟩
  | float x =>
    cases x with
    | finite t b hb => exact ⟨rfl, rfl⟩
    | nan | infinite => exact nomatch h

theorem lt_iff_place (hx : x.HasValue) (hy : y.HasValue) : x.lt y = true ↔ x.place < y.place := by
  rcases isFinite_or_infinite hx with fx | ⟨s, rfl⟩ <;>
    rcases isFinite_or_infinite hy with fy | ⟨t, rfl⟩
  · rw [lt_iff_units fx fy, place_of_isFinite fx, place_of_isFinite fy]
    norm_cast
  · rw [(lt_infinite fx t).1, place_of_isFinite fx]
    cases t with
    | true => simp [place]
    | false => exact iff_of_true rfl (WithBot.coe_lt_coe.mpr (WithTop.coe_lt_top _))
  · rw [(infinite_lt fy s).1, place_of_isFinite fy]
    cases s <;> simp [place]
  · cases s <;> cases t <;> simp [place, lt, Double.lt]

theorem same_iff_place (hx : x.HasValue) (hy : y.HasValue) :
    x.same y = true ↔ x.place = y.place := by
  rcases isFinite_or_infinite hx with fx | ⟨s, rfl⟩ <;>
    rcases isFinite_or_infinite hy with fy | ⟨t, rfl⟩
  · rw [same_iff_units fx fy, place_of_isFinite fx, place_of_isFinite fy]
    norm_cast
  · rw [(lt_infinite fx t).2, place_of_isFinite fx]
    cases t <;> simp [place]
  · rw [(infinite_lt fy s).2, place_of_isFinite fy]
    cases s <;> simp [place]
  · cases s <;> cases t <;> simp [place, same, Double.same]

theorem le_iff_place (hx : x.HasValue) (hy : y.HasValue) : x.le y = true ↔ x.place ≤ y.place := by
  rw [le, Bool.or_eq_true, lt_iff_place hx hy, same_iff_place hx hy]
  exact le_iff_lt_or_eq.symm

theorem same_comm (x y : Number) : x.same y = y.same x := by
  by_cases hx : x.HasValue
  · by_cases hy : y.HasValue
    · rw [Bool.eq_iff_iff, same_iff_place hx hy, same_iff_place hy hx]
      exact eq_comm
    · obtain rfl := not_not.mp hy
      cases x with
      | int i => rfl
      | float x => cases x <;> rfl
  · obtain rfl := not_not.mp hx
    cases y with
    | int j => rfl
    | float y => cases y <;> rfl

/-- Nothing compares with an amount that has no value. -/
theorem hasValue_of_le (h : x.le y = true) : x.HasValue ∧ y.HasValue := by
  constructor
  · rintro rfl
    cases y with
    | int j => exact nomatch h
    | float y => cases y <;> exact nomatch h
  · rintro rfl
    cases x with
    | int i => exact nomatch h
    | float x => cases x <;> exact nomatch h

protected theorem le_refl (h : x.HasValue) : x.le x = true := (le_iff_place h h).mpr le_rfl

protected theorem le_of_lt (h : x.lt y = true) : x.le y = true := by rw [le, h, Bool.true_or]

protected theorem le_of_not_lt (hx : x.HasValue) (hy : y.HasValue) (h : x.lt y = false) : y.le x = true := by
  rw [le_iff_place hy hx, ← not_lt, ← lt_iff_place hx hy, h]
  exact Bool.false_ne_true

protected theorem le_trans (first : x.le y = true) (second : y.le z = true) : x.le z = true := by
  obtain ⟨hx, hy⟩ := hasValue_of_le first
  have hz := (hasValue_of_le second).2
  rw [le_iff_place hx hy] at first
  rw [le_iff_place hy hz] at second
  exact (le_iff_place hx hz).mpr (first.trans second)

/-! ### Sums that are cut -/

/-- What comes of adding to an amount up to a cap: the amount reached, and the difference told. -/
structure Raises (current : Number) (cap : Nat) (reached gained : Number) : Prop where
  finite : reached.IsFinite
  grown : current.units ≤ reached.units
  within : reached.units ≤ cap * unitsPerOne
  nears : gained.Nears (reached.units - current.units)
  exact : (Double.grain : Int) ∣ current.units →
    (Double.grain : Int) ∣ reached.units ∧ gained.units = reached.units - current.units
  whole : (∃ i, current = .int i) → ∃ j, reached = .int j

variable {cap a c : Nat}

/-- The difference of two doubles, where the amount reached is worth the greater one. -/
theorem Raises.of_doubles {ha : a < Double.limit} {hc : c < Double.limit} {reached : Number}
    (finite : reached.IsFinite) (worth : reached.units = Double.units c) (grown : a ≤ c)
    (within : Double.units c ≤ cap * unitsPerOne) (small : cap < 2048)
    (fine : Double.grain ∣ Double.units a → Double.grain ∣ Double.units c) :
    Raises (.float (.finite false a ha)) cap reached
      (.float (.finite false c hc - .finite false a ha)) := by
  have order := Double.units_mono grown
  have difference : reached.units - (Double.units a : Int) =
      ((Double.units c - Double.units a : Nat) : Int) := by
    rw [worth]
    omega
  have own : (Number.float (.finite false a ha)).units = (Double.units a : Int) := rfl
  constructor
  · exact finite
  · rw [own, worth]
    exact_mod_cast order
  · rw [worth]
    exact_mod_cast within
  · rw [own, difference, Double.sub_finite grown, Nears, Int.natAbs_natCast,
      decide_eq_false (Int.not_lt.mpr (Int.natCast_nonneg _))]
  · intro divides
    rw [own] at divides ⊢
    have grains := Int.natCast_dvd_natCast.mp divides
    have top := fine grains
    have less : Double.units c - Double.units a < 2048 * unitsPerOne := by
      have scale : cap * unitsPerOne < 2048 * unitsPerOne :=
        Nat.mul_lt_mul_of_pos_right small (by decide)
      omega
    obtain ⟨code, below, rounded, kept⟩ :=
      Double.ofQuotient_grains (Nat.dvd_sub top grains) less
    rw [worth]
    refine ⟨Int.natCast_dvd_natCast.mpr top, ?_⟩
    rw [← worth, difference, Double.sub_finite grown, rounded]
    change (Double.units code : Int) = _
    rw [kept]
  · rintro ⟨i, double⟩
    cases double

/-- A double to which a whole number is added without leaving the cap behind. -/
theorem grain_dvd_sum {n : Nat} {b : Nat} {hb : b < Double.limit} (small : cap < 2048)
    (added : Double.ofInt n = .finite false b hb) (fine : Double.grain ∣ Double.units a)
    (within : Double.units (Double.nearestCode (Double.units a + Double.units b) 1) ≤
      cap * unitsPerOne) :
    Double.grain ∣ Double.units (Double.nearestCode (Double.units a + Double.units b) 1) := by
  have scale : cap * unitsPerOne < 2048 * unitsPerOne :=
    Nat.mul_lt_mul_of_pos_right small (by decide)
  have sum : Double.units a + Double.units b < 2048 * unitsPerOne := by
    by_contra large
    have far := Double.le_units_nearestCode (n := 2048) (by decide) (Nat.not_lt.mp large)
    omega
  have few : n < 2048 := by
    by_contra many
    have large : 2048 * unitsPerOne ≤ n * unitsPerOne :=
      Nat.mul_le_mul_right _ (Nat.not_lt.mp many)
    have far := Double.le_units_nearestCode (by decide) large
    rw [Double.ofInt_natCast] at added
    rw [Double.nearestCode_of_ofQuotient added] at far
    omega
  obtain ⟨code, below, whole, exact⟩ := Double.ofInt_eq_finite (n := n) (by omega)
  rw [added] at whole
  obtain ⟨-, rfl⟩ := Double.finite.inj whole
  have grains : Double.grain ∣ Double.units a + Double.units b := by
    rw [exact, Double.unitsPerOne_eq, ← Nat.mul_assoc]
    exact Nat.dvd_add fine (Nat.dvd_mul_left _ _)
  obtain ⟨code, below, rounded, kept⟩ := Double.ofQuotient_grains grains sum
  rw [Double.nearestCode_of_ofQuotient rounded, kept]
  exact grains

theorem grain_dvd_units_int (i : Int) : (Double.grain : Int) ∣ (Number.int i).units := by
  have scale : (Double.grain : Int) ∣ (unitsPerOne : Int) :=
    Int.natCast_dvd_natCast.mpr ⟨2 ^ 42, by rw [Double.unitsPerOne_eq, Nat.mul_comm]⟩
  exact Dvd.dvd.mul_left scale i

theorem min_int (i j : Int) : (Number.int i).min (.int j) = .int (Min.min i j) := by
  rw [min, lt]
  split_ifs with less
  · rw [min_eq_right (of_decide_eq_true less).le]
  · rw [min_eq_left (not_lt.mp fun less' => less (decide_eq_true less'))]

/-- Whole numbers are added up to the cap as they are. -/
theorem Raises.of_whole {i n : Int} (positive : 0 < n) (below : i ≤ cap) :
    Raises (.int i) cap (.int (Min.min (i + n) cap)) (.int (Min.min (i + n) cap - i)) := by
  have scale : (0 : Int) ≤ unitsPerOne := by decide
  constructor
  · trivial
  · exact mul_le_mul_of_nonneg_right (le_min (by omega) below) scale
  · exact mul_le_mul_of_nonneg_right (min_le_right _ _) scale
  · exact sub_mul _ _ _
  · exact fun _ => ⟨grain_dvd_units_int _, sub_mul _ _ _⟩
  · exact fun _ => ⟨_, rfl⟩

/-- A sum with a double is cut to the cap, or it is a double within it. -/
theorem Raises.of_sum {n b : Nat} {ha : a < Double.limit} {hb : b < Double.limit}
    (below : Double.units a ≤ cap * unitsPerOne) (small : cap < 2048)
    (added : Double.ofInt n = .finite false b hb) :
    ∃ gained, ((Number.float (.finite false a ha + .finite false b hb)).min (.int cap)).sub?
        (.float (.finite false a ha)) = some gained ∧
      Raises (.float (.finite false a ha)) cap
        ((Number.float (.finite false a ha + .finite false b hb)).min (.int cap)) gained := by
  have scale : Double.grain ∣ unitsPerOne := ⟨2 ^ 42, by rw [Double.unitsPerOne_eq, Nat.mul_comm]⟩
  obtain ⟨t, ht, top, worth⟩ := Double.ofInt_eq_finite (n := cap) (by omega)
  have capped : ∃ gained, (Number.int cap).sub? (.float (.finite false a ha)) = some gained ∧
      Raises (.float (.finite false a ha)) cap (.int cap) gained := by
    refine ⟨.float (.finite false t ht - .finite false a ha), ?_, ?_⟩
    · have double : (Number.int cap).toDouble? = some (.finite false t ht) := by
        rw [toDouble?, top]
        rfl
      rw [sub?, combine, double]
      · rfl
      · intro i j _ whole
        cases whole
    · have grown : a ≤ t := Double.units_strictMono.le_iff_le.mp (worth ▸ below)
      refine .of_doubles trivial ?_ grown worth.le small fun _ => worth ▸ scale.mul_left cap
      rw [worth]
      exact (Nat.cast_mul cap unitsPerOne).symm
  rw [Double.add_finite, Double.ofQuotient]
  split_ifs with fits
  · rw [min]
    split_ifs with beyond
    · exact capped
    · have within : Double.units (Double.nearestCode (Double.units a + Double.units b) 1) ≤
          cap * unitsPerOne := by
        have order : (Double.units (Double.nearestCode (Double.units a + Double.units b) 1) : Int) ≤
            cap * unitsPerOne :=
          not_lt.mp ((lt_iff_units (x := .int cap) (y := .float (.finite false _ fits)) trivial
            rfl).not.mp beyond)
        exact_mod_cast order
      have grown : a ≤ Double.nearestCode (Double.units a + Double.units b) 1 := by
        rw [← Double.nearestCode_units a]
        exact Double.nearestCode_mono 1 (by rw [Double.nearestCode_units]; omega)
      exact ⟨_, rfl, .of_doubles rfl rfl grown within small fun fine =>
        grain_dvd_sum small added fine within⟩
  · exact capped

/-- Adding a positive whole number up to a cap gives a result, unless a double is to be added to a
whole number beyond the doubles. -/
theorem exists_raises {current : Number} {n : Nat} (positive : 0 < n) (low : current.NonNegative)
    (finite : current.IsFinite) (below : current.units ≤ cap * unitsPerOne) (small : cap < 2048)
    (fits : (∃ i, current = .int i) ∨ ∃ y, (Number.int n).toDouble? = some y) :
    ∃ raised gained, current.add? (.int n) = some raised ∧
      (raised.min (.int cap)).sub? current = some gained ∧
      Raises current cap (raised.min (.int cap)) gained := by
  cases current with
  | int i =>
    refine ⟨.int (i + n), .int (Min.min (i + n) cap - i), rfl, ?_, ?_⟩ <;> rw [min_int]
    · rfl
    · have scale : (0 : Int) < unitsPerOne := by decide
      exact .of_whole (by omega) (le_of_mul_le_mul_right below scale)
  | float x =>
    obtain ⟨i, whole⟩ | ⟨y, double⟩ := fits
    · cases whole
    obtain rfl := eq_double_of_toDouble? double
    cases low with
    | infinite => cases finite
    | finite a ha =>
      cases added : Double.ofInt n with
      | nan => cases added ▸ Double.ofInt_nonNegative n
      | infinite s =>
        rw [toDouble?, added] at double
        cases double
      | finite s b hb =>
        obtain rfl : s = false := by
          cases s with
          | false => rfl
          | true => cases added ▸ Double.ofInt_nonNegative n
        have within : (Double.units a : Int) ≤ cap * unitsPerOne := below
        have within : Double.units a ≤ cap * unitsPerOne := by exact_mod_cast within
        obtain ⟨gained, told, raises⟩ := @Raises.of_sum cap a n b ha hb within small added
        refine ⟨_, gained, ?_, told, raises⟩
        rw [add?, combine, double]
        · exact congrArg (fun z => some (Number.float (.finite false a ha + z))) added
        · intro i j whole
          cases whole

end Number

end Gamebook
