import Mathlib.Tactic.Linarith
import Gamebook.Proofs.Entity.Reading
import Gamebook.World.Calendar

/-!
Advancing the calendar is addition. A moment is the minute that it is, counted through years of
twelve months of thirty days; every carry moves full units from one field to the next and leaves the
count as it is. What can fail are days and months that are taken back before the first one.
-/

namespace Gamebook.GameTime

/-- Whether each field lies within its bounds. -/
structure Valid (t : GameTime) : Prop where
  month : 1 ≤ t.month ∧ t.month ≤ 12
  day : 1 ≤ t.day ∧ t.day ≤ 30
  hour : 0 ≤ t.hour ∧ t.hour ≤ 23
  minute : 0 ≤ t.minute ∧ t.minute ≤ 59

/-- The minutes up to a moment from the beginning of the year zero. -/
def toMinutes (t : GameTime) : Int :=
  (((t.year * 12 + (t.month - 1)) * 30 + (t.day - 1)) * 24 + t.hour) * 60 + t.minute

/-- The minutes that a stretch of time takes. -/
def Span.toMinutes (d : Span) : Int :=
  (((d.years * 12 + d.months) * 30 + d.days) * 24 + d.hours) * 60 + d.minutes

variable {t r : GameTime} {d : Span}

theorem field_eq_ok {name : String} {low high i j : Int} :
    field name low high i = .ok j ↔ (low ≤ i ∧ i ≤ high) ∧ i = j := by
  rw [field, Checked.within_eq_ok, Checked.require_eq_ok, Bool.and_eq_true, decide_eq_true_eq,
    decide_eq_true_eq]

/-- A moment is made exactly if it is valid. -/
theorem make_eq_ok {year month day hour minute : Int} :
    make year month day hour minute = .ok r ↔
      r = ⟨year, month, day, hour, minute⟩ ∧ r.Valid := by
  simp only [make, Checked.seq_eq_ok, Checked.map_eq_ok, field_eq_ok]
  constructor
  · rintro ⟨_, ⟨_, ⟨_, ⟨_, ⟨_, ⟨⟩, rfl⟩, _, ⟨months, rfl⟩, rfl⟩, _, ⟨days, rfl⟩, rfl⟩, _,
      ⟨hours, rfl⟩, rfl⟩, _, ⟨minutes, rfl⟩, rfl⟩
    exact ⟨rfl, months, days, hours, minutes⟩
  · rintro ⟨rfl, months, days, hours, minutes⟩
    exact ⟨_, ⟨_, ⟨_, ⟨_, ⟨_, rfl, rfl⟩, _, ⟨months, rfl⟩, rfl⟩, _, ⟨days, rfl⟩, rfl⟩, _,
      ⟨hours, rfl⟩, rfl⟩, _, ⟨minutes, rfl⟩, rfl⟩

/-! ### Carrying -/

/-- The full units that a field counted from one carries on. -/
def carried (size x : Int) : Int := if size < x then (x - 1).fdiv size else 0

/-- What a field counted from one keeps. -/
def left (size x : Int) : Int := if size < x then (x - 1).fmod size + 1 else x

theorem carried_add_left (size x : Int) : size * carried size x + left size x = x := by
  rw [carried, left]
  split_ifs
  · linarith [Int.mul_fdiv_add_fmod (x - 1) size]
  · omega

theorem left_le {size : Int} (positive : 0 < size) (x : Int) : left size x ≤ size := by
  rw [left]
  split_ifs with beyond
  · exact Int.fmod_lt_of_pos (x - 1) positive
  · exact not_lt.mp beyond

/-- What was taken back before the first unit is not carried. -/
theorem one_le_left_iff {size x : Int} (positive : 0 < size) : 1 ≤ left size x ↔ 1 ≤ x := by
  rw [left]
  split_ifs with beyond
  · have rest : 0 ≤ (x - 1).fmod size := Int.fmod_nonneg_of_pos _ positive
    constructor <;> intro <;> omega
  · exact Iff.rfl

theorem carried_nonneg {size : Int} (positive : 0 < size) (x : Int) : 0 ≤ carried size x := by
  rw [carried]
  split_ifs with beyond
  · exact Int.fdiv_nonneg (by omega) positive.le
  · exact le_rfl

/-- The hours that are reached before full days are carried. -/
def hoursReached (t : GameTime) (d : Span) : Int :=
  t.hour + (t.minute + d.minutes).fdiv 60 + d.hours

/-- The days that are reached before full months are carried. -/
def daysReached (t : GameTime) (d : Span) : Int :=
  t.day + (t.hoursReached d).fdiv 24 + d.days

/-- The months that are reached before full years are carried. -/
def monthsReached (t : GameTime) (d : Span) : Int :=
  t.month + carried 30 (t.daysReached d) + d.months

/-- The moment that is reached, be it in the calendar or not. -/
def reached (t : GameTime) (d : Span) : GameTime where
  year := t.year + carried 12 (t.monthsReached d) + d.years
  month := left 12 (t.monthsReached d)
  day := left 30 (t.daysReached d)
  hour := (t.hoursReached d).fmod 24
  minute := (t.minute + d.minutes).fmod 60

/-- No carry loses a minute. -/
theorem reached_toMinutes (t : GameTime) (d : Span) :
    (t.reached d).toMinutes = t.toMinutes + d.toMinutes := by
  have minutes := Int.mul_fdiv_add_fmod (t.minute + d.minutes) 60
  have hours := Int.mul_fdiv_add_fmod (t.hoursReached d) 24
  have days := carried_add_left 30 (t.daysReached d)
  have months := carried_add_left 12 (t.monthsReached d)
  simp only [toMinutes, Span.toMinutes, reached]
  unfold monthsReached at months ⊢
  unfold daysReached at days months ⊢
  unfold hoursReached at *
  linarith

theorem reached_valid_iff :
    (t.reached d).Valid ↔ 1 ≤ t.daysReached d ∧ 1 ≤ t.monthsReached d := by
  constructor
  · intro valid
    exact ⟨(one_le_left_iff (by decide)).mp valid.day.1,
      (one_le_left_iff (by decide)).mp valid.month.1⟩
  · rintro ⟨days, months⟩
    exact {
      month := ⟨(one_le_left_iff (by decide)).mpr months, left_le (by decide) _⟩
      day := ⟨(one_le_left_iff (by decide)).mpr days, left_le (by decide) _⟩
      hour := ⟨Int.fmod_nonneg_of_pos _ (by decide),
        Int.le_of_lt_add_one (Int.fmod_lt_of_pos _ (by decide))⟩
      minute := ⟨Int.fmod_nonneg_of_pos _ (by decide),
        Int.le_of_lt_add_one (Int.fmod_lt_of_pos _ (by decide))⟩ }

/-- Advancing gives the moment that is reached, exactly if neither days nor months are taken back
before the first one. -/
theorem advance_eq_ok :
    t.advance d = .ok r ↔ r = t.reached d ∧ 1 ≤ t.daysReached d ∧ 1 ≤ t.monthsReached d := by
  change make _ _ _ _ _ = .ok r ↔ _
  rw [make_eq_ok]
  constructor
  · rintro ⟨rfl, valid⟩
    exact ⟨rfl, reached_valid_iff.mp valid⟩
  · rintro ⟨rfl, counted⟩
    exact ⟨rfl, reached_valid_iff.mpr counted⟩

/-- Advancing a valid moment gives a valid moment, later by exactly the minutes of the stretch of
time; and it gives one whenever no unit below the year is taken back. -/
theorem advance_adds (valid : t.Valid) (d : Span) :
    (∀ r, t.advance d = .ok r → r.Valid ∧ r.toMinutes = t.toMinutes + d.toMinutes) ∧
      (0 ≤ d.months → 0 ≤ d.days → 0 ≤ d.hours → 0 ≤ d.minutes →
        ∃ r, t.advance d = .ok r) := by
  constructor
  · intro r ok
    obtain ⟨rfl, counted⟩ := advance_eq_ok.mp ok
    exact ⟨reached_valid_iff.mpr counted, reached_toMinutes t d⟩
  · intro months days hours minutes
    have minutesOver : 0 ≤ (t.minute + d.minutes).fdiv 60 :=
      Int.fdiv_nonneg (by have := valid.minute; omega) (by decide)
    have hoursOver : 0 ≤ (t.hoursReached d).fdiv 24 :=
      Int.fdiv_nonneg (by have := valid.hour; unfold hoursReached; omega) (by decide)
    have monthsOver : 0 ≤ carried 30 (t.daysReached d) := carried_nonneg (by decide) _
    refine ⟨t.reached d, advance_eq_ok.mpr ⟨rfl, ?_, ?_⟩⟩
    · have := valid.day
      unfold daysReached
      omega
    · have := valid.month
      unfold monthsReached
      omega

/-- The last minute of a year. -/
def yearsEnd : GameTime := { month := 12, day := 30, hour := 23, minute := 59 }

theorem yearsEnd_adds : yearsEnd.Valid ∧
    (∃ r, yearsEnd.advance { years := -3, minutes := 1 } = .ok r ∧ r.Valid ∧
      r.toMinutes = yearsEnd.toMinutes + Span.toMinutes { years := -3, minutes := 1 }) ∧
    ∃ r, yearsEnd.advance { days := -29, hours := 1 } = .ok r ∧ r.Valid ∧
      r.toMinutes = yearsEnd.toMinutes + Span.toMinutes { days := -29, hours := 1 } := by
  have valid : yearsEnd.Valid := by constructor <;> decide
  refine ⟨valid, ?_, ?_⟩
  · obtain ⟨r, ok⟩ := (advance_adds valid { years := -3, minutes := 1 }).2 (by decide) (by decide)
      (by decide) (by decide)
    exact ⟨r, ok, (advance_adds valid _).1 r ok⟩
  · have ok : yearsEnd.advance { days := -29, hours := 1 } =
        .ok { year := 1, month := 12, day := 2, hour := 0, minute := 59 } := rfl
    exact ⟨_, ok, (advance_adds valid _).1 _ ok⟩

end Gamebook.GameTime
