import Mathlib
import Gamebook.Proofs.History.Window
import Gamebook.Proofs.Number.Numeral
import Gamebook.Proofs.Number.Amount

/-!
Turns behind the window. Every turn has two entries, so the number of an entry tells its turn; the
window reckons the turns of the entries that it folds from sizes alone. A range of turns that is
written into a segment can be read back, and segments that stand for whole turns stand for twice as
many entries.
-/

namespace Gamebook

open Outcome

/-- The turn that an entry belongs to, if entries are counted from one and every turn has two. -/
def turnOf (entry : Nat) : Nat := (entry + 1) / 2

/-! ### Ranges of turns -/

section

variable {start stop turn first last : Nat}

/-- If history holds the entries behind `start`, the folded ones begin in the turn reckoned. -/
theorem coveredTurns_fst (within : start < 2 * turn) (folded : Int) :
    (coveredTurns ((2 * turn - start : Nat) : Int) folded turn).1 = turnOf (start + 1) := by
  rw [coveredTurns, turnOf]
  dsimp only
  omega

/-- They end in the turn reckoned, if they begin or end with a turn. -/
theorem coveredTurns_snd (new : start < stop) (there : stop ≤ 2 * turn)
    (whole : Even start ∨ Even stop) :
    (coveredTurns ((2 * turn - start : Nat) : Int) ((stop - start : Nat) : Int) turn).2 =
      turnOf stop := by
  rw [Nat.even_iff, Nat.even_iff] at whole
  rw [coveredTurns, turnOf]
  dsimp only
  omega

/-- The range of turns as segments write it. -/
def writtenRange (first last : Int) : String := toString first ++ "-" ++ toString last

/-- A range of numbers that are not too long is read back. -/
theorem parseTurnRange_written (first_short : first < 10 ^ Numeral.maxDigits)
    (last_short : last < 10 ^ Numeral.maxDigits) :
    parseTurnRange (writtenRange first last) = ((first : Int), (last : Int)) := by
  have plain (n : Nat) : ∀ c ∈ (toString n).toList, (c != '-') = true := fun c member =>
    bne_iff_ne.mpr (Numeral.ne_of_isDigit (Numeral.isDigit_of_mem_toString member) (by decide))
  have chars : (writtenRange first last).toList =
      (toString first).toList ++ '-' :: (toString last).toList := by
    rw [writtenRange, String.toList_append, String.toList_append, List.append_assoc]
    rfl
  have front : (writtenRange first last).toList.takeWhile (· != '-') = (toString first).toList := by
    rw [chars, List.takeWhile_append_of_pos (plain first), List.takeWhile_cons_of_neg (by decide),
      List.append_nil]
  have back : ((writtenRange first last).toList.dropWhile (· != '-')).drop 1 =
      (toString last).toList := by
    rw [chars, List.dropWhile_append_of_pos (plain first), List.dropWhile_cons_of_neg (by decide)]
    rfl
  have given : (toString last).isEmpty = false := by
    rw [Nat.toString_eq_repr]
    exact Bool.eq_false_iff.mpr fun empty => Nat.repr_ne_empty (String.isEmpty_iff.mp empty)
  rw [parseTurnRange, front, back, String.ofList_toList, String.ofList_toList, Numeral.int_toString first_short,
    Numeral.int_toString last_short]
  dsimp only
  rw [given]
  rfl

theorem originalEntries_written {segment : Segment}
    (range : segment.turnRange = writtenRange first last)
    (first_short : first < 10 ^ Numeral.maxDigits) (last_short : last < 10 ^ Numeral.maxDigits) :
    originalEntries segment = 2 * (last + 1 - first : Nat) := by
  rw [originalEntries, range, parseTurnRange_written first_short last_short]
  dsimp only
  omega

theorem compress_turnRange {entries : List Entry} {first last : Int} {limit : Nat}
    {segment : Segment} (h : compress entries first last limit = .ok segment) :
    segment.turnRange = writtenRange first last := by
  simp only [compress, bind_eq_ok, pure_eq_ok] at h
  obtain ⟨d, -, rfl⟩ := h
  rfl

end

/-! ### Segments in a row -/

variable {c : HistoryConfig} {told more : List Entry} {start stop : Nat} {segments : List Segment}
  {segment : Segment}

/-- Whether a segment stands for the entries behind `start` up to `stop`: it sums them up, and if they
begin or end with a turn, its range is that from the turn of the first to the turn of the last. -/
structure Segment.Spans (c : HistoryConfig) (told : List Entry) (start stop : Nat)
    (segment : Segment) : Prop where
  new : start < stop
  there : stop ≤ told.length
  folds : ∃ first last, compress ((told.take stop).drop start) first last c.summaryLength =
    .ok segment
  range : Even start ∨ Even stop →
    segment.turnRange = writtenRange (turnOf (start + 1)) (turnOf stop)

/-- Whether segments stand for the entries up to `stop`, one run of entries behind the other, each of
them folded when the window was all that was left of the turns so far. -/
inductive Tiles (c : HistoryConfig) (told : List Entry) : Nat → List Segment → Prop
  | none : Tiles c told 0 []
  | fold {start stop turn : Nat} {segments : List Segment} {segment : Segment}
    (before : Tiles c told start segments) (spans : segment.Spans c told start stop)
    (left : stop + c.maxActive = 2 * turn) : Tiles c told stop (segments ++ [segment])

theorem Segment.Spans.append (h : segment.Spans c told start stop) (more : List Entry) :
    segment.Spans c (told ++ more) start stop where
  new := h.new
  there := h.there.trans (by rw [List.length_append]; exact Nat.le_add_right _ _)
  folds := by
    rw [List.take_append_of_le_length h.there]
    exact h.folds
  range := h.range

theorem Tiles.append (h : Tiles c told stop segments) (more : List Entry) :
    Tiles c (told ++ more) stop segments := by
  induction h with
  | none => exact .none
  | fold before spans left ih => exact .fold ih (spans.append more) left

/-- All segments end with a turn, or all of them end within one. -/
theorem Tiles.even (h : Tiles c told start segments) (window : Even c.maxActive) : Even start := by
  cases h with
  | none => exact Even.zero
  | fold before spans left =>
    rw [Nat.even_iff] at window ⊢
    omega

/-- Segments that end with a turn stand for as many entries as they are the summaries of. -/
theorem Tiles.sum_originalEntries (h : Tiles c told stop segments) (whole : Even stop)
    (short : told.length < 10 ^ Numeral.maxDigits) :
    (segments.map originalEntries).sum = stop := by
  induction h with
  | none => rfl
  | @fold start stop turn segments segment before spans left ih =>
    have window : Even c.maxActive := by
      rw [Nat.even_iff] at whole ⊢
      omega
    have begun := before.even window
    have new := spans.new
    have there := spans.there
    have entries : originalEntries segment = 2 * (turnOf stop + 1 - turnOf (start + 1) : Nat) := by
      refine originalEntries_written (spans.range (.inl begun)) ?_ ?_
      all_goals
        simp only [turnOf]
        omega
    rw [List.map_append, List.sum_append, ih begun, List.map_singleton, List.sum_singleton, entries]
    rw [Nat.even_iff] at whole begun
    simp only [turnOf]
    omega

theorem Tiles.le_length (h : Tiles c told stop segments) : stop ≤ told.length := by
  cases h with
  | none => exact Nat.zero_le _
  | fold before spans left => exact spans.there

/-- What the window folds at the end of a turn stands behind what was folded before. -/
theorem Tiles.manageHistory {turn : Nat} {w : Windowed} (h : Tiles c told start segments)
    (whole : told.length = 2 * turn)
    (windowed : manageHistory (told.drop start) turn c = .ok w) :
    ∃ stop, w.active = told.drop stop ∧ Tiles c told stop (segments ++ w.segment.toList) := by
  have there := h.le_length
  have window := c.maxActive_le_threshold
  have size : (told.drop start).length = 2 * turn - start := by rw [List.length_drop, whole]
  by_cases short : (told.drop start).length ≤ c.threshold
  · rw [manageHistory_short short] at windowed
    obtain rfl := Except.ok.inj windowed
    refine ⟨start, rfl, ?_⟩
    rw [Option.toList_none, List.append_nil]
    exact h
  obtain ⟨active, segment, some, made⟩ := manageHistory_long (Nat.lt_of_not_le short) windowed
  dsimp only at made
  rw [List.drop_drop, size] at active
  rw [List.take_drop, size] at made
  rw [size] at short
  -- The window is all that is left, so the new segment ends where the window begins.
  obtain ⟨stop, left⟩ : ∃ stop, stop + c.maxActive = 2 * turn :=
    ⟨2 * turn - c.maxActive, by omega⟩
  have folded : 2 * turn - start - c.maxActive = stop - start := by omega
  have upTo : start + (stop - start) = stop := by omega
  rw [folded, upTo] at active made
  refine ⟨stop, active, ?_⟩
  rw [some, Option.toList_some]
  refine .fold h ⟨by omega, by omega, ⟨_, _, made⟩, fun even => ?_⟩ left
  rw [compress_turnRange made, coveredTurns_fst (by omega), coveredTurns_snd (by omega) (by omega) even]

theorem foldl_originalEntries (segments : List Segment) (start : Int) :
    segments.foldl (fun n segment => n + originalEntries segment) start =
      start + (segments.map originalEntries).sum := by
  induction segments generalizing start with
  | nil => exact (Int.add_zero start).symm
  | cons segment segments ih =>
    rw [List.foldl_cons, ih, List.map_cons, List.sum_cons, Int.add_assoc]

/-- If segments that end with a turn stand for all entries but the active ones, the statistics count
every entry. -/
theorem Tiles.exists_historyStats (h : Tiles c told stop segments) (whole : Even stop)
    (short : told.length ≤ farthest) :
    ∃ stats, historyStats (told.drop stop) segments = .ok stats ∧
      stats.totalOriginal = told.length := by
  have there := h.le_length
  have room : farthest < 10 ^ Numeral.maxDigits := by decide +kernel
  have total : ((told.drop stop).length : Int) +
      segments.foldl (fun n segment => n + originalEntries segment) 0 = told.length := by
    rw [foldl_originalEntries, h.sum_originalEntries whole (short.trans_lt room), List.length_drop]
    omega
  obtain ⟨count, converted⟩ := Number.exists_toDouble? (x := .int told.length) short
  simp only [historyStats, total, bind_eq_ok, pure_eq_ok, ofArithmetic_eq_ok]
  exact ⟨_, ⟨count, converted, rfl⟩, rfl⟩

end Gamebook
