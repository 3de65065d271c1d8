import Mathlib.Algebra.Group.Nat.Defs
import Mathlib.Tactic.Basic
import Gamebook.Number.Numeral

/-!
Numerals that are written are read back. The digits that a whole number is written in are plain ones,
each of which is read for its distance from zero; so only the length of a numeral is in the way of its
number.
-/

namespace Gamebook.Numeral

open Gamebook.Text

variable {c : Char} {cs : List Char} {n : Nat}

/-! ### Plain digits -/

theorem code_of_isDigit (h : c.isDigit = true) : 48 ≤ c.toNat ∧ c.toNat ≤ 57 := by
  obtain ⟨low, high⟩ := Bool.and_eq_true_iff.mp h
  exact ⟨UInt32.le_iff_toNat_le.mp (of_decide_eq_true low),
    UInt32.le_iff_toNat_le.mp (of_decide_eq_true high)⟩

theorem digitValue?_of_isDigit (h : c.isDigit = true) :
    digitValue? c = some (c.toNat - '0'.toNat) := by
  obtain ⟨low, high⟩ := code_of_isDigit h
  rw [digitValue?, zeroCodes, digitAmong, if_neg (Nat.not_lt.mpr low),
    if_pos (Nat.lt_succ_of_le high)]
  rfl

/-- A digit is none of the characters with a code below those of the digits. -/
theorem ne_of_isDigit {d : Char} (h : c.isDigit = true) (below : d.toNat < 48) : c ≠ d := by
  rintro rfl
  exact absurd (code_of_isDigit h).1 (Nat.not_le.mpr below)

theorem isWhiteSpace_of_isDigit (h : c.isDigit = true) : isWhiteSpace c = false := by
  obtain ⟨low, high⟩ := code_of_isDigit h
  have blank : isBlank c = false := by
    simp only [isBlank, Bool.or_eq_false_iff, Bool.and_eq_false_iff, decide_eq_false_iff_not,
      beq_eq_false_iff_ne]
    omega
  rw [isWhiteSpace, blank, Bool.false_and]

/-! ### Reading digits -/

theorem digitsFrom_digits (digits : ∀ c ∈ cs, c.isDigit = true) (afterDigit : Bool) :
    digitsFrom afterDigit cs = (cs.map fun c => c.toNat - '0'.toNat, []) := by
  induction cs generalizing afterDigit with
  | nil => rfl
  | cons c cs ih =>
    obtain ⟨first, rest⟩ := List.forall_mem_cons.mp digits
    rw [digitsFrom, digitValue?_of_isDigit first]
    dsimp only
    rw [ih rest true, List.map_cons]

theorem trimWhiteSpace_digits (digits : ∀ c ∈ cs, c.isDigit = true) : trimWhiteSpace cs = cs := by
  have none {ds : List Char} (plain : ∀ c ∈ ds, c.isDigit = true) : ds.dropWhile isWhiteSpace = ds := by
    cases ds with
    | nil => rfl
    | cons d ds =>
      rw [List.dropWhile_cons_of_neg]
      rw [isWhiteSpace_of_isDigit (plain d List.mem_cons_self)]
      exact Bool.false_ne_true
  rw [trimWhiteSpace, none digits, none fun c member => digits c (List.mem_reverse.mp member),
    List.reverse_reverse]

theorem splitSign_digits (digits : ∀ c ∈ cs, c.isDigit = true) : splitSign cs = (false, cs) := by
  rw [splitSign.eq_def]
  split
  · exact absurd rfl (ne_of_isDigit (digits '-' List.mem_cons_self) (by decide))
  · exact absurd rfl (ne_of_isDigit (digits '+' List.mem_cons_self) (by decide))
  · rfl

theorem bareInt_digits (digits : ∀ c ∈ cs, c.isDigit = true) (some : cs ≠ [])
    (short : cs.length ≤ maxDigits) : bareInt cs = .ok (Nat.ofDigitChars 10 cs 0) := by
  have value : valueOf (cs.map fun c => c.toNat - '0'.toNat) = Nat.ofDigitChars 10 cs 0 := by
    rw [valueOf, List.foldl_map, Nat.ofDigitChars_eq_foldl]
  rw [bareInt, splitSign_digits digits]
  dsimp only
  rw [leadingDigits, digitsFrom_digits digits]
  cases cs with
  | nil => exact absurd rfl some
  | cons c cs =>
    rw [List.map_cons] at value ⊢
    dsimp only
    have fits : ¬maxDigits < cs.length + 1 := Nat.not_lt.mpr short
    rw [List.length_map, if_neg fits, value]
    rfl

/-! ### Written numbers -/

theorem isDigit_of_mem_toString (member : c ∈ (toString n).toList) : c.isDigit = true := by
  rw [Nat.toString_eq_ofList_toDigits, String.toList_ofList] at member
  exact Nat.isDigit_of_mem_toDigits (by decide) (Nat.le_refl 10) member

/-- A whole number of no more digits than a numeral may have is read back. -/
theorem int_toString (short : n < 10 ^ maxDigits) : int (toString n) = .ok n := by
  have digits : ∀ c ∈ (toString n).toList, c.isDigit = true := fun c => isDigit_of_mem_toString
  rw [int, trimWhiteSpace_digits digits]
  rw [Nat.toString_eq_ofList_toDigits, String.toList_ofList] at digits ⊢
  rw [bareInt_digits digits Nat.toDigits_ne_nil
    ((Nat.length_toDigits_le_iff (by decide) (by decide)).mpr short), Nat.ofDigitChars_ten_toDigits]

end Gamebook.Numeral
