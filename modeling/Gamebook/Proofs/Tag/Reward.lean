import Gamebook.Proofs.Skill.Name
import Gamebook.Proofs.Text.Scan
import Gamebook.Tag.Journal

/-!
The experience that a reward text names. It stands in the first place of the text where digits are
followed by a word for experience, with nothing but blanks between them; no word for experience begins
with a digit or a blank, so nothing about such a place is left open.
-/

namespace Gamebook

open Text

variable {c : Char} {cs word rest digits : List Char} {ds : List Nat}

/-! ### Characters without small forms -/

namespace Text

theorem digitCodes_caseless : ∀ origin ∈ zeroCodes, ∀ d < 10,
    shiftBy (capitalRuns ((origin + d) / 256)) (origin + d) = origin + d ∧
      origin + d ≠ 'İ'.toNat := by
  decide +kernel

theorem digitAmong_isSome {code : Nat} {origins : List Nat}
    (h : (digitAmong code origins).isSome = true) :
    ∃ origin ∈ origins, ∃ d < 10, code = origin + d := by
  induction origins with
  | nil => exact nomatch h
  | cons origin origins ih =>
    rw [digitAmong] at h
    split_ifs at h with below within
    · exact nomatch h
    · exact ⟨origin, List.mem_cons_self, code - origin, by omega, by omega⟩
    · obtain ⟨other, member, found⟩ := ih h
      exact ⟨other, List.mem_cons_of_mem origin member, found⟩

/-- Digits and blanks have no small form of their own. -/
theorem smallLetter_digit (digit : isDigit c = true) : smallLetter c = c := by
  obtain ⟨origin, member, d, small, code⟩ := digitAmong_isSome digit
  obtain ⟨kept, dotted⟩ := digitCodes_caseless origin member d small
  rw [← code] at kept dotted
  have other : (c == 'İ') = false := beq_eq_false_iff_ne.mpr fun same => dotted (congrArg _ same)
  rw [smallLetter, other, kept]
  exact Char.ofNat_toNat c

theorem smallLetter_blank (blank : isBlank c = true) : smallLetter c = c := by
  obtain ⟨-, -, kept, -, dotted⟩ := blankCodes_caseless _ (mem_blankCodes blank)
  have other : (c == 'İ') = false := beq_eq_false_iff_ne.mpr fun same => dotted (congrArg _ same)
  rw [smallLetter, other, kept]
  exact Char.ofNat_toNat c

end Text

/-! ### Experience in a text -/

/-- Whether a text begins with digits and, behind blanks or at once, a word for experience. -/
def PaysAt (digits cs : List Char) : Prop :=
  digits ≠ [] ∧ (∀ c ∈ digits, isDigit c = true) ∧ ∃ blanks front rest word : List Char,
    (∀ c ∈ blanks, isBlank c = true) ∧ word ∈ Scene.experienceWords ∧ Echoes word front ∧
      cs = digits ++ (blanks ++ (front ++ rest))

theorem experienceWords_start : ∀ word ∈ Scene.experienceWords, word ≠ [] ∧
    ∀ small ∈ (word.take 1).flatMap foldForms, isDigit small = false ∧ isBlank small = false := by
  have plain : (Scene.experienceWords.all fun word => !word.isEmpty &&
      ((word.take 1).flatMap foldForms).all fun small => !isDigit small && !isBlank small) = true := by
    decide +kernel
  simpa only [List.all_eq_true, Bool.and_eq_true, Bool.not_eq_true', List.isEmpty_eq_false_iff]
    using plain

/-- No word for experience begins with a digit or a blank. -/
theorem echo_start {front : List Char} (listed : word ∈ Scene.experienceWords)
    (echoes : Echoes word front) : ∃ c later, front = c :: later ∧
      isDigit c = false ∧ isBlank c = false := by
  obtain ⟨some, forms⟩ := experienceWords_start word listed
  cases echoes with
  | nil => exact absurd rfl some
  | @cons o c word later same _ =>
    have small := forms (smallLetter c) (by simpa using List.contains_iff_mem.mp same)
    refine ⟨c, later, rfl, ?_, ?_⟩
    · refine Bool.eq_false_iff.mpr fun digit => ?_
      rw [smallLetter_digit digit, digit] at small
      exact nomatch small.1
    · refine Bool.eq_false_iff.mpr fun blank => ?_
      rw [smallLetter_blank blank, blank] at small
      exact nomatch small.2

theorem isDigit_of_isBlank (blank : isBlank c = true) : isDigit c = false := by
  have none : ∀ code ∈ blankCodes, (digitAmong code zeroCodes).isSome = false := by
    decide +kernel
  exact none c.toNat (mem_blankCodes blank)

/-- Nothing but the longest run of digits pays, with all blanks behind it. -/
theorem paysAt_iff : PaysAt digits cs ↔ digits = cs.takeWhile isDigit ∧ digits ≠ [] ∧
    (Scene.experienceWords.any fun word =>
      (afterOpeningFold? word ((cs.dropWhile isDigit).dropWhile isBlank)).isSome) = true := by
  constructor
  · rintro ⟨some, plain, blanks, front, rest, word, blank, listed, echoes, rfl⟩
    obtain ⟨c, later, rfl, digit, visible⟩ := echo_start listed echoes
    have stop : (blanks ++ (c :: later ++ rest)).takeWhile isDigit = [] ∧
        (blanks ++ (c :: later ++ rest)).dropWhile isDigit = blanks ++ (c :: later ++ rest) := by
      cases blanks with
      | nil => simp [digit]
      | cons b blanks => simp [isDigit_of_isBlank (blank b List.mem_cons_self)]
    have word_start : (blanks ++ (c :: later ++ rest)).dropWhile isBlank = c :: later ++ rest := by
      rw [List.dropWhile_append_of_pos blank, List.cons_append, List.dropWhile_cons_of_neg]
      rw [visible]
      exact Bool.false_ne_true
    refine ⟨?_, some, List.any_eq_true.mpr ⟨word, listed, ?_⟩⟩
    · rw [List.takeWhile_append_of_pos plain, stop.1, List.append_nil]
    · rw [List.dropWhile_append_of_pos plain, stop.2, word_start,
        afterOpeningFold?_eq_some.mpr ⟨_, echoes, rfl⟩]
      rfl
  · rintro ⟨rfl, some, named⟩
    obtain ⟨word, listed, found⟩ := List.any_eq_true.mp named
    obtain ⟨rest, opens⟩ := Option.isSome_iff_exists.mp found
    obtain ⟨front, echoes, split⟩ := afterOpeningFold?_eq_some.mp opens
    refine ⟨some, fun c member => List.mem_takeWhile_imp member,
      (cs.dropWhile isDigit).takeWhile isBlank, front, rest, word,
      fun c member => List.mem_takeWhile_imp member, listed, echoes, ?_⟩
    rw [← split, List.takeWhile_append_dropWhile, List.takeWhile_append_dropWhile]

theorem rewardAt?_eq_some : Scene.rewardAt? cs = some ds ↔
    ∃ digits, PaysAt digits cs ∧ digits.filterMap digitValue? = ds := by
  have empty (digits : List Char) (plain : ∀ c ∈ digits, isDigit c = true) :
      (digits.filterMap digitValue?).isEmpty = digits.isEmpty := by
    cases digits with
    | nil => rfl
    | cons c digits =>
      obtain ⟨d, value⟩ := Option.isSome_iff_exists.mp (plain c List.mem_cons_self)
      rw [List.filterMap_cons, value]
      rfl
  rw [Scene.rewardAt?, empty _ fun c member => List.mem_takeWhile_imp member]
  constructor
  · intro h
    split_ifs at h with pays
    obtain ⟨some, named⟩ := Bool.and_eq_true_iff.mp pays
    refine ⟨_, paysAt_iff.mpr ⟨rfl, by simpa using some, named⟩, Option.some.inj h⟩
  · rintro ⟨digits, pays, rfl⟩
    obtain ⟨rfl, some, named⟩ := paysAt_iff.mp pays
    rw [named, if_pos (by simpa using some)]

/-- The experience of a text is what its first place that names any names. -/
theorem rewardDigits?_eq_some : Scene.rewardDigits? cs = some ds ↔
    ∃ before after digits, cs = before ++ after ∧ PaysAt digits after ∧
      digits.filterMap digitValue? = ds ∧
      ∀ sooner later others, cs = sooner ++ later → PaysAt others later →
        before.length ≤ sooner.length := by
  induction cs with
  | nil =>
    refine iff_of_false nofun ?_
    rintro ⟨before, after, digits, split, ⟨some, -, blanks, front, rest, word, -, -, -, rfl⟩, -⟩
    have none := (List.append_eq_nil_iff.mp split.symm).2
    exact some (List.append_eq_nil_iff.mp none).1
  | cons c cs ih =>
    rw [Scene.rewardDigits?]
    split
    · rename_i found here
      constructor
      · intro same
        obtain ⟨digits, pays, value⟩ := rewardAt?_eq_some.mp (here.trans same)
        exact ⟨[], c :: cs, digits, rfl, pays, value, fun _ _ _ _ _ => Nat.zero_le _⟩
      · rintro ⟨before, after, digits, split, pays, value, first⟩
        obtain ⟨others, sooner, -⟩ := rewardAt?_eq_some.mp here
        have none : before = [] := List.eq_nil_of_length_eq_zero
          (Nat.le_zero.mp (first [] (c :: cs) others rfl sooner))
        rw [none, List.nil_append] at split
        rw [← here, split]
        exact rewardAt?_eq_some.mpr ⟨digits, pays, value⟩
    · rename_i absent
      have never : ∀ others, ¬PaysAt others (c :: cs) := fun others pays =>
        nomatch absent.symm.trans (rewardAt?_eq_some.mpr ⟨others, pays, rfl⟩)
      rw [ih]
      constructor
      · rintro ⟨before, after, digits, rfl, pays, value, first⟩
        refine ⟨c :: before, after, digits, rfl, pays, value, fun sooner later others split paid => ?_⟩
        cases sooner with
        | nil => exact absurd (split ▸ paid) (never others)
        | cons _ sooner =>
          exact Nat.succ_le_succ (first sooner later others (List.cons.inj split).2 paid)
      · rintro ⟨before, after, digits, split, pays, value, first⟩
        cases before with
        | nil => exact absurd (split ▸ pays) (never digits)
        | cons b before =>
          obtain ⟨rfl, rest⟩ := List.cons.inj split
          refine ⟨before, after, digits, rest, pays, value, fun sooner later others same paid => ?_⟩
          exact Nat.le_of_succ_le_succ
            (first (c :: sooner) later others (congrArg (c :: ·) same) paid)

/-! ### Quests -/

namespace Quest

/-- The experience that the reward of a quest names, zero if it names none. -/
def promised (q : Quest) : Nat :=
  ((Scene.rewardDigits? (q.reward.getD "").toList).map Numeral.valueOf).getD 0

variable {q : Quest} {before after : List Char}

theorem promised_of_paysAt (split : (q.reward.getD "").toList = before ++ after)
    (pays : PaysAt digits after)
    (first : ∀ sooner later others, (q.reward.getD "").toList = sooner ++ later →
      PaysAt others later → before.length ≤ sooner.length) :
    q.promised = Numeral.valueOf (digits.filterMap digitValue?) := by
  rw [promised, rewardDigits?_eq_some.mpr ⟨before, after, digits, split, pays, rfl, first⟩]
  rfl

theorem promised_of_never (never : ∀ before after digits,
    (q.reward.getD "").toList = before ++ after → ¬PaysAt digits after) : q.promised = 0 := by
  rw [promised]
  cases found : Scene.rewardDigits? (q.reward.getD "").toList with
  | none => rfl
  | some ds =>
    obtain ⟨before, after, digits, split, pays, -⟩ := rewardDigits?_eq_some.mp found
    exact absurd pays (never before after digits split)

end Quest

end Gamebook
