import Mathlib.Data.List.Forall2
import Mathlib.Tactic.SplitIfs
import Gamebook.Text.Fold
import Gamebook.Text.Scan

/-!
Scanning by what stands at the front of a text. Where no occurrence begins, the first character is
passed over or kept; where one does, the scan goes on behind it. Openings are told by the characters at
the front, one by one where case is ignored, and trimming by those at the ends.
-/

namespace Gamebook.Text

variable {α : Type} {matchAt : List Char → Option (α × Nat)} {lengthAt : List Char → Option Nat}
  {replacement cs mark word rest : List Char} {c : Char} {a : α} {n : Nat}

theorem findFrom_eq (matchAt : List Char → Option (α × Nat)) (skip : Nat) (cs : List Char) :
    findFrom matchAt skip cs = findAll matchAt (cs.drop skip) := by
  induction skip generalizing cs with
  | zero => rfl
  | succ skip ih =>
    cases cs with
    | nil => rfl
    | cons c cs => exact ih cs

theorem replaceFrom_eq (lengthAt : List Char → Option Nat) (replacement : List Char) (skip : Nat)
    (cs : List Char) :
    replaceFrom lengthAt replacement skip cs = replaceAll lengthAt replacement (cs.drop skip) := by
  induction skip generalizing cs with
  | zero => rfl
  | succ skip ih =>
    cases cs with
    | nil => rfl
    | cons c cs => exact ih cs

theorem findAll_cons_of_none (absent : matchAt (c :: cs) = none) :
    findAll matchAt (c :: cs) = findAll matchAt cs := by
  rw [findAll, findFrom, absent]
  rfl

theorem replaceAll_cons_of_none (absent : lengthAt (c :: cs) = none) :
    replaceAll lengthAt replacement (c :: cs) = c :: replaceAll lengthAt replacement cs := by
  rw [replaceAll, replaceFrom, absent]
  rfl

theorem replaceAll_of_absent (absent : ∀ rest, rest <:+ cs → lengthAt rest = none) :
    replaceAll lengthAt replacement cs = cs := by
  induction cs with
  | nil => rfl
  | cons c cs ih =>
    rw [replaceAll_cons_of_none (absent _ (List.suffix_refl _)), ih fun rest behind =>
      absent rest (behind.trans (List.suffix_cons c cs))]

theorem findAll_of_some (here : matchAt cs = some (a, n + 1)) (long : n < cs.length) :
    findAll matchAt cs = a :: findAll matchAt (cs.drop (n + 1)) := by
  cases cs with
  | nil => exact absurd long (Nat.not_lt_zero n)
  | cons c cs =>
    rw [findAll, findFrom, here]
    exact congrArg (a :: ·) (findFrom_eq matchAt n cs)

/-- What is found stands at the front of an end of the text. -/
theorem exists_of_mem_findFrom {skip : Nat} (member : a ∈ findFrom matchAt skip cs) :
    ∃ rest n, rest <:+ cs ∧ matchAt rest = some (a, n) := by
  induction cs generalizing skip with
  | nil => exact absurd member (by simp [findFrom])
  | cons c cs ih =>
    have later {skip : Nat} (member : a ∈ findFrom matchAt skip cs) :
        ∃ rest n, rest <:+ c :: cs ∧ matchAt rest = some (a, n) := by
      obtain ⟨rest, n, behind, found⟩ := ih member
      exact ⟨rest, n, behind.trans (List.suffix_cons c cs), found⟩
    cases skip with
    | succ skip => exact later member
    | zero =>
      rw [findFrom] at member
      split at member
      · rename_i first n here
        rcases List.mem_cons.mp member with rfl | member
        · exact ⟨c :: cs, n, List.suffix_rfl, here⟩
        · exact later member
      · exact later member

theorem replaceAll_of_some (here : lengthAt cs = some (n + 1)) (long : n < cs.length) :
    replaceAll lengthAt replacement cs =
      replacement ++ replaceAll lengthAt replacement (cs.drop (n + 1)) := by
  cases cs with
  | nil => exact absurd long (Nat.not_lt_zero n)
  | cons c cs =>
    rw [replaceAll, replaceFrom, here]
    exact congrArg (replacement ++ ·) (replaceFrom_eq lengthAt replacement n cs)

/-! ### Openings -/

theorem afterOpening?_eq_some : afterOpening? mark cs = some rest ↔ cs = mark ++ rest := by
  induction mark generalizing cs with
  | nil =>
    rw [afterOpening?, Option.some_inj]
    rfl
  | cons o mark ih =>
    cases cs with
    | nil => exact ⟨nofun, nofun⟩
    | cons c cs =>
      rw [afterOpening?]
      split_ifs with same
      · rw [ih, List.cons_append, List.cons.injEq]
        exact ⟨fun h => ⟨(beq_iff_eq.mp same).symm, h⟩, And.right⟩
      · refine ⟨nofun, fun h => absurd (beq_iff_eq.mpr ?_) same⟩
        exact (List.cons.inj h).1.symm

theorem opensWith_append (mark rest : List Char) : opensWith mark (mark ++ rest) = true := by
  rw [opensWith, afterOpening?_eq_some.mpr rfl]
  rfl

theorem opensWith_iff : opensWith mark cs = true ↔ mark <+: cs := by
  rw [opensWith, Option.isSome_iff_exists]
  exact exists_congr fun rest => afterOpening?_eq_some.trans eq_comm

theorem occursIn_iff : occursIn mark cs = true ↔ mark <:+: cs := by
  induction cs with
  | nil => rw [occursIn, List.infix_nil, List.isEmpty_iff]
  | cons c cs ih => rw [occursIn, Bool.or_eq_true, opensWith_iff, ih, List.infix_cons_iff]

/-! ### Openings without regard to case -/

theorem sameLetter_self (c : Char) : sameLetter c c = true := by
  rw [sameLetter, foldForms]
  exact List.contains_iff_mem.mpr List.mem_cons_self

/-- Characters that agree with those of a word one by one. -/
def Echoes (word cs : List Char) : Prop := List.Forall₂ (fun o c => sameLetter o c = true) word cs

theorem Echoes.self (word : List Char) : Echoes word word :=
  List.forall₂_same.mpr fun c _ => sameLetter_self c

theorem afterOpeningFold?_eq_some : afterOpeningFold? word cs = some rest ↔
    ∃ front, Echoes word front ∧ cs = front ++ rest := by
  induction word generalizing cs with
  | nil =>
    rw [afterOpeningFold?, Option.some_inj]
    constructor
    · rintro rfl
      exact ⟨[], .nil, rfl⟩
    · rintro ⟨front, echoes, rfl⟩
      rw [List.forall₂_nil_left_iff.mp echoes, List.nil_append]
  | cons o word ih =>
    cases cs with
    | nil =>
      refine iff_of_false nofun ?_
      rintro ⟨front, echoes, split⟩
      rw [(List.append_eq_nil_iff.mp split.symm).1] at echoes
      exact nomatch echoes
    | cons c cs =>
      rw [afterOpeningFold?]
      split_ifs with same
      · rw [ih]
        constructor
        · rintro ⟨front, echoes, rfl⟩
          exact ⟨c :: front, .cons same echoes, rfl⟩
        · rintro ⟨front, echoes, split⟩
          cases echoes with
          | cons _ echoes => exact ⟨_, echoes, (List.cons.inj split).2⟩
      · refine iff_of_false nofun ?_
        rintro ⟨front, echoes, split⟩
        cases echoes with
        | cons here _ => exact same ((List.cons.inj split).1 ▸ here)

/-! ### Trimming -/

theorem trimEndChars_concat (visible : isBlank c = false) (cs : List Char) :
    trimEndChars (cs ++ [c]) = cs ++ [c] := by
  rw [trimEndChars, List.reverse_concat, List.dropWhile_cons_of_neg (Bool.not_eq_true _ ▸ visible),
    List.reverse_cons, List.reverse_reverse]

theorem trimEndChars_concat_of_blank (blank : isBlank c = true) (cs : List Char) :
    trimEndChars (cs ++ [c]) = trimEndChars cs := by
  rw [trimEndChars, List.reverse_concat, List.dropWhile_cons_of_pos blank, trimEndChars]

/-- Nothing is trimmed from characters between two that are visible. -/
theorem trimChars_enclosed {d : Char} (front : isBlank c = false) (back : isBlank d = false)
    (cs : List Char) : trimChars (c :: (cs ++ [d])) = c :: (cs ++ [d]) := by
  rw [trimChars, List.dropWhile_cons_of_neg (Bool.not_eq_true _ ▸ front), ← List.cons_append,
    trimEndChars_concat back]

end Gamebook.Text
