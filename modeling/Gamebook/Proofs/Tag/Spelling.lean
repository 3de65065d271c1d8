import Gamebook.Proofs.Number.Nearest
import Gamebook.Proofs.Tag.Reward
import Gamebook.Tag.Attribute

/-!
Decimals in texts. The decimal that a text begins with is read whatever stands in front of it and
behind: blanks before its sign, and after its digits anything that cannot be read on.
-/

namespace Gamebook.Attribute

open Text Numeral

variable {c : Char} {cs digits tail : List Char} {whole fraction : List Nat} {negative : Bool}

/-! ### Digits -/

/-- Characters that are the digits of some values one by one. -/
def SpellDigits (cs : List Char) (values : List Nat) : Prop :=
  List.Forall₂ (fun c v => digitValue? c = some v) cs values

/-- Whether the first of some characters, if there is one, is no digit. -/
def StopsDigits (cs : List Char) : Prop := ∀ c ∈ cs.head?, isDigit c = false

theorem SpellDigits.isDigit (h : SpellDigits cs whole) : ∀ c ∈ cs, isDigit c = true := by
  induction h with
  | nil => exact nofun
  | cons value _ ih =>
    exact List.forall_mem_cons.mpr ⟨by rw [Text.isDigit, value]; rfl, ih⟩

theorem SpellDigits.values (h : SpellDigits cs whole) : cs.filterMap digitValue? = whole := by
  induction h with
  | nil => rfl
  | cons value _ ih => rw [List.filterMap_cons_some value, ih]

theorem spellDigits_filterMap (digits : ∀ c ∈ cs, Text.isDigit c = true) :
    SpellDigits cs (cs.filterMap digitValue?) := by
  induction cs with
  | nil => exact .nil
  | cons c cs ih =>
    obtain ⟨first, later⟩ := List.forall_mem_cons.mp digits
    obtain ⟨value, read⟩ := Option.isSome_iff_exists.mp first
    rw [List.filterMap_cons_some read]
    exact .cons read (ih later)

theorem stopsDigits_dropWhile (cs : List Char) : StopsDigits (cs.dropWhile Text.isDigit) := by
  induction cs with
  | nil => exact nofun
  | cons c cs ih =>
    by_cases digit : Text.isDigit c = true
    · rwa [List.dropWhile_cons_of_pos digit]
    · rw [List.dropWhile_cons_of_neg digit]
      intro first same
      exact Option.some.inj same ▸ Bool.eq_false_iff.mpr digit

theorem SpellDigits.span (h : SpellDigits digits whole) (stops : StopsDigits tail) :
    (digits ++ tail).takeWhile Text.isDigit = digits ∧
      (digits ++ tail).dropWhile Text.isDigit = tail := by
  have rest : tail.takeWhile Text.isDigit = [] ∧ tail.dropWhile Text.isDigit = tail := by
    cases tail with
    | nil => exact ⟨rfl, rfl⟩
    | cons c tail => simp [stops c rfl]
  rw [List.takeWhile_append_of_pos h.isDigit, List.dropWhile_append_of_pos h.isDigit, rest.1, rest.2,
    List.append_nil]
  exact ⟨rfl, rfl⟩

/-! ### Spellings -/

/-- A decimal as a text spells it: its sign, its digits, and those behind the point. -/
structure Spelling where
  negative : Bool
  whole : List Nat
  fraction : List Nat

/-- The ways to write a sign. -/
inductive Signs : Bool → List Char → Prop
  | bare : Signs false []
  | plus : Signs false ['+']
  | minus : Signs true ['-']

/-- What follows the digits before a point: no point and no digit, or the point and what digits there
are behind it. -/
inductive Follows : List Nat → List Char → Prop
  | whole {tail : List Char} (stops : StopsDigits tail) (pointless : ∀ c ∈ tail.head?, c ≠ '.') :
    Follows [] tail
  | point {digits tail : List Char} {fraction : List Nat} (spelled : SpellDigits digits fraction)
    (stops : StopsDigits tail) : Follows fraction ('.' :: digits ++ tail)

namespace Spelling

/-- Whether a text begins with a decimal: behind blanks its sign and digits, and nothing behind them
that could be read as a part of it. -/
inductive Begins (n : Spelling) : List Char → Prop
  | intro {blanks sign digits tail : List Char} (blank : ∀ c ∈ blanks, isBlank c = true)
    (signed : Signs n.negative sign) (spelled : SpellDigits digits n.whole)
    (follows : Follows n.fraction tail) (some : n.whole ≠ [] ∨ n.fraction ≠ []) :
    Begins n (blanks ++ sign ++ digits ++ tail)

/-- The decimal without its sign. -/
def decimal (n : Spelling) : Double.Decimal := Numeral.decimal n.whole n.fraction 0

/-- The number that is spelled. -/
def value (n : Spelling) : ℚ := if n.negative then -n.decimal.value else n.decimal.value

/-- The double that is read. -/
def nearest (n : Spelling) : Double := Double.ofDecimal n.negative n.decimal

end Spelling

theorem stopsDigits_nil : StopsDigits [] := nofun

theorem follows_nil : Follows [] [] := .whole stopsDigits_nil nofun

/-- The digits behind the point that some characters begin with. -/
def behindPoint : List Char → List Nat
  | '.' :: rest => (rest.takeWhile isDigit).filterMap digitValue?
  | _ => []

theorem follows_behindPoint (stops : StopsDigits cs) : Follows (behindPoint cs) cs := by
  rw [behindPoint.eq_def]
  split
  · rename_i rest
    have point : Follows _ ('.' :: rest.takeWhile isDigit ++ rest.dropWhile isDigit) :=
      .point (spellDigits_filterMap fun c => List.mem_takeWhile_imp) (stopsDigits_dropWhile rest)
    rwa [List.cons_append, List.takeWhile_append_dropWhile] at point
  · rename_i pointless
    refine .whole stops fun c first dot => ?_
    obtain ⟨rest, same⟩ := List.head?_eq_some_iff.mp first
    exact pointless rest (dot ▸ same)

theorem Follows.behindPoint_eq (follows : Follows fraction tail) : behindPoint tail = fraction := by
  cases follows with
  | whole stops pointless =>
    rw [behindPoint.eq_def]
    split
    · exact absurd rfl (pointless '.' rfl)
    · rfl
  | @point digits rest _ spelled stops =>
    change ((digits ++ rest).takeWhile isDigit).filterMap digitValue? = fraction
    rw [(spelled.span stops).1, spelled.values]

theorem Follows.stops (follows : Follows fraction tail) : StopsDigits tail := by
  cases follows with
  | whole stops => exact stops
  | point =>
    intro c first
    obtain rfl : '.' = c := by simpa using first
    decide +kernel

/-- Digits before and behind a point are read as far as they go. -/
theorem leadingDecimal?_eq_some : leadingDecimal? cs = some (whole, fraction) ↔
    ∃ digits tail, cs = digits ++ tail ∧ SpellDigits digits whole ∧ Follows fraction tail ∧
      (whole ≠ [] ∨ fraction ≠ []) := by
  have filled {v w : List Nat} : ¬(v.isEmpty && w.isEmpty) = true ↔ v ≠ [] ∨ w ≠ [] := by
    rw [Bool.and_eq_true, List.isEmpty_iff, List.isEmpty_iff, not_and_or]
  change (if ((cs.takeWhile isDigit).filterMap digitValue?).isEmpty &&
      (behindPoint (cs.dropWhile isDigit)).isEmpty then none
    else some ((cs.takeWhile isDigit).filterMap digitValue?, behindPoint (cs.dropWhile isDigit))) =
      some (whole, fraction) ↔ _
  constructor
  · intro read
    split_ifs at read with empty
    obtain ⟨rfl, rfl⟩ := Prod.mk.inj (Option.some.inj read)
    exact ⟨_, _, List.takeWhile_append_dropWhile.symm,
      spellDigits_filterMap fun c => List.mem_takeWhile_imp,
      follows_behindPoint (stopsDigits_dropWhile cs), filled.mp empty⟩
  · rintro ⟨digits, tail, rfl, spelled, follows, some⟩
    obtain ⟨front, back⟩ := spelled.span follows.stops
    rw [front, back, spelled.values, follows.behindPoint_eq]
    exact if_neg (filled.mpr some)

/-! ### Signs -/

theorem exists_signs (cs : List Char) : ∃ sign, Signs (splitSign cs).1 sign ∧
    cs = sign ++ (splitSign cs).2 := by
  rw [splitSign.eq_def]
  split
  · exact ⟨_, .minus, rfl⟩
  · exact ⟨_, .plus, rfl⟩
  · exact ⟨_, .bare, rfl⟩

theorem exists_first (spelled : SpellDigits digits whole) (follows : Follows fraction tail)
    (some : whole ≠ [] ∨ fraction ≠ []) :
    ∃ c rest, digits ++ tail = c :: rest ∧ (isDigit c = true ∨ c = '.') := by
  cases spelled with
  | cons value rest => exact ⟨_, _, rfl, .inl (by rw [isDigit, value]; rfl)⟩
  | nil =>
    cases follows with
    | whole => simp at some
    | point => exact ⟨_, _, rfl, .inr rfl⟩

section First

variable {sign rest blanks : List Char} (signed : Signs negative sign)
  (first : isDigit c = true ∨ c = '.')
include signed first

theorem splitSign_signed : splitSign (sign ++ c :: rest) = (negative, c :: rest) := by
  have plain : c ≠ '-' ∧ c ≠ '+' := by
    have hyphen : isDigit '-' = false := by decide +kernel
    have plus : isDigit '+' = false := by decide +kernel
    constructor <;> rintro rfl
    · simp [hyphen] at first
    · simp [plus] at first
  cases signed with
  | plus | minus => rfl
  | bare =>
    rw [List.nil_append, splitSign.eq_def]
    split
    · rename_i same
      exact absurd (List.cons.inj same).1 plain.1
    · rename_i same
      exact absurd (List.cons.inj same).1 plain.2
    · rfl

theorem dropWhile_blanks (blank : ∀ c ∈ blanks, isBlank c = true) :
    (blanks ++ (sign ++ c :: rest)).dropWhile isBlank = sign ++ c :: rest := by
  rw [List.dropWhile_append_of_pos blank]
  cases signed with
  | plus | minus => exact List.dropWhile_cons_of_neg (by decide)
  | bare =>
    refine List.dropWhile_cons_of_neg fun blank => ?_
    rcases first with digit | rfl
    · exact nomatch digit.symm.trans (isDigit_of_isBlank blank)
    · exact nomatch blank

end First

/-- A text is read as a double exactly if it begins with a decimal, and as the double nearest to it. -/
theorem leadingDouble?_eq_some {s : String} {x : Double} :
    leadingDouble? s = some x ↔ ∃ n : Spelling, n.Begins s.toList ∧ n.nearest = x := by
  rw [leadingDouble?]
  constructor
  · intro read
    obtain ⟨sign, signed, rest⟩ := exists_signs (s.toList.dropWhile isBlank)
    generalize splitSign (s.toList.dropWhile isBlank) = parts at read signed rest
    obtain ⟨negative, body⟩ := parts
    obtain ⟨⟨whole, fraction⟩, parts, nearest⟩ := Option.map_eq_some_iff.mp read
    obtain ⟨digits, tail, rfl, spelled, follows, some⟩ := leadingDecimal?_eq_some.mp parts
    have split : s.toList = s.toList.takeWhile isBlank ++ sign ++ digits ++ tail := by
      rw [List.append_assoc, List.append_assoc, ← rest, List.takeWhile_append_dropWhile]
    refine ⟨⟨negative, whole, fraction⟩, ?_, nearest⟩
    rw [split]
    exact .intro (fun c => List.mem_takeWhile_imp) signed spelled follows some
  · rintro ⟨n, begins, rfl⟩
    generalize s.toList = cs at begins
    obtain @⟨blanks, sign, digits, tail, blank, signed, spelled, follows, some⟩ := begins
    obtain ⟨c, rest, first, starts⟩ := exists_first spelled follows some
    rw [List.append_assoc, List.append_assoc, first, dropWhile_blanks signed starts blank,
      splitSign_signed signed starts, ← first]
    change (leadingDecimal? (digits ++ tail)).map _ = _
    rw [leadingDecimal?_eq_some.mpr ⟨digits, tail, rfl, spelled, follows, some⟩]
    rfl

end Gamebook.Attribute
