import Mathlib.Data.List.TakeDrop
import Mathlib.Data.List.TakeWhile
import Mathlib.Tactic.SplitIfs
import Gamebook.Json.Reader

/-!
What the reader of structured text may refuse. It passes over quoted texts as wholes and over everything
else character by character; so a number that is too long to read stands in the text as such, outside
every quoted text, and a text without one is read or malformed.
-/

namespace Gamebook.Json

open Numeral

variable {α β : Type} {cs mid rest : List Char} {c : Char}

/-! ### Reaching -/

/-- Whether a rest of a text is left when quoted texts are passed over as wholes and other characters
one by one. -/
inductive Reaches : List Char → List Char → Prop
  | here {cs : List Char} : Reaches cs cs
  | past {c : Char} {cs rest : List Char} (plain : c ≠ '"') (later : Reaches cs rest) :
    Reaches (c :: cs) rest
  | quoted {cs text after rest : List Char} (closed : unquote cs = some (text, after))
    (later : Reaches after rest) : Reaches ('"' :: cs) rest

theorem Reaches.trans (first : Reaches cs mid) (later : Reaches mid rest) : Reaches cs rest := by
  induction first with
  | here => exact later
  | past plain _ ih => exact .past plain (ih later)
  | quoted closed _ ih => exact .quoted closed (ih later)

theorem reaches_of_append {front : List Char} (split : cs = front ++ rest)
    (plain : ∀ c ∈ front, c ≠ '"') : Reaches cs rest := by
  subst split
  induction front with
  | nil => exact .here
  | cons c front ih =>
    obtain ⟨first, others⟩ := List.forall_mem_cons.mp plain
    exact .past first (ih others)

/-- Whether digits in front of a rest are all of a numeral, with no fraction and no exponent. -/
def isWhole (rest : List Char) : Bool :=
  (readFraction rest).1.isEmpty && (readExponent (readFraction rest).2).1.isNone

/-- Whether a whole numeral with too many digits stands in a text, outside quoted texts. -/
def LongNumeral (cs : List Char) : Prop :=
  ∃ digits rest, Reaches cs (digits ++ rest) ∧ (∀ d ∈ digits, isPlainDigit d = true) ∧
    isWhole rest = true ∧ maxDigits < digits.length

theorem LongNumeral.of_reaches (reached : Reaches cs mid) (long : LongNumeral mid) :
    LongNumeral cs := by
  obtain ⟨digits, rest, later, plain, whole, many⟩ := long
  exact ⟨digits, rest, reached.trans later, plain, whole, many⟩

/-- What reading from a text on may come to: a rest that is reached, or a fault, which is a long number
only where one stands. -/
def Bounded (cs : List Char) : Except Fault (α × List Char) → Prop
  | .ok (_, rest) => Reaches cs rest
  | .error .malformed => True
  | .error (.tooLong _) => LongNumeral cs

theorem Bounded.of_reaches {result : Except Fault (α × List Char)} (reached : Reaches cs mid)
    (bounded : Bounded mid result) : Bounded cs result :=
  match result with
  | .ok _ => reached.trans bounded
  | .error .malformed => trivial
  | .error (.tooLong _) => LongNumeral.of_reaches reached bounded

theorem Bounded.bind {first : Except Fault (α × List Char)}
    {next : α × List Char → Except Fault (β × List Char)} (bounded : Bounded cs first)
    (later : ∀ a rest, Bounded rest (next (a, rest))) : Bounded cs (first >>= next) :=
  match first with
  | .ok (a, rest) => (later a rest).of_reaches bounded
  | .error .malformed => trivial
  | .error (.tooLong _) => bounded

/-! ### Parts of a value -/

theorem ne_quote_of_isSpace (space : isSpace c = true) : c ≠ '"' := by
  rintro rfl
  exact nomatch space

theorem ne_quote_of_isPlainDigit (digit : isPlainDigit c = true) : c ≠ '"' := by
  rintro rfl
  exact nomatch digit

theorem reaches_skipSpace (cs : List Char) : Reaches cs (skipSpace cs) :=
  reaches_of_append List.takeWhile_append_dropWhile.symm fun _ member =>
    ne_quote_of_isSpace (List.mem_takeWhile_imp member)

theorem spanDigits_spec (cs : List Char) : cs = (spanDigits cs).1 ++ (spanDigits cs).2 ∧
    ∀ d ∈ (spanDigits cs).1, isPlainDigit d = true := by
  rw [spanDigits, List.span_eq_takeWhile_dropWhile]
  exact ⟨List.takeWhile_append_dropWhile.symm, fun _ member => List.mem_takeWhile_imp member⟩

theorem reaches_spanDigits (cs : List Char) : Reaches cs (spanDigits cs).2 := by
  obtain ⟨split, digits⟩ := spanDigits_spec cs
  exact reaches_of_append split fun d member => ne_quote_of_isPlainDigit (digits d member)

theorem reaches_readFraction (cs : List Char) : Reaches cs (readFraction cs).2 := by
  rw [readFraction.eq_def]
  split
  · rename_i rest
    have behind := reaches_spanDigits rest
    split
    · exact .here
    · exact .past (by decide) behind
  · exact .here

theorem reaches_splitSign (cs : List Char) : Reaches cs (splitSign cs).2 := by
  rw [splitSign.eq_def]
  split
  · exact .past (by decide) .here
  · exact .past (by decide) .here
  · exact .here

theorem reaches_readExponent (cs : List Char) : Reaches cs (readExponent cs).2 := by
  rw [readExponent.eq_def]
  split
  · rename_i e rest
    split_ifs with mark
    · have behind := (reaches_splitSign rest).trans (reaches_spanDigits _)
      dsimp only
      split
      · exact .here
      · rename_i ds after same
        rw [same] at behind
        refine .past ?_ behind
        rintro rfl
        exact nomatch mark
    · exact .here
  · exact .here

theorem readWhole_spec (cs : List Char) : cs = (readWhole cs).1 ++ (readWhole cs).2 ∧
    ∀ d ∈ (readWhole cs).1, isPlainDigit d = true := by
  rw [readWhole.eq_def]
  split
  · exact ⟨rfl, List.forall_mem_singleton.mpr (by decide)⟩
  · exact spanDigits_spec cs

/-! ### Values -/

theorem readNumber_bounded (negative : Bool) (cs : List Char) :
    Bounded cs (readNumber negative cs) := by
  obtain ⟨split, digits⟩ := readWhole_spec cs
  rw [readNumber]
  generalize readWhole cs = read at split digits
  obtain ⟨whole, afterWhole⟩ := read
  dsimp only at split digits ⊢
  split
  · trivial
  rename_i whole' afterWhole' _ same
  obtain ⟨rfl, rfl⟩ := Prod.mk.inj same
  have reached : Reaches cs afterWhole :=
    reaches_of_append split fun d member => ne_quote_of_isPlainDigit (digits d member)
  split_ifs with integral long
  -- Only a numeral without fraction and exponent is refused for its length.
  · exact ⟨whole, afterWhole, split ▸ .here, digits, integral, long⟩
  · exact (reached.trans (reaches_readFraction _)).trans (reaches_readExponent _)
  · exact (reached.trans (reaches_readFraction _)).trans (reaches_readExponent _)

theorem reaches_afterWord {word : String} (plain : ∀ c ∈ word.toList, c ≠ '"')
    (found : afterWord? word cs = some rest) : Reaches cs rest := by
  rw [afterWord?] at found
  split_ifs at found with begun
  obtain ⟨after, rfl⟩ := List.isPrefixOf_iff_prefix.mp begun
  obtain rfl := Option.some.inj found
  refine reaches_of_append ?_ plain
  rw [← String.length_toList, List.drop_left]

theorem reaches_readWord {words : List (String × Value)} {read : Value × List Char}
    (plain : ∀ pair ∈ words, ∀ c ∈ pair.1.toList, c ≠ '"')
    (found : readWord cs words = some read) : Reaches cs read.2 := by
  induction words with
  | nil => exact nomatch found
  | cons pair words ih =>
    obtain ⟨first, others⟩ := List.forall_mem_cons.mp plain
    rw [readWord] at found
    split at found
    · rename_i rest here
      obtain rfl := Option.some.inj found
      exact reaches_afterWord first here
    · exact ih others found

theorem wordValues_plain : ∀ pair ∈ wordValues, ∀ c ∈ pair.1.toList, c ≠ '"' := by
  simp [wordValues]

theorem readScalar_bounded (cs : List Char) : Bounded cs (readScalar cs) := by
  rw [readScalar.eq_def]
  split
  · split
    · rename_i closed
      exact .quoted closed .here
    · trivial
  · split
    · rename_i found
      exact reaches_readWord wordValues_plain found
    · split
      · exact .of_reaches (.past (by decide) .here) (readNumber_bounded true _)
      · exact readNumber_bounded false cs

theorem readKey_bounded (cs : List Char) : Bounded cs (readKey cs) := by
  refine .of_reaches (reaches_skipSpace cs) ?_
  rw [readKey]
  split
  · rename_i begun
    rw [begun]
    split
    · rename_i closed
      split
      · rename_i after _ value colon
        have behind : Reaches after value :=
          (reaches_skipSpace after).trans (colon ▸ .past (by decide) .here)
        exact .quoted closed (behind.trans (reaches_skipSpace value))
      · trivial
    · trivial
  · trivial

section Step

variable {bound : Nat}

theorem readValue_succ_bounded (items : ∀ cs, Bounded cs (readItems bound cs))
    (members : ∀ cs, Bounded cs (readMembers bound cs)) (cs : List Char) :
    Bounded cs (readValue (bound + 1) cs) := by
  rw [readValue.eq_def]
  split
  · rename_i none
    exact absurd none (Nat.succ_ne_zero bound)
  · rename_i inner same
    obtain rfl := Nat.succ.inj same
    refine .of_reaches (.past (by decide) (reaches_skipSpace inner)) ?_
    split
    · rename_i closed
      exact closed ▸ .past (by decide) .here
    · exact (items _).bind fun vs after => .here
  · rename_i inner same
    obtain rfl := Nat.succ.inj same
    refine .of_reaches (.past (by decide) (reaches_skipSpace inner)) ?_
    split
    · rename_i closed
      exact closed ▸ .past (by decide) .here
    · exact (members _).bind fun fields after => .here
  · exact readScalar_bounded _

theorem readItems_succ_bounded (value : ∀ cs, Bounded cs (readValue bound cs))
    (items : ∀ cs, Bounded cs (readItems bound cs)) (cs : List Char) :
    Bounded cs (readItems (bound + 1) cs) := by
  rw [readItems]
  refine (value cs).bind fun v after => .of_reaches (reaches_skipSpace after) ?_
  dsimp only
  split
  · rename_i closed
    exact closed ▸ .past (by decide) .here
  · rename_i more parted
    rw [parted]
    refine .of_reaches (.past (by decide) (reaches_skipSpace more)) ?_
    exact (items _).bind fun vs rest => .here
  · trivial

theorem readMembers_succ_bounded (value : ∀ cs, Bounded cs (readValue bound cs))
    (members : ∀ cs, Bounded cs (readMembers bound cs)) (cs : List Char) :
    Bounded cs (readMembers (bound + 1) cs) := by
  rw [readMembers]
  refine (readKey_bounded cs).bind fun key body => (value body).bind fun v after => ?_
  refine .of_reaches (reaches_skipSpace after) ?_
  dsimp only
  split
  · rename_i closed
    exact closed ▸ .past (by decide) .here
  · rename_i more parted
    rw [parted]
    refine .of_reaches (.past (by decide) (reaches_skipSpace more)) ?_
    exact (members _).bind fun fields rest => .here
  · trivial

end Step

theorem reading_bounded (bound : Nat) : (∀ cs, Bounded cs (readValue bound cs)) ∧
    (∀ cs, Bounded cs (readItems bound cs)) ∧ ∀ cs, Bounded cs (readMembers bound cs) := by
  -- All three together: each reader calls the others with one less.
  induction bound with
  | zero => exact ⟨fun _ => trivial, fun _ => trivial, fun _ => trivial⟩
  | succ bound ih =>
    obtain ⟨value, items, members⟩ := ih
    exact ⟨readValue_succ_bounded items members, readItems_succ_bounded value items,
      readMembers_succ_bounded value members⟩

/-- Only a text with a whole numeral that is too long is refused as such. -/
theorem longNumeral_of_read {s : String} {n : Nat} (refused : read s = .error (.tooLong n)) :
    LongNumeral s.toList := by
  have bounded := (reading_bounded ((skipSpace s.toList).length + 1)).1 (skipSpace s.toList)
  rw [read] at refused
  split at refused
  · rename_i fault failed
    obtain rfl := Except.error.inj refused
    rw [failed] at bounded
    exact .of_reaches (reaches_skipSpace _) bounded
  · split_ifs at refused
    exact nomatch refused

/-! ### Length -/

theorem length_of_consText {read : Option (List Char × List Char)} {text after : List Char}
    (closed : consText c read = some (text, after))
    (behind : ∀ text', read = some (text', after) → after.length < rest.length)
    (within : rest.length ≤ cs.length) : after.length < cs.length := by
  obtain ⟨⟨text', after'⟩, found, same⟩ := Option.map_eq_some_iff.mp closed
  obtain ⟨-, rfl⟩ := Prod.mk.inj same
  exact Nat.lt_of_lt_of_le (behind text' found) within

theorem length_of_unquote {text after : List Char} (closed : unquote cs = some (text, after)) :
    after.length < cs.length := by
  fun_induction unquote cs generalizing text with
  | case1 | case3 | case6 | case8 | case10 => exact nomatch closed
  | case2 rest =>
    obtain ⟨-, rfl⟩ := Prod.mk.inj (Option.some.inj closed)
    exact Nat.lt_succ_self _
  | case4 | case5 | case7 | case9 | case11 =>
    rename_i ih
    exact length_of_consText closed (fun _ => ih) (by simp only [List.length_cons]; omega)

theorem Reaches.length_le (reached : Reaches cs rest) : rest.length ≤ cs.length := by
  induction reached with
  | here => exact Nat.le_refl _
  | past _ _ ih => exact Nat.le_succ_of_le ih
  | quoted closed _ ih =>
    exact Nat.le_succ_of_le (ih.trans (Nat.le_of_lt (length_of_unquote closed)))

theorem not_longNumeral_of_length_le (short : cs.length ≤ maxDigits) : ¬LongNumeral cs := by
  rintro ⟨digits, rest, reached, -, -, many⟩
  have held := reached.length_le
  rw [List.length_append] at held
  omega

end Gamebook.Json
