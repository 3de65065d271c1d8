import Mathlib.Data.List.TakeWhile
import Gamebook.Proofs.Text.Scan
import Gamebook.Tag.Grammar

/-!
Where tags stand in a text. The grammar of tags is told by what is written, apart from how it is looked
for, and the tags of a text are the leftmost ones that do not overlap. This says of any list of tags
whether it is that of a text, so finding and stripping are the only way to comply with it.
-/

namespace Gamebook.Tag

open Text

variable {t : Tag} {tags : List Tag} {name segment body cs rest piece : List Char}
  {pieces : List (List Char)} {c : Char} {n : Nat}

/-! ### The grammar -/

/-- The body of a tag by what stands behind its colon: everything from the first character that is no
blank, or the last blank if there are only blanks. -/
inductive Bodied : List Char → List Char → Prop
  | visible {blanks rest : List Char} {c : Char} (front : ∀ b ∈ blanks, isBlank b = true)
    (first : isBlank c = false) : Bodied (blanks ++ c :: rest) (c :: rest)
  | blank {blanks : List Char} {last : Char} (front : ∀ b ∈ blanks, isBlank b = true)
    (final : isBlank last = true) : Bodied (blanks ++ [last]) [last]

/-- Whether a tag is written as the grammar has it, with a segment between colon and bracket. -/
structure Spelled (t : Tag) (segment : List Char) : Prop where
  raw : t.raw.toList = '[' :: (t.name.toList ++ ':' :: (segment ++ [']']))
  named : t.name.toList ≠ []
  capitals : ∀ c ∈ t.name.toList, isNameChar c = true
  filled : segment ≠ []
  unclosed : ']' ∉ segment
  body : Bodied segment t.body.toList

def Written (t : Tag) : Prop := ∃ segment, t.Spelled segment

/-- Whether a tag stands at the front of a text. -/
def Begins (cs : List Char) : Prop := ∃ t : Tag, t.Written ∧ t.raw.toList <+: cs

/-- Tags as they stand in a text from left to right, with the pieces before, between and behind them.
No tag begins within a piece. -/
inductive Leftmost : List Char → List Tag → List (List Char) → Prop
  | last {piece : List Char} (free : ∀ tail, tail <:+ piece → ¬Begins tail) :
    Leftmost piece [] [piece]
  | next {piece rest : List Char} {t : Tag} {tags : List Tag} {pieces : List (List Char)}
    (written : t.Written)
    (free : ∀ tail, tail <:+ piece → tail ≠ [] → ¬Begins (tail ++ (t.raw.toList ++ rest)))
    (later : Leftmost rest tags pieces) :
    Leftmost (piece ++ (t.raw.toList ++ rest)) (t :: tags) (piece :: pieces)

/-! ### The tag at the front -/

theorem Bodied.eq_bodyOf (h : Bodied segment body) : body = bodyOf segment := by
  cases h with
  | visible front first =>
    rw [bodyOf, List.dropWhile_append_of_pos front, List.dropWhile_cons_of_neg (by simp [first])]
  | @blank blanks last front final =>
    have only : ∀ b ∈ blanks ++ [last], isBlank b = true :=
      List.forall_mem_append.mpr ⟨front, by simpa using final⟩
    rw [bodyOf, List.dropWhile_eq_nil_iff.mpr only]
    exact (List.drop_left' (by simp)).symm

theorem bodied_bodyOf (filled : segment ≠ []) : Bodied segment (bodyOf segment) := by
  rw [bodyOf]
  split
  · rename_i none
    have only := List.dropWhile_eq_nil_iff.mp none
    obtain ⟨blanks, last, rfl⟩ := (List.eq_nil_or_concat segment).resolve_left filled
    rw [List.concat_eq_append] at only ⊢
    obtain ⟨front, final⟩ := List.forall_mem_append.mp only
    rw [List.drop_left' (by simp)]
    exact .blank front (final last List.mem_cons_self)
  · rename_i some
    cases found : segment.dropWhile isBlank with
    | nil => exact absurd found some
    | cons c rest =>
      have split := List.takeWhile_append_dropWhile (p := isBlank) (l := segment)
      have first := List.head?_dropWhile_not isBlank segment
      rw [found] at split first
      rw [← split]
      exact .visible (fun b member => List.mem_takeWhile_imp member) first

theorem isNameChar_colon : isNameChar ':' = false := by decide

theorem partsAt?_eq_some : partsAt? cs = some (name, segment) ↔
    name ≠ [] ∧ (∀ c ∈ name, isNameChar c = true) ∧ segment ≠ [] ∧ ']' ∉ segment ∧
      ∃ rest, cs = '[' :: (name ++ ':' :: (segment ++ ']' :: rest)) := by
  constructor
  · intro h
    rw [partsAt?.eq_def] at h
    split at h
    · dsimp only at h
      split at h
      · rename_i more behind
        split_ifs at h with unfit
        obtain ⟨rfl, rfl⟩ := Prod.mk.inj (Option.some.inj h)
        simp only [Bool.or_eq_true, List.isEmpty_iff, not_or] at unfit
        obtain ⟨d, rest, closing⟩ := List.exists_cons_of_ne_nil unfit.2
        have bracket := List.head?_dropWhile_not (· != ']') more
        rw [closing, List.head?_cons] at bracket
        obtain rfl : d = ']' := by simpa using bracket
        refine ⟨unfit.1.1, fun c member => List.mem_takeWhile_imp member, unfit.1.2,
          fun member => by simpa using List.mem_takeWhile_imp member, rest, ?_⟩
        rw [← closing, List.takeWhile_append_dropWhile, ← behind, List.takeWhile_append_dropWhile]
      · cases h
    · cases h
  · rintro ⟨named, capitals, filled, unclosed, rest, rfl⟩
    have inside : ∀ c ∈ segment, (c != ']') = true := fun c member => by
      simpa using fun same : c = ']' => unclosed (same ▸ member)
    rw [partsAt?.eq_def]
    simp [List.dropWhile_append_of_pos capitals, List.takeWhile_append_of_pos capitals,
      List.dropWhile_append_of_pos inside, List.takeWhile_append_of_pos inside,
      isNameChar_colon, named, filled]

theorem at?_eq_some : at? cs = some (t, n) ↔
    t.Written ∧ n = t.raw.toList.length ∧ t.raw.toList <+: cs := by
  rw [at?, Option.map_eq_some_iff]
  constructor
  · rintro ⟨⟨name, segment⟩, parts, made⟩
    obtain ⟨named, capitals, filled, unclosed, rest, rfl⟩ := partsAt?_eq_some.mp parts
    obtain ⟨rfl, rfl⟩ := Prod.mk.inj made
    have size : ('[' :: (name ++ ':' :: (segment ++ [']']))).length = lengthOf name segment := by
      simp [lengthOf]
      omega
    have raw : ('[' :: (name ++ ':' :: (segment ++ ']' :: rest))).take (lengthOf name segment) =
        '[' :: (name ++ ':' :: (segment ++ [']'])) := by
      have split : '[' :: (name ++ ':' :: (segment ++ ']' :: rest)) =
          '[' :: (name ++ ':' :: (segment ++ [']'])) ++ rest := by simp
      rw [split, List.take_left' size]
    refine ⟨⟨segment, ?_, ?_, ?_, filled, unclosed, ?_⟩, ?_, ?_⟩
    · rw [raw, String.toList_ofList, String.toList_ofList]
    · rwa [String.toList_ofList]
    · rwa [String.toList_ofList]
    · rw [String.toList_ofList]
      exact bodied_bodyOf filled
    · rw [String.toList_ofList, raw, size]
    · rw [String.toList_ofList]
      exact List.take_prefix _ _
  · rintro ⟨⟨segment, spelled⟩, rfl, rest, rfl⟩
    refine ⟨(t.name.toList, segment), partsAt?_eq_some.mpr ⟨spelled.named, spelled.capitals,
      spelled.filled, spelled.unclosed, rest, by simp [spelled.raw]⟩, ?_⟩
    have size : lengthOf t.name.toList segment = t.raw.toList.length := by
      simp [lengthOf, spelled.raw]
      omega
    dsimp only
    rw [size, List.take_left, ← spelled.body.eq_bodyOf, String.ofList_toList,
      String.ofList_toList, String.ofList_toList]

theorem at?_eq_none : at? cs = none ↔ ¬Begins cs := by
  rw [Option.eq_none_iff_forall_not_mem]
  constructor
  · rintro absent ⟨t, written, front⟩
    exact absent (t, _) (at?_eq_some.mpr ⟨written, rfl, front⟩)
  · rintro absent ⟨t, n⟩ found
    obtain ⟨written, -, front⟩ := at?_eq_some.mp found
    exact absent ⟨t, written, front⟩

theorem lengthAt?_eq (cs : List Char) : lengthAt? cs = (at? cs).map (·.2) := by
  rw [lengthAt?, at?, Option.map_map]
  rfl

theorem lengthAt?_eq_none (absent : ¬Begins cs) : lengthAt? cs = none := by
  rw [lengthAt?_eq, at?_eq_none.mpr absent]
  rfl

theorem length_raw_pos (written : t.Written) : 0 < t.raw.toList.length := by
  obtain ⟨segment, spelled⟩ := written
  rw [spelled.raw]
  exact Nat.succ_pos _

theorem not_begins_nil : ¬Begins [] := by
  rintro ⟨t, written, front⟩
  have filled := length_raw_pos written
  rw [List.prefix_nil.mp front] at filled
  exact Nat.lt_irrefl 0 filled

/-- Scanning goes on behind a tag, or behind a character at which none begins. -/
@[elab_as_elim]
theorem scan_induction {P : List Char → Prop} (nil : P [])
    (tag : ∀ t : Tag, t.Written → ∀ rest, P rest → P (t.raw.toList ++ rest))
    (kept : ∀ c cs, ¬Begins (c :: cs) → P cs → P (c :: cs)) (cs : List Char) : P cs := by
  induction size : cs.length using Nat.strong_induction_on generalizing cs with
  | _ n ih =>
    by_cases here : Begins cs
    · obtain ⟨t, written, rest, rfl⟩ := here
      have filled := length_raw_pos written
      rw [List.length_append] at size
      exact tag t written rest (ih rest.length (by omega) rest rfl)
    · cases cs with
      | nil => exact nil
      | cons c cs =>
        rw [List.length_cons] at size
        exact kept c cs here (ih cs.length (by omega) cs rfl)

/-! ### Finding and stripping -/

/-- The characters of a text without its tags. -/
def stripChars (cs : List Char) : List Char := replaceAll lengthAt? [] cs

theorem toList_strip (text : String) : (strip text).toList = stripChars text.toList := by
  rw [strip, String.toList_ofList]
  rfl

theorem stripChars_cons (absent : ¬Begins (c :: cs)) :
    stripChars (c :: cs) = c :: stripChars cs :=
  replaceAll_cons_of_none (lengthAt?_eq_none absent)

/-- A piece in which no tag begins is passed over and kept. -/
theorem scan_piece (cs : List Char)
    (free : ∀ tail, tail <:+ piece → tail ≠ [] → ¬Begins (tail ++ cs)) :
    findAll at? (piece ++ cs) = findAll at? cs ∧
      stripChars (piece ++ cs) = piece ++ stripChars cs := by
  induction piece with
  | nil => exact ⟨rfl, rfl⟩
  | cons c piece ih =>
    obtain ⟨found, left⟩ := ih fun tail behind => free tail (behind.trans (List.suffix_cons c piece))
    have absent := free (c :: piece) List.suffix_rfl (List.cons_ne_nil c piece)
    rw [List.cons_append] at absent ⊢
    rw [findAll_cons_of_none (at?_eq_none.mpr absent), stripChars_cons absent, found, left]
    trivial

/-- A tag at the front is found and left out. -/
theorem scan_tag (written : t.Written) (rest : List Char) :
    findAll at? (t.raw.toList ++ rest) = t :: findAll at? rest ∧
      stripChars (t.raw.toList ++ rest) = stripChars rest := by
  obtain ⟨n, size⟩ := Nat.exists_eq_succ_of_ne_zero (length_raw_pos written).ne'
  have here : at? (t.raw.toList ++ rest) = some (t, n + 1) :=
    at?_eq_some.mpr ⟨written, size.symm, List.prefix_append _ _⟩
  have long : n < (t.raw.toList ++ rest).length := by
    rw [List.length_append, size]
    omega
  have behind : (t.raw.toList ++ rest).drop (n + 1) = rest := List.drop_left' size
  constructor
  · rw [findAll_of_some here long, behind]
  · rw [stripChars, replaceAll_of_some (by rw [lengthAt?_eq, here]; rfl) long, behind]
    rfl

theorem Leftmost.scanned (h : Leftmost cs tags pieces) :
    findAll at? cs = tags ∧ stripChars cs = pieces.flatten := by
  induction h with
  | @last piece free =>
    obtain ⟨found, left⟩ := scan_piece [] fun tail behind _ => by
      rw [List.append_nil]
      exact free tail behind
    rw [List.append_nil] at found left
    exact ⟨found, left.trans (by simp [stripChars, replaceAll, replaceFrom])⟩
  | @next piece rest t tags pieces written free later ih =>
    obtain ⟨found, left⟩ := scan_piece _ free
    obtain ⟨foundHere, leftHere⟩ := scan_tag written rest
    rw [found, left, foundHere, leftHere, ih.1, ih.2]
    exact ⟨rfl, rfl⟩

/-- A character at which no tag begins goes to the first piece. -/
theorem Leftmost.cons (absent : ¬Begins (c :: cs)) (h : Leftmost cs tags (piece :: pieces)) :
    Leftmost (c :: cs) tags ((c :: piece) :: pieces) := by
  cases h with
  | last free =>
    refine .last fun tail behind => ?_
    rcases List.suffix_cons_iff.mp behind with rfl | later
    · exact absent
    · exact free tail later
  | @next piece rest t tags pieces written free later =>
    change Leftmost ((c :: piece) ++ (t.raw.toList ++ rest)) (t :: tags) _
    refine .next written (fun tail behind filled => ?_) later
    rcases List.suffix_cons_iff.mp behind with rfl | earlier
    · exact absent
    · exact free tail earlier filled

theorem exists_leftmost (cs : List Char) :
    ∃ tags piece pieces, Leftmost cs tags (piece :: pieces) := by
  induction cs using scan_induction with
  | nil => exact ⟨[], [], [], .last fun tail behind => List.suffix_nil.mp behind ▸ not_begins_nil⟩
  | tag t written rest ih =>
    obtain ⟨tags, piece, pieces, later⟩ := ih
    refine ⟨t :: tags, [], piece :: pieces, ?_⟩
    rw [← List.nil_append (t.raw.toList ++ rest)]
    exact .next written (fun tail behind filled => absurd (List.suffix_nil.mp behind) filled) later
  | kept c cs absent ih =>
    obtain ⟨tags, piece, pieces, later⟩ := ih
    exact ⟨tags, c :: piece, pieces, later.cons absent⟩

/-- The tags of a text are those that stand in it leftmost, and what is left when they are stripped is
the pieces around them. -/
theorem leftmost_iff (text : String) (tags : List Tag) (left : String) :
    (∃ pieces, Leftmost text.toList tags pieces ∧ left.toList = pieces.flatten) ↔
      tags = find text ∧ left = strip text := by
  constructor
  · rintro ⟨pieces, h, whole⟩
    obtain ⟨found, kept⟩ := h.scanned
    refine ⟨found.symm, String.toList_inj.mp ?_⟩
    rw [whole, toList_strip, kept]
  · rintro ⟨rfl, rfl⟩
    obtain ⟨tags, piece, pieces, h⟩ := exists_leftmost text.toList
    obtain ⟨found, kept⟩ := h.scanned
    refine ⟨piece :: pieces, ?_, by rw [toList_strip, kept]⟩
    rw [find, found]
    exact h

/-- A start that comes to nothing is passed over, and of a body of blanks the last one is kept. -/
example : find "[A[B_:  ]C: [d]" = [⟨"[B_:  ]", "B_", " "⟩] := by decide +kernel

end Gamebook.Tag
