import Mathlib.Data.List.Infix
import Gamebook.Proofs.Tag.Occurrence

/-!
What stripping leaves. Tags are stripped in one pass, and reasoning is cut out afterwards, so what stood
apart can come together: a bracket and capitals in front of a tag or of reasoning may go on behind it as
the name of a tag. Where no name is interrupted in this way, no tag is left.
-/

namespace Gamebook.Tag

open Text
open Reasoning (opening closing)

variable {cs rest name more : List Char} {c d : Char} {mark front before thought behind : List Char}

/-! ### Interrupted names -/

/-- Whether a tag, or the mark of reasoning once tags are stripped, begins behind characters of a name at
most. -/
def breaksName : List Char → Bool
  | [] => false
  | c :: rest =>
    (at? (c :: rest)).isSome || opensWith opening.toList (stripChars (c :: rest)) ||
      isNameChar c && breaksName rest

/-- Whether a text goes on with characters of a name, if any, and a colon. -/
def goesOn (cs : List Char) : Bool := opensWith [':'] (cs.dropWhile isNameChar)

/-- A text without its first block of reasoning. -/
def unreasoned (cs : List Char) : List Char := (Reasoning.split (String.ofList cs)).1.toList

/-- Whether a name that is begun goes on up to its colon when tags are stripped, be it with reasoning cut
out. -/
def resumes (rest : List Char) : Bool :=
  goesOn (stripChars rest) || goesOn (unreasoned (stripChars rest))

/-- Whether some bracket opens a name that is interrupted and goes on without what interrupts it. -/
def isInterrupted : List Char → Bool
  | [] => false
  | c :: rest => c == '[' && breaksName rest && resumes rest || isInterrupted rest

theorem isInterrupted_of_suffix (behind : '[' :: rest <:+ cs) (whole : isInterrupted cs = false) :
    (breaksName rest && resumes rest) = false := by
  induction cs with
  | nil => exact absurd (List.suffix_nil.mp behind) (List.cons_ne_nil _ _)
  | cons c cs ih =>
    obtain ⟨here, later⟩ := Bool.or_eq_false_iff.mp whole
    rcases List.suffix_cons_iff.mp behind with same | behind
    · obtain ⟨rfl, rfl⟩ := List.cons.inj same
      exact here
    · exact ih behind later

/-! ### Marks -/

theorem eq_append_of_cutAt? (h : cutAt? mark cs = some (before, behind)) :
    cs = before ++ (mark ++ behind) := by
  induction cs generalizing before with
  | nil =>
    rw [cutAt?] at h
    split_ifs at h with empty
    obtain ⟨rfl, rfl⟩ := Prod.mk.inj (Option.some.inj h)
    rw [List.isEmpty_iff.mp empty]
    rfl
  | cons c cs ih =>
    rw [cutAt?] at h
    split at h
    · rename_i found
      obtain ⟨rfl, rfl⟩ := Prod.mk.inj (Option.some.inj h)
      rw [List.nil_append]
      exact afterOpening?_eq_some.mp found
    · obtain ⟨⟨front, back⟩, cut, same⟩ := Option.map_eq_some_iff.mp h
      obtain ⟨rfl, rfl⟩ := Prod.mk.inj same
      rw [List.cons_append, ih cut]

theorem cutAt?_of_append (h : cutAt? mark (front ++ cs) = some (front ++ before, behind)) :
    cutAt? mark cs = some (before, behind) := by
  induction front with
  | nil => exact h
  | cons c front ih =>
    rw [List.cons_append, cutAt?] at h
    split at h
    · cases (Prod.mk.inj (Option.some.inj h)).1
    · obtain ⟨⟨first, last⟩, cut, same⟩ := Option.map_eq_some_iff.mp h
      obtain ⟨begun, rfl⟩ := Prod.mk.inj same
      rw [(List.cons.inj begun).2] at cut
      exact ih cut

/-- The first occurrence of a mark stays the first one, whatever comes behind it. -/
theorem cutAt?_append (more : List Char) (h : cutAt? mark cs = some (before, behind)) :
    cutAt? mark (cs ++ more) = some (before, behind ++ more) := by
  induction cs generalizing before with
  | nil =>
    rw [cutAt?] at h
    split_ifs at h with empty
    obtain ⟨rfl, rfl⟩ := Prod.mk.inj (Option.some.inj h)
    obtain rfl := List.isEmpty_iff.mp empty
    cases more <;> rfl
  | cons c cs ih =>
    have long : mark.length ≤ (c :: cs).length := by
      rw [eq_append_of_cutAt? h, List.length_append, List.length_append]
      omega
    rw [cutAt?] at h
    rw [List.cons_append, cutAt?]
    split at h
    · rename_i found
      obtain ⟨rfl, rfl⟩ := Prod.mk.inj (Option.some.inj h)
      have same := afterOpening?_eq_some.mp found
      rw [← List.cons_append, same, List.append_assoc, afterOpening?_eq_some.mpr rfl]
    · rename_i absent
      obtain ⟨⟨front, back⟩, cut, same⟩ := Option.map_eq_some_iff.mp h
      obtain ⟨rfl, rfl⟩ := Prod.mk.inj same
      -- A mark that fits into the text does not begin earlier by way of what comes behind.
      have still : afterOpening? mark (c :: (cs ++ more)) = none := by
        refine Option.eq_none_iff_forall_not_mem.mpr fun rest present => ?_
        have begun : mark <+: c :: cs ++ more := ⟨rest, (afterOpening?_eq_some.mp present).symm⟩
        obtain ⟨rest, same⟩ := List.prefix_of_prefix_length_le begun (List.prefix_append _ _) long
        rw [afterOpening?_eq_some.mpr same.symm] at absent
        cases absent
      rw [still, ih cut]
      rfl

theorem unreasoned_eq (opened : cutAt? opening.toList cs = some (before, more))
    (closed : cutAt? closing.toList more = some (thought, behind)) :
    unreasoned cs = before ++ behind.dropWhile isBlank := by
  rw [unreasoned, Reasoning.split, String.toList_ofList, opened]
  dsimp only
  rw [closed]
  exact String.toList_ofList

/-! ### Texts without tags -/

/-- Whether no tag is written anywhere in a text. -/
def Free (cs : List Char) : Prop := ∀ t : Tag, t.Written → ¬t.raw.toList <:+: cs

theorem Free.mono (h : Free cs) (within : rest <:+: cs) : Free rest := by
  intro t written present
  exact h t written (present.trans within)

theorem free_iff : Free cs ↔ ∀ tail, tail <:+ cs → ¬Begins tail := by
  constructor
  · rintro free tail behind ⟨t, written, front⟩
    exact free t written (front.isInfix.trans behind.isInfix)
  · intro free t written present
    obtain ⟨tail, front, behind⟩ := List.infix_iff_prefix_suffix.mp present
    exact free tail behind ⟨t, written, front⟩

/-- Whether a text has no tags: none is found in it, and none is written anywhere in it. -/
structure Untagged (text : String) : Prop where
  found : find text = []
  free : Free text.toList

theorem untagged_of_free {text : String} (free : Free text.toList) : Untagged text where
  found := (Leftmost.last (free_iff.mp free)).scanned.1
  free := free

/-! ### The grammar at the front -/

theorem begins_iff : Begins cs ↔ ∃ name segment rest, name ≠ [] ∧ (∀ c ∈ name, isNameChar c = true) ∧
    segment ≠ [] ∧ ']' ∉ segment ∧ cs = '[' :: (name ++ ':' :: (segment ++ ']' :: rest)) := by
  rw [← not_iff_not, ← at?_eq_none, at?, Option.map_eq_none_iff, Option.eq_none_iff_forall_not_mem]
  constructor
  · rintro absent ⟨name, segment, rest, named, capitals, filled, unclosed, same⟩
    exact absent (name, segment)
      (partsAt?_eq_some.mpr ⟨named, capitals, filled, unclosed, rest, same⟩)
  · rintro absent ⟨name, segment⟩ parts
    obtain ⟨named, capitals, filled, unclosed, rest, same⟩ := partsAt?_eq_some.mp parts
    exact absent ⟨name, segment, rest, named, capitals, filled, unclosed, same⟩

theorem begins_of_mem (named : name ≠ []) (capitals : ∀ c ∈ name, isNameChar c = true)
    (closed : ']' ∈ more) (filled : more.head? ≠ some ']') : Begins ('[' :: (name ++ ':' :: more)) := by
  obtain ⟨segment, rest, rfl, unclosed⟩ := List.eq_append_cons_of_mem closed
  refine begins_iff.mpr ⟨name, segment, rest, named, capitals, ?_, unclosed, rfl⟩
  rintro rfl
  exact filled rfl

/-! ### Stripping in one pass -/

theorem stripChars_tag {t : Tag} (written : t.Written) (rest : List Char) :
    stripChars (t.raw.toList ++ rest) = stripChars rest :=
  (scan_tag written rest).2

theorem mem_of_mem_stripChars (member : c ∈ stripChars cs) : c ∈ cs := by
  induction cs using scan_induction with
  | nil => exact member
  | tag t written rest ih =>
    rw [stripChars_tag written] at member
    exact List.mem_append_right _ (ih member)
  | kept d cs absent ih =>
    rw [stripChars_cons absent] at member
    rcases List.mem_cons.mp member with rfl | later
    · exact List.mem_cons_self
    · exact List.mem_cons_of_mem d (ih later)

/-- Each character that is left stands in the text, with what is left of the text behind it. -/
theorem exists_of_stripChars_eq (left : stripChars cs = before ++ d :: more) :
    ∃ rest, d :: rest <:+ cs ∧ stripChars rest = more ∧ ¬Begins (d :: rest) := by
  induction cs using scan_induction generalizing before with
  | nil => exact absurd left.symm (List.append_ne_nil_of_right_ne_nil _ (List.cons_ne_nil _ _))
  | tag t written rest ih =>
    rw [stripChars_tag written] at left
    obtain ⟨tail, behind, same⟩ := ih left
    exact ⟨tail, behind.trans (List.suffix_append _ _), same⟩
  | kept c cs absent ih =>
    rw [stripChars_cons absent] at left
    cases before with
    | nil =>
      obtain ⟨rfl, same⟩ := List.cons.inj left
      exact ⟨cs, List.suffix_rfl, same, absent⟩
    | cons b before =>
      obtain ⟨tail, behind, same⟩ := ih (List.cons.inj left).2
      exact ⟨tail, behind.trans (List.suffix_cons c cs), same⟩

theorem breaksName_cons (whole : breaksName (c :: cs) = false) :
    ¬Begins (c :: cs) ∧ (isNameChar c = true → breaksName cs = false) := by
  simp only [breaksName, Bool.or_eq_false_iff, Option.isSome_eq_false_iff, Option.isNone_iff_eq_none,
    Bool.and_eq_false_iff] at whole
  obtain ⟨⟨absent, -⟩, inside⟩ := whole
  exact ⟨at?_eq_none.mp absent, fun capital => inside.resolve_left (by simp [capital])⟩

/-- Characters of a name that are left stand in the text as they are, unless the name is interrupted. -/
theorem eq_append_of_stripChars_eq (whole : breaksName cs = false)
    (capitals : ∀ c ∈ name, isNameChar c = true) (left : stripChars cs = name ++ d :: more) :
    ∃ rest, cs = name ++ d :: rest ∧ stripChars rest = more ∧ ¬Begins (d :: rest) := by
  induction name generalizing cs with
  | nil =>
    cases cs with
    | nil => exact absurd left (List.cons_ne_nil _ _).symm
    | cons c cs =>
      obtain ⟨absent, -⟩ := breaksName_cons whole
      rw [stripChars_cons absent] at left
      obtain ⟨rfl, same⟩ := List.cons.inj left
      exact ⟨cs, rfl, same, absent⟩
  | cons n name ih =>
    cases cs with
    | nil => exact absurd left (List.cons_ne_nil _ _).symm
    | cons c cs =>
      obtain ⟨absent, inside⟩ := breaksName_cons whole
      obtain ⟨capital, later⟩ := List.forall_mem_cons.mp capitals
      rw [stripChars_cons absent] at left
      obtain ⟨rfl, same⟩ := List.cons.inj left
      obtain ⟨rest, rfl, kept⟩ := ih (inside capital) later same
      exact ⟨rest, rfl, kept⟩

theorem goesOn_name (capitals : ∀ c ∈ name, isNameChar c = true) :
    goesOn (name ++ ':' :: more) = true := by
  rw [goesOn, List.dropWhile_append_of_pos capitals,
    List.dropWhile_cons_of_neg (by simp [isNameChar_colon])]
  rfl

/-- Where no name is interrupted, stripping leaves no tag. -/
theorem free_stripChars (whole : isInterrupted cs = false) : Free (stripChars cs) := by
  rw [free_iff]
  intro tail behind here
  obtain ⟨name, segment, rest, named, capitals, filled, unclosed, rfl⟩ := begins_iff.mp here
  obtain ⟨before, same⟩ := behind
  -- The bracket of such a tag stands in the text, and so does its name up to the colon.
  obtain ⟨tail, within, left, absent⟩ := exists_of_stripChars_eq same.symm
  have uncut := isInterrupted_of_suffix within whole
  have onward : resumes tail = true := by
    rw [resumes, left, goesOn_name capitals, Bool.true_or]
  rw [onward, Bool.and_true] at uncut
  obtain ⟨more, rfl, inside, -⟩ := eq_append_of_stripChars_eq uncut capitals left
  have closed : ']' ∈ more := mem_of_mem_stripChars (by simp [inside])
  -- So a tag has begun there before, unless its segment was empty, and that it cannot become.
  refine absent (begins_of_mem named capitals closed fun empty => ?_)
  obtain ⟨x, segment, rfl⟩ := List.exists_cons_of_ne_nil filled
  cases more with
  | nil => cases empty
  | cons e more =>
    obtain rfl := Option.some.inj empty
    have bracket : ¬Begins (']' :: more) := by
      intro begun
      obtain ⟨_, _, _, -, -, -, -, other⟩ := begins_iff.mp begun
      cases other
    rw [stripChars_cons bracket] at inside
    obtain ⟨rfl, -⟩ := List.cons.inj inside
    exact unclosed List.mem_cons_self

/-! ### Cutting out reasoning -/

theorem breaksName_append (capitals : ∀ c ∈ name, isNameChar c = true)
    (opens : opensWith opening.toList (stripChars (d :: rest)) = true) :
    breaksName (name ++ d :: rest) = true := by
  induction name with
  | nil => simp only [List.nil_append, breaksName, opens, Bool.or_true, Bool.true_or]
  | cons c name ih =>
    obtain ⟨capital, later⟩ := List.forall_mem_cons.mp capitals
    simp only [List.cons_append, breaksName, ih later, capital, Bool.and_true, Bool.or_true]

/-- A name that is cut through by reasoning goes on behind it, whatever comes at the end of the text. -/
theorem goesOn_unreasoned (opened : cutAt? opening.toList cs = some (before, more))
    (closed : cutAt? closing.toList more = some (thought, behind))
    (capitals : ∀ c ∈ before ++ name, isNameChar c = true)
    (next : name ++ [':'] <+: behind.dropWhile isBlank) (tail : List Char) :
    goesOn (unreasoned (cs ++ tail)) = true := by
  rw [unreasoned_eq (cutAt?_append tail opened) (cutAt?_append tail closed)]
  obtain ⟨later, next⟩ := next
  have some : (behind.dropWhile isBlank).isEmpty = false := by simp [← next]
  have going : goesOn ((before ++ name) ++ ':' :: (later ++ tail)) = true := goesOn_name capitals
  rw [List.dropWhile_append, some, ← next]
  simpa using going

theorem opening_append (rest : List Char) :
    opening.toList ++ rest = '[' :: ("COT_REASONING]".toList ++ rest) := rfl

/-- Where no name is interrupted, reasoning interrupts none in what stripping leaves. -/
theorem uncut_stripChars (whole : isInterrupted cs = false)
    (capitals : ∀ c ∈ name, isNameChar c = true)
    (behind : '[' :: (name ++ (opening.toList ++ rest)) <:+ stripChars cs) :
    goesOn (unreasoned (name ++ (opening.toList ++ rest))) = false := by
  obtain ⟨before, same⟩ := behind
  obtain ⟨tail, within, kept, -⟩ := exists_of_stripChars_eq same.symm
  have uncut := isInterrupted_of_suffix within whole
  rcases Bool.and_eq_false_iff.mp uncut with whole | idle
  · -- The mark of reasoning comes up behind the name only if the name is interrupted there.
    rw [opening_append] at kept
    obtain ⟨more, rfl, inside, absent⟩ := eq_append_of_stripChars_eq whole capitals kept
    have opens : opensWith opening.toList (stripChars ('[' :: more)) = true := by
      rw [stripChars_cons absent, inside, ← opening_append, opensWith_append]
    rw [breaksName_append capitals opens] at whole
    cases whole
  · rw [resumes, kept] at idle
    exact (Bool.or_eq_false_iff.mp idle).2

/-- A tag that is written up to its colon or further, when the mark of reasoning comes, begins there: the
mark closes it. -/
theorem begins_before_opening {t : Tag} {segment inner second : List Char} (spelled : t.Spelled segment)
    (inside : segment ++ [']'] = inner ++ second) (more : List Char) :
    Begins ('[' :: (t.name.toList ++ ':' :: (inner ++ (opening.toList ++ more)))) := by
  refine begins_of_mem spelled.named spelled.capitals ?_ ?_
  · rw [opening_append]
    simp
  · rw [opening_append]
    cases inner with
    | nil => simp
    | cons x inner =>
      obtain ⟨y, segment', rfl⟩ := List.exists_cons_of_ne_nil spelled.filled
      obtain ⟨rfl, -⟩ := List.cons.inj inside
      rintro ⟨⟩
      exact spelled.unclosed List.mem_cons_self

/-- A tag that comes together where reasoning is cut out was begun in front of it: with a colon, and then
it was a tag before, or in the middle of its name. -/
theorem free_cut (free : Free cs) (opened : cutAt? opening.toList cs = some (before, more))
    (closed : cutAt? closing.toList more = some (thought, behind)) (tail : List Char)
    (uncut : ∀ name rest, (∀ c ∈ name, isNameChar c = true) →
      '[' :: (name ++ (opening.toList ++ rest)) <:+ cs ++ tail →
        goesOn (unreasoned (name ++ (opening.toList ++ rest))) = false) :
    Free (before ++ behind.dropWhile isBlank) := by
  have same := eq_append_of_cutAt? opened
  have front : before <:+: cs := same ▸ (List.prefix_append _ _).isInfix
  have back : behind.dropWhile isBlank <:+: cs := by
    rw [same, eq_append_of_cutAt? closed]
    simp only [← List.append_assoc]
    exact ((List.dropWhile_suffix isBlank).trans (List.suffix_append _ _)).isInfix
  intro t written present
  rcases List.infix_append_iff.mp present with here | there | ⟨first, second, parts, ends, begins⟩
  · exact free t written (here.trans front)
  · exact free t written (there.trans back)
  obtain ⟨segment, spelled⟩ := written
  rw [spelled.raw] at parts
  cases first with
  | nil => exact free t ⟨segment, spelled⟩ (by
      rw [spelled.raw, parts]
      exact begins.isInfix.trans back)
  | cons b first =>
    obtain ⟨rfl, rest⟩ := List.cons.inj parts
    obtain ⟨ahead, rfl⟩ := ends
    have split : cs = ahead ++ '[' :: (first ++ (opening.toList ++ more)) := by
      rw [same, List.append_assoc]
      rfl
    have onward : '[' :: (first ++ (opening.toList ++ more)) <:+ cs := ⟨ahead, split.symm⟩
    -- The name goes on behind the reasoning, if it is the name that is cut through.
    have torn : ∀ inner, t.name.toList = first ++ inner → ¬ inner ++ [':'] <+: second := by
      intro inner named next
      have opened : cutAt? opening.toList (first ++ (opening.toList ++ more)) = some (first, more) := by
        have whole : cutAt? opening.toList ((ahead ++ ['[']) ++ (first ++ (opening.toList ++ more))) =
            some ((ahead ++ ['[']) ++ first, more) := by
          rw [List.append_assoc, List.append_assoc]
          exact split ▸ opened
        exact cutAt?_of_append whole
      have going := goesOn_unreasoned opened closed (named ▸ spelled.capitals) (next.trans begins) tail
      have whole := uncut first (more ++ tail)
        (fun c member => spelled.capitals c (named ▸ List.mem_append_left inner member))
        ⟨ahead, by simp [split]⟩
      rw [← List.append_assoc, ← List.append_assoc, List.append_assoc first, going] at whole
      cases whole
    rcases List.append_eq_append_iff.mp rest with ⟨inner, rfl, last⟩ | ⟨inner, whole, last⟩
    · cases inner with
      | nil => exact torn [] (by simp) ⟨segment ++ [']'], by simpa using last⟩
      | cons colon inner =>
        obtain ⟨rfl, inside⟩ := List.cons.inj last
        have begun := begins_before_opening spelled inside more
        rw [List.append_assoc] at onward
        exact free_iff.mp free _ onward begun
    · exact torn inner whole ⟨segment ++ [']'], by simp [last]⟩

/-! ### The whole of it -/

theorem exists_trimChars (cs : List Char) : ∃ tail, trimChars cs ++ tail <:+ cs := by
  have front : trimEndChars (cs.dropWhile isBlank) <+: cs.dropWhile isBlank := by
    rw [trimEndChars, ← List.reverse_suffix, List.reverse_reverse]
    exact List.dropWhile_suffix isBlank
  obtain ⟨tail, same⟩ := front
  exact ⟨tail, same ▸ List.dropWhile_suffix isBlank⟩

theorem Free.trimChars (h : Free cs) : Free (trimChars cs) := by
  obtain ⟨tail, within⟩ := exists_trimChars cs
  exact h.mono ((List.prefix_append _ tail).isInfix.trans within.isInfix)

theorem toList_trim (text : String) : (trim text).toList = Text.trimChars text.toList := by
  rw [trim, String.toList_ofList]

theorem Free.split {text : String} (h : Free text.toList) (tail : List Char)
    (uncut : ∀ name rest, (∀ c ∈ name, isNameChar c = true) →
      '[' :: (name ++ (opening.toList ++ rest)) <:+ text.toList ++ tail →
        goesOn (unreasoned (name ++ (opening.toList ++ rest))) = false) :
    Free (Reasoning.split text).1.toList := by
  rw [Reasoning.split]
  split
  · exact h
  rename_i before more opened
  split
  · exact h
  rename_i thought behind closed
  rw [String.toList_ofList]
  exact free_cut h opened closed tail uncut

/-- Where no name is interrupted, no tag is left in the text without tags and reasoning. -/
theorem untagged_trim_split {text : String} (whole : isInterrupted text.toList = false) :
    Untagged (trim (Reasoning.split (trim (strip text))).1) := by
  have stripped : Free (trim (strip text)).toList := by
    rw [toList_trim, toList_strip]
    exact (free_stripChars whole).trimChars
  obtain ⟨tail, within⟩ := exists_trimChars (stripChars text.toList)
  rw [← toList_strip, ← toList_trim, toList_strip] at within
  refine untagged_of_free ?_
  rw [toList_trim]
  refine (stripped.split tail fun name rest capitals cut => ?_).trimChars
  exact uncut_stripChars whole capitals (cut.trans within)

end Gamebook.Tag
