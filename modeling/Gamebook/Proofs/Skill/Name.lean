import Mathlib.Data.List.DropRight
import Mathlib.Data.List.Find
import Mathlib.Data.List.TakeWhile
import Gamebook.Proofs.Text.Scan
import Gamebook.Skill.Name

/-!
Names of skills in different spellings. The base name depends on the spelling alone: the name in small
letters, with one space for each run of blanks. The rank depends on the blanks inside the mastery words
as well, for they are only read where a single space stands; blanks around the name matter for neither.
Blanks have no small form of their own and end a word, so they change nothing about the small forms
around them.
-/

namespace Gamebook.Text

variable {b c : Char} {before cs needle post : List Char}

/-- The codes of the blanks. -/
def blankCodes : List Nat :=
  [9, 10, 11, 12, 13, 28, 29, 30, 31, 32, 0x85, 0xA0, 0x1680, 0x2000, 0x2001, 0x2002, 0x2003, 0x2004,
    0x2005, 0x2006, 0x2007, 0x2008, 0x2009, 0x200A, 0x2028, 0x2029, 0x202F, 0x205F, 0x3000]

theorem mem_blankCodes (blank : isBlank b = true) : b.toNat ∈ blankCodes := by
  simp only [isBlank, Bool.or_eq_true, Bool.and_eq_true, decide_eq_true_eq, beq_iff_eq] at blank
  simp only [blankCodes, List.mem_cons, List.not_mem_nil, or_false]
  omega

theorem blankCodes_caseless : ∀ n ∈ blankCodes, inSpans n caseNeutralSpans = false ∧
    inSpans n casedSpans = false ∧ shiftBy (capitalRuns (n / 256)) n = n ∧
    n ≠ 'Σ'.toNat ∧ n ≠ 'İ'.toNat := by
  decide +kernel

/-! ### Small forms -/

/-- A blank ends a word on either side. -/
theorem casedNeighbour_blank (blank : isBlank b = true) (cs : List Char) :
    casedNeighbour (b :: cs) = false := by
  obtain ⟨neutral, cased, -⟩ := blankCodes_caseless _ (mem_blankCodes blank)
  rw [casedNeighbour, neutral, cased]
  rfl

theorem casedNeighbour_append (blank : ∀ b ∈ post, isBlank b = true) :
    casedNeighbour (cs ++ post) = casedNeighbour cs := by
  induction cs with
  | nil =>
    cases post with
    | nil => rfl
    | cons b post => exact casedNeighbour_blank (blank b List.mem_cons_self) post
  | cons c cs ih => rw [List.cons_append, casedNeighbour, casedNeighbour, ih]

theorem smallAt_blank (blank : isBlank b = true) (before after : List Char) :
    smallAt before b after = [b] := by
  obtain ⟨-, -, kept, sigma, dotted⟩ := blankCodes_caseless _ (mem_blankCodes blank)
  have other : ∀ c : Char, b.toNat ≠ c.toNat → (b == c) = false := fun c apart =>
    beq_eq_false_iff_ne.mpr fun same => apart (congrArg Char.toNat same)
  rw [smallAt, other _ sigma, other _ dotted, smallLetter, other _ dotted, kept]
  simp

/-- Only whether a word goes on matters of what stands before. -/
theorem lowerAfter_congr {before other : List Char}
    (same : casedNeighbour before = casedNeighbour other) :
    lowerAfter before cs = lowerAfter other cs := by
  induction cs generalizing before other with
  | nil => rfl
  | cons c cs ih =>
    have next : casedNeighbour (c :: before) = casedNeighbour (c :: other) := by
      rw [casedNeighbour, casedNeighbour, same]
    rw [lowerAfter, lowerAfter, ih next, smallAt, smallAt, same]

theorem lowerAfter_blanks (blank : ∀ b ∈ post, isBlank b = true) :
    lowerAfter before post = post := by
  induction post generalizing before with
  | nil => rfl
  | cons b post ih =>
    rw [lowerAfter, smallAt_blank (blank b List.mem_cons_self),
      ih fun c member => blank c (List.mem_cons_of_mem b member)]
    rfl

theorem lowerAfter_append (blank : ∀ b ∈ post, isBlank b = true) :
    lowerAfter before (cs ++ post) = lowerAfter before cs ++ post := by
  induction cs generalizing before with
  | nil => exact lowerAfter_blanks blank
  | cons c cs ih =>
    rw [List.cons_append, lowerAfter, lowerAfter, ih, List.append_assoc, smallAt, smallAt,
      casedNeighbour_append blank]

theorem lowerAfter_front {pre : List Char} (front : ∀ b ∈ pre, isBlank b = true)
    (start : casedNeighbour before = false) : lowerAfter before (pre ++ cs) = pre ++ lowerChars cs := by
  induction pre generalizing before with
  | nil => exact lowerAfter_congr start
  | cons b pre ih =>
    have blank := front b List.mem_cons_self
    rw [List.cons_append, lowerAfter, smallAt_blank blank,
      ih (fun c member => front c (List.mem_cons_of_mem b member)) (casedNeighbour_blank blank before)]
    rfl

theorem lowerChars_append {pre : List Char} (front : ∀ b ∈ pre, isBlank b = true)
    (back : ∀ b ∈ post, isBlank b = true) :
    lowerChars (pre ++ (cs ++ post)) = pre ++ (lowerChars cs ++ post) := by
  rw [lowerChars, lowerAfter_front front rfl, lowerChars, lowerAfter_append back]
  rfl

/-! ### Collapsing -/

theorem dropWhile_collapse_cons (blank : isBlank b = true) (cs : List Char) :
    (collapseChars (b :: cs)).dropWhile isBlank = (collapseChars cs).dropWhile isBlank := by
  have space : isBlank ' ' = true := by decide
  cases cs with
  | nil => simp [collapseChars, blank, space]
  | cons c cs =>
    rw [collapseChars, if_pos blank]
    split_ifs
    · rfl
    · rw [List.dropWhile_cons_of_pos space]

theorem dropWhile_collapse {pre : List Char} (front : ∀ b ∈ pre, isBlank b = true) :
    (collapseChars (pre ++ cs)).dropWhile isBlank = (collapseChars cs).dropWhile isBlank := by
  induction pre with
  | nil => rfl
  | cons b pre ih =>
    rw [List.cons_append, dropWhile_collapse_cons (front b List.mem_cons_self)]
    exact ih fun c member => front c (List.mem_cons_of_mem b member)

/-- A blank behind the characters is left out, or leaves one space. -/
theorem collapse_concat (blank : isBlank b = true) (cs : List Char) :
    collapseChars (cs ++ [b]) = collapseChars cs ∨
      collapseChars (cs ++ [b]) = collapseChars cs ++ [' '] := by
  induction cs with
  | nil => exact .inr (by simp [collapseChars, blank])
  | cons c cs ih =>
    cases cs with
    | nil => by_cases here : isBlank c = true <;> simp [collapseChars, blank, here]
    | cons d cs =>
      rw [List.cons_append] at ih
      rw [List.cons_append, List.cons_append, collapseChars, collapseChars]
      split_ifs
      · exact ih
      · exact ih.imp (congrArg (' ' :: ·)) (congrArg (' ' :: ·))
      · exact ih.imp (congrArg (c :: ·)) (congrArg (c :: ·))

theorem collapseChars_cons (visible : isBlank c = false) (cs : List Char) :
    collapseChars (c :: cs) = c :: collapseChars cs := by
  cases cs <;> simp [collapseChars, visible]

/-- A visible character ends every run of blanks before it. -/
theorem collapseChars_append (visible : isBlank c = false) (cs post : List Char) :
    collapseChars (cs ++ c :: post) = collapseChars cs ++ c :: collapseChars post := by
  induction cs with
  | nil => exact collapseChars_cons visible post
  | cons b cs ih =>
    cases cs with
    | nil =>
      by_cases blank : isBlank b = true
      · simp [collapseChars, blank, visible]
      · simp [collapseChars, blank, visible]
    | cons d cs =>
      rw [List.cons_append] at ih
      rw [List.cons_append, List.cons_append, collapseChars, collapseChars]
      split_ifs
      · exact ih
      · rw [ih, List.cons_append]
      · rw [ih, List.cons_append]

theorem trimChars_concat (blank : isBlank b = true) (cs : List Char) :
    trimChars (cs ++ [b]) = trimChars cs := by
  rw [trimChars, trimChars, List.dropWhile_append]
  split_ifs with empty
  · simp [List.isEmpty_iff.mp empty, blank]
  · simp [trimEndChars, blank]

theorem trimChars_collapse_append (back : ∀ b ∈ post, isBlank b = true) :
    trimChars (collapseChars (cs ++ post)) = trimChars (collapseChars cs) := by
  induction post generalizing cs with
  | nil => rw [List.append_nil]
  | cons b post ih =>
    rw [List.append_cons, ih fun c member => back c (List.mem_cons_of_mem b member)]
    rcases collapse_concat (back b List.mem_cons_self) cs with same | spaced
    · rw [same]
    · rw [spaced, trimChars_concat (by decide)]

theorem trimChars_collapse {pre : List Char} (front : ∀ b ∈ pre, isBlank b = true)
    (back : ∀ b ∈ post, isBlank b = true) :
    trimChars (collapseChars (pre ++ (cs ++ post))) = trimChars (collapseChars cs) := by
  rw [trimChars, dropWhile_collapse front, ← trimChars, trimChars_collapse_append back]

/-- Characters are what is left of them without outer blanks, between blanks. -/
theorem eq_blanks_trimChars (cs : List Char) : ∃ pre post : List Char,
    (∀ b ∈ pre, isBlank b = true) ∧ (∀ b ∈ post, isBlank b = true) ∧
      cs = pre ++ (trimChars cs ++ post) := by
  refine ⟨cs.takeWhile isBlank, ((cs.dropWhile isBlank).reverse.takeWhile isBlank).reverse,
    fun b member => List.mem_takeWhile_imp member,
    fun b member => List.mem_takeWhile_imp (List.mem_reverse.mp member), ?_⟩
  rw [trimChars, trimEndChars, ← List.reverse_append, List.takeWhile_append_dropWhile,
    List.reverse_reverse, List.takeWhile_append_dropWhile]

/-- What has been trimmed is not trimmed any further. -/
theorem trimChars_trimChars (cs : List Char) : trimChars (trimChars cs) = trimChars cs := by
  have front : (trimChars cs).dropWhile isBlank = trimChars cs := by
    obtain ⟨back, split⟩ : trimChars cs <+: cs.dropWhile isBlank :=
      List.rdropWhile_prefix isBlank (cs.dropWhile isBlank)
    cases trimmed : trimChars cs with
    | nil => rfl
    | cons c rest =>
      rw [trimmed] at split
      have begins : (cs.dropWhile isBlank).head? = some c := by rw [← split]; rfl
      refine List.dropWhile_cons_of_neg fun blank => ?_
      have visible := List.head?_dropWhile_not isBlank cs
      rw [begins] at visible
      exact nomatch visible.symm.trans blank
  rw [trimChars, front]
  exact List.rdropWhile_idempotent isBlank (cs.dropWhile isBlank)

theorem trim_trim (s : String) : trim (trim s) = trim s := by
  rw [trim, trim, String.toList_ofList, trimChars_trimChars]

/-! ### Occurrences -/

/-- Whether characters begin and end with something else than a blank. -/
def isSolid (cs : List Char) : Bool := cs.head?.any (!isBlank ·) && cs.getLast?.any (!isBlank ·)

/-- What begins with something else than a blank does not begin among blanks. -/
theorem infix_front {pre needle : List Char} (front : ∀ b ∈ pre, isBlank b = true)
    (solid : needle.head?.any (!isBlank ·) = true) : needle <:+: pre ++ cs ↔ needle <:+: cs := by
  induction pre with
  | nil => rfl
  | cons b pre ih =>
    obtain ⟨blank, front⟩ := List.forall_mem_cons.mp front
    rw [List.cons_append, List.infix_cons_iff, ih front]
    refine or_iff_right fun opens => ?_
    cases needle with
    | nil => exact nomatch solid
    | cons c needle =>
      obtain ⟨rfl, -⟩ := List.cons_prefix_cons.mp opens
      simp [blank] at solid

theorem infix_blanks {pre needle : List Char} (front : ∀ b ∈ pre, isBlank b = true)
    (back : ∀ b ∈ post, isBlank b = true) (solid : isSolid needle = true) :
    needle <:+: pre ++ (cs ++ post) ↔ needle <:+: cs := by
  obtain ⟨first, last⟩ := Bool.and_eq_true_iff.mp solid
  rw [infix_front front first, ← List.reverse_infix, List.reverse_append, infix_front,
    List.reverse_infix]
  · exact fun b member => back b (List.mem_reverse.mp member)
  · rwa [List.head?_reverse]

/-- What needs no collapsing itself is still there when everything is collapsed. -/
theorem infix_collapseChars (solid : isSolid needle = true) (even : collapseChars needle = needle)
    (within : needle <:+: cs) : needle <:+: collapseChars cs := by
  obtain ⟨front, back, rfl⟩ := within
  obtain ⟨first, last⟩ := Bool.and_eq_true_iff.mp solid
  obtain ⟨c, begins, visible⟩ := Option.any_eq_true _ _ |>.mp first
  obtain ⟨d, ends, visible'⟩ := Option.any_eq_true _ _ |>.mp last
  rw [Bool.not_eq_true'] at visible visible'
  -- The visible characters at both ends keep the blanks around the needle apart from those within.
  obtain ⟨inner, split⟩ := List.getLast?_eq_some_iff.mp ends
  have behind : collapseChars (needle ++ back) = needle ++ collapseChars back := by
    conv_rhs => rw [← even]
    rw [split, List.append_assoc, List.singleton_append, collapseChars_append visible',
      collapseChars_append visible']
    simp [collapseChars]
  obtain ⟨rest, split'⟩ := List.head?_eq_some_iff.mp begins
  have before : collapseChars (front ++ (needle ++ back)) =
      collapseChars front ++ collapseChars (needle ++ back) := by
    rw [split', List.cons_append, collapseChars_append visible, collapseChars_cons visible]
  rw [List.append_assoc, before, behind]
  exact ⟨collapseChars front, collapseChars back, List.append_assoc _ _ _⟩

/-- What is solid is trimmed off nowhere. -/
theorem infix_trimChars (solid : isSolid needle = true) :
    needle <:+: trimChars cs ↔ needle <:+: cs := by
  obtain ⟨front, back, blank, blank', split⟩ := eq_blanks_trimChars cs
  rw [← infix_blanks blank blank' solid, ← split]

end Gamebook.Text

namespace Gamebook.Skill

open Text

/-! ### Spellings -/

/-- A name in small letters, with one space for each run of blanks and none at its ends. -/
def spelling (name : String) : String :=
  String.ofList (trimChars (collapseChars (lowerChars name.toList)))

/-- The first group of mastery words of which a text has one. -/
def mastery? (text : String) : Option (List String × Nat) :=
  rankWords.find? fun group => occursAny group.1 text

/-- Whether a name as it stands tells the mastery that its spelling tells. -/
def isPlainlyTold (name : String) : Bool :=
  (mastery? (spelling name)).all fun group => occursAny group.1 (lower name)

/-- Whether the blanks inside a name are single spaces. -/
def isSinglySpaced (name : String) : Bool := spelling name == trim (lower name)

variable {a b name text other : String} {group : List String × Nat}

theorem spelling_trim (name : String) : spelling (trim name) = spelling name := by
  obtain ⟨pre, post, front, back, split⟩ := eq_blanks_trimChars name.toList
  rw [spelling, spelling, trim, String.toList_ofList, ← trimChars_collapse front back,
    ← lowerChars_append front back, ← split]

theorem baseName_of_spelling (same : spelling a = spelling b) : baseName a = baseName b := by
  have plain := String.ofList_injective same
  rw [baseName, baseName, baseChars, baseChars, plain]

/-- The base name of a skill does not depend on blanks around its name. -/
theorem baseName_trim (name : String) : baseName (trim name) = baseName name :=
  baseName_of_spelling (spelling_trim name)

theorem isPlaceholder_trim (name : String) : isPlaceholder (trim name) = isPlaceholder name := by
  rw [isPlaceholder, isPlaceholder, trim_trim]

/-! ### Mastery -/

theorem rankWords_solid : ∀ group ∈ rankWords, ∀ word ∈ group.1, isSolid word.toList = true := by
  decide +kernel

theorem rankWords_even : ∀ group ∈ rankWords, ∀ word ∈ group.1,
    collapseChars word.toList = word.toList := by
  decide +kernel

theorem rank_eq (name : String) : rank name = ((mastery? (lower name)).map Prod.snd).getD 0 := by
  simp only [rank, mastery?]
  split
  · next found =>
    rw [found]
    rfl
  · next absent =>
    rw [absent]
    rfl

theorem mastery?_eq_some (found : mastery? text = some group) :
    group ∈ rankWords ∧ occursAny group.1 text = true := by
  rw [mastery?] at found
  have told := List.find?_some found
  exact ⟨List.mem_of_find?_eq_some found, told⟩

theorem occursAny_mono
    (grows : ∀ word ∈ group.1, word.toList <:+: text.toList → word.toList <:+: other.toList)
    (told : occursAny group.1 text = true) : occursAny group.1 other = true := by
  obtain ⟨word, listed, here⟩ := List.any_eq_true.mp told
  rw [occurs, occursIn_iff] at here
  refine List.any_eq_true.mpr ⟨word, listed, ?_⟩
  rw [occurs, occursIn_iff]
  exact grows word listed here

theorem mastery?_congr (same : ∀ word : String, isSolid word.toList = true →
    (word.toList <:+: text.toList ↔ word.toList <:+: other.toList)) :
    mastery? text = mastery? other := by
  refine List.find?_congr fun group listed => Bool.eq_iff_iff.mpr ⟨?_, ?_⟩
  · exact occursAny_mono fun word member => (same word (rankWords_solid group listed word member)).mp
  · exact occursAny_mono fun word member => (same word (rankWords_solid group listed word member)).mpr

/-- The rank of a skill does not depend on blanks around its name either. -/
theorem rank_trim (name : String) : rank (trim name) = rank name := by
  obtain ⟨pre, post, front, back, split⟩ := eq_blanks_trimChars name.toList
  have lowered : (lower name).toList = pre ++ ((lower (trim name)).toList ++ post) := by
    simp only [lower, trim, String.toList_ofList]
    rw [← lowerChars_append front back, ← split]
  have same : mastery? (lower (trim name)) = mastery? (lower name) :=
    mastery?_congr fun word solid => by rw [lowered, infix_blanks front back solid]
  rw [rank_eq, rank_eq, same]

/-- The spelling of a name tells every mastery that the name tells. -/
theorem occursAny_spelling (listed : group ∈ rankWords)
    (told : occursAny group.1 (lower name) = true) : occursAny group.1 (spelling name) = true := by
  refine occursAny_mono (fun word member here => ?_) told
  have solid := rankWords_solid group listed word member
  rw [lower, String.toList_ofList] at here
  rw [spelling, String.toList_ofList, infix_trimChars solid]
  exact infix_collapseChars solid (rankWords_even group listed word member) here

/-- A name tells the same mastery as its spelling exactly if it tells that one plainly. -/
theorem mastery?_eq_iff :
    mastery? (lower name) = mastery? (spelling name) ↔ isPlainlyTold name = true := by
  rw [isPlainlyTold]
  cases spelled : mastery? (spelling name) with
  | none =>
    refine iff_of_true ?_ rfl
    refine List.find?_eq_none.mpr fun group listed told => ?_
    exact List.find?_eq_none.mp spelled group listed (occursAny_spelling listed told)
  | some group =>
    rw [Option.all_some]
    refine ⟨fun found => (mastery?_eq_some found).2, fun told => ?_⟩
    obtain ⟨-, before, after, split, earlier⟩ := List.find?_eq_some_iff_append.mp spelled
    refine List.find?_eq_some_iff_append.mpr ⟨told, before, after, split, fun other member => ?_⟩
    -- An earlier group that the name told would be told by the spelling too.
    have listed : other ∈ rankWords := split ▸ List.mem_append_left _ member
    rw [Bool.not_eq_true']
    refine Bool.eq_false_iff.mpr fun here => ?_
    have there := earlier other member
    rw [occursAny_spelling listed here] at there
    exact nomatch there

theorem isPlainlyTold_of_singlySpaced (single : isSinglySpaced name = true) :
    isPlainlyTold name = true := by
  rw [isPlainlyTold, beq_iff_eq.mp single]
  cases found : mastery? (trim (lower name)) with
  | none => rfl
  | some group =>
    obtain ⟨listed, told⟩ := mastery?_eq_some found
    refine occursAny_mono (fun word member here => ?_) told
    rw [trim, String.toList_ofList] at here
    exact (infix_trimChars (rankWords_solid group listed word member)).mp here

/-- Names of one spelling have one base name. They have one rank if both tell their mastery plainly, as
every name with single spaces does; next to one that does, a name that does not tells another mastery or
none. -/
theorem spelled_alike (same : spelling a = spelling b) :
    baseName a = baseName b ∧
      (isPlainlyTold a = true → isPlainlyTold b = true → rank a = rank b) ∧
      (isPlainlyTold b = true →
        (mastery? (lower a) = mastery? (lower b) ↔ isPlainlyTold a = true)) ∧
      (isSinglySpaced b = true → isPlainlyTold b = true) := by
  refine ⟨baseName_of_spelling same, ?_, ?_, isPlainlyTold_of_singlySpaced⟩
  · intro told told'
    rw [rank_eq, rank_eq, mastery?_eq_iff.mpr told, mastery?_eq_iff.mpr told', same]
  · intro told
    rw [mastery?_eq_iff.mpr told, ← same]
    exact mastery?_eq_iff

/-- Case and blanks that part no mastery word do not matter for the rank. -/
theorem sword_art_spelled :
    spelling "KIẾM\tPHÁP  Cao Cấp" = spelling " Kiếm Pháp cao cấp" ∧
      isPlainlyTold "KIẾM\tPHÁP  Cao Cấp" = true ∧ isSinglySpaced " Kiếm Pháp cao cấp" = true ∧
      rank "KIẾM\tPHÁP  Cao Cấp" = rank " Kiếm Pháp cao cấp" := by
  have same : spelling "KIẾM\tPHÁP  Cao Cấp" = spelling " Kiếm Pháp cao cấp" := by decide +kernel
  have told : isPlainlyTold "KIẾM\tPHÁP  Cao Cấp" = true := by decide +kernel
  have single : isSinglySpaced " Kiếm Pháp cao cấp" = true := by decide +kernel
  obtain ⟨-, ranks, -, plain⟩ := spelled_alike same
  exact ⟨same, told, single, ranks told (plain single)⟩

/-- Two blanks inside a mastery word hide it from the rank, but not from the base name. -/
theorem wide_mastery_unread : spelling "Kiếm Pháp cao  cấp" = spelling "Kiếm Pháp cao cấp" ∧
    baseName "Kiếm Pháp cao  cấp" = "kiếm pháp" ∧ rank "Kiếm Pháp cao  cấp" = 0 ∧
    rank "Kiếm Pháp cao cấp" = 3 := by
  refine ⟨?_, ?_, ?_, ?_⟩ <;> decide +kernel

end Gamebook.Skill
