import Mathlib.Data.List.TakeWhile
import Gamebook.Proofs.Keyed
import Gamebook.Proofs.Text.Scan
import Gamebook.Tag.Attribute

/-!
Attributes as they are written. The matcher of pairs finds just the pairs of a key and a value that
may be written, so a scan takes a body of such pairs apart again, pair by pair, whatever stands
between quotes. The map of what was found has the keys as they first come, each with its last value.
Nothing that is found in any text has a reading that fails.
-/

namespace Gamebook.Attribute

open Text

/-! ### Written pairs -/

/-- A value as a body may have it: in quotes, with no quote inside, or bare, without blanks, quotes
and closing brackets. -/
inductive WrittenValue where
  | quoted (raw : List Char) (plain : '"' ∉ raw)
  | bare (raw : List Char) (filled : raw ≠ []) (plain : ∀ c ∈ raw, isBareChar c = true)

namespace WrittenValue

/-- The value without its quotes. -/
def raw : WrittenValue → List Char
  | quoted raw _ => raw
  | bare raw _ _ => raw

def chars : WrittenValue → List Char
  | quoted raw _ => '"' :: (raw ++ ['"'])
  | bare raw _ _ => raw

/-- Whether a value ends where some characters follow it: a bare one goes on as far as it can. -/
def EndsBefore : WrittenValue → List Char → Prop
  | quoted .., _ => True
  | bare .., rest => ∀ c, rest.head? = some c → isBareChar c = false

end WrittenValue

/-- A pair as a body may have it. -/
structure WrittenPair where
  key : List Char
  value : WrittenValue
  named : key ≠ []
  plain : ∀ c ∈ key, isKeyChar c = true

namespace WrittenPair

def chars (p : WrittenPair) : List Char := p.key ++ '=' :: p.value.chars

/-- The key as it is read. -/
def name (p : WrittenPair) : String := String.ofList p.key

/-- The value as it is read. -/
def raw (p : WrittenPair) : String := String.ofList p.value.raw

end WrittenPair

/-- Bodies made of pairs with one blank or more between them. -/
inductive Body : List WrittenPair → List Char → Prop
  | empty : Body [] []
  | last (p : WrittenPair) : Body [p] p.chars
  | more (p : WrittenPair) {q : WrittenPair} {rest : List WrittenPair} {gap cs : List Char}
    (apart : gap ≠ []) (blank : ∀ c ∈ gap, isBlank c = true) (behind : Body (q :: rest) cs) :
    Body (p :: q :: rest) (p.chars ++ (gap ++ cs))

/-! ### Reading a pair -/

variable {cs rest raw : List Char} {n : Nat} {entry : String × String}

theorem isKeyChar_equals : isKeyChar '=' = false := by decide

theorem valueAt?_eq_some : valueAt? cs = some (raw, n) ↔ ∃ v : WrittenValue, v.raw = raw ∧
    n = v.chars.length ∧ ∃ rest, cs = v.chars ++ rest ∧ v.EndsBefore rest := by
  constructor
  · intro found
    rw [valueAt?.eq_def] at found
    split at found
    · rename_i inner
      dsimp only at found
      split_ifs at found with unclosed
      obtain ⟨rfl, rfl⟩ := Prod.mk.inj (Option.some.inj found)
      obtain ⟨d, rest, closing⟩ := List.exists_cons_of_ne_nil (mt List.isEmpty_iff.mpr unclosed)
      have quote := List.head?_dropWhile_not (· != '"') inner
      rw [closing, List.head?_cons] at quote
      obtain rfl : d = '"' := by simpa using quote
      refine ⟨.quoted (inner.takeWhile (· != '"')) fun inside => ?_, rfl, ?_, rest, ?_, trivial⟩
      · simpa using List.mem_takeWhile_imp inside
      · simp [WrittenValue.chars]
      · have split := List.takeWhile_append_dropWhile (p := (· != '"')) (l := inner)
        rw [closing] at split
        simp [WrittenValue.chars, split]
    · dsimp only at found
      split_ifs at found with none
      obtain ⟨rfl, rfl⟩ := Prod.mk.inj (Option.some.inj found)
      refine ⟨.bare (cs.takeWhile isBareChar) (by simpa using none)
        fun c inside => List.mem_takeWhile_imp inside, rfl, rfl, cs.dropWhile isBareChar,
        List.takeWhile_append_dropWhile.symm, fun c first => ?_⟩
      have stop := List.head?_dropWhile_not isBareChar cs
      rw [first] at stop
      exact stop
  · rintro ⟨v, rfl, rfl, rest, rfl, ends⟩
    cases v with
    | quoted raw plain =>
      have inside : ∀ c ∈ raw, (c != '"') = true := fun c member =>
        bne_iff_ne.mpr fun quote => plain (quote ▸ member)
      simp [WrittenValue.chars, WrittenValue.raw, valueAt?, List.takeWhile_append_of_pos inside,
        List.dropWhile_append_of_pos inside]
    | bare raw filled plain =>
      have stop : rest.takeWhile isBareChar = [] := by
        cases rest with
        | nil => rfl
        | cons c rest => exact List.takeWhile_cons_of_neg (by simpa using ends c rfl)
      have unquoted : ∀ more, raw ++ rest ≠ '"' :: more := by
        intro more quote
        obtain ⟨c, raw, rfl⟩ := List.exists_cons_of_ne_nil filled
        obtain ⟨rfl, -⟩ := List.cons.inj quote
        exact absurd (plain '"' List.mem_cons_self) (by decide)
      rw [WrittenValue.chars, WrittenValue.raw, valueAt?]
      · rw [List.takeWhile_append_of_pos plain, stop, List.append_nil,
          if_neg (by simpa using filled)]
      · exact fun more quote => unquoted more quote

theorem pairAt?_eq_some : pairAt? cs = some (entry, n) ↔ ∃ p : WrittenPair,
    (p.name, p.raw) = entry ∧ n = p.chars.length ∧
      ∃ rest, cs = p.chars ++ rest ∧ p.value.EndsBefore rest := by
  constructor
  · intro found
    rw [pairAt?] at found
    dsimp only at found
    split at found
    · rename_i behind assigned
      split_ifs at found with unnamed
      obtain ⟨⟨raw, length⟩, read, made⟩ := Option.map_eq_some_iff.mp found
      obtain ⟨v, rfl, rfl, rest, rfl, ends⟩ := valueAt?_eq_some.mp read
      obtain ⟨rfl, rfl⟩ := Prod.mk.inj made
      refine ⟨⟨cs.takeWhile isKeyChar, v, by simpa using unnamed,
        fun c inside => List.mem_takeWhile_imp inside⟩, rfl, ?_, rest, ?_, ends⟩
      · simp [WrittenPair.chars]
        omega
      · have split := List.takeWhile_append_dropWhile (p := isKeyChar) (l := cs)
        rw [assigned] at split
        simp [WrittenPair.chars, split]
    · cases found
  · rintro ⟨p, rfl, rfl, rest, rfl, ends⟩
    have read : valueAt? (p.value.chars ++ rest) = some (p.value.raw, p.value.chars.length) :=
      valueAt?_eq_some.mpr ⟨p.value, rfl, rfl, rest, rfl, ends⟩
    have key : (p.chars ++ rest).takeWhile isKeyChar = p.key := by
      simp [WrittenPair.chars, List.takeWhile_append_of_pos p.plain, isKeyChar_equals]
    have behind : (p.chars ++ rest).dropWhile isKeyChar = '=' :: (p.value.chars ++ rest) := by
      simp [WrittenPair.chars, List.dropWhile_append_of_pos p.plain, isKeyChar_equals]
    rw [pairAt?, behind, key]
    change (if p.key.isEmpty = true then none else _) = _
    rw [if_neg (by simpa using p.named), read]
    have size : p.key.length + 1 + p.value.chars.length = p.chars.length := by
      simp [WrittenPair.chars]
      omega
    rw [Option.map_some]
    exact congrArg (fun size => some ((p.name, p.raw), size)) size

/-! ### Scanning a body -/

theorem isKeyChar_of_isBlank {c : Char} (blank : isBlank c = true) : isKeyChar c = false := by
  rw [Bool.eq_false_iff]
  intro key
  have within {low high : Char} (above : low.val ≤ c.val) (below : c.val ≤ high.val)
      (range : 48 ≤ low.toNat ∧ high.toNat ≤ 122) : 48 ≤ c.toNat ∧ c.toNat ≤ 122 :=
    ⟨Nat.le_trans range.1 (UInt32.le_iff_toNat_le.mp above),
      Nat.le_trans (UInt32.le_iff_toNat_le.mp below) range.2⟩
  -- The characters of keys lie between the first digit and the last letter, where no blank is.
  have code : 48 ≤ c.toNat ∧ c.toNat ≤ 122 := by
    rcases (Bool.or_eq_true _ _).mp key with alphanumeric | underscore
    · rcases (Bool.or_eq_true _ _).mp alphanumeric with letter | digit
      · rcases (Bool.or_eq_true _ _).mp letter with upper | lower
        · obtain ⟨above, below⟩ := of_decide_eq_true upper
          exact within above below (by decide)
        · obtain ⟨above, below⟩ := (Bool.and_eq_true _ _).mp lower
          exact within (of_decide_eq_true above) (of_decide_eq_true below) (by decide)
      · obtain ⟨above, below⟩ := (Bool.and_eq_true _ _).mp digit
        exact within (of_decide_eq_true above) (of_decide_eq_true below) (by decide)
    · obtain rfl := beq_iff_eq.mp underscore
      decide
  simp only [isBlank, Bool.or_eq_true, Bool.and_eq_true, decide_eq_true_eq, beq_iff_eq] at blank
  omega

theorem pairAt?_blank {c : Char} (blank : isBlank c = true) (cs : List Char) :
    pairAt? (c :: cs) = none := by
  have outside := isKeyChar_of_isBlank blank
  have other : c ≠ '=' := by
    rintro rfl
    exact absurd blank (by decide)
  rw [pairAt?, List.dropWhile_cons_of_neg (by simp [outside])]
  split
  · rename_i rest assigned
    exact absurd (List.cons.inj assigned).1 other
  · rfl

theorem findAll_gap {gap : List Char} (blank : ∀ c ∈ gap, isBlank c = true) (cs : List Char) :
    findAll pairAt? (gap ++ cs) = findAll pairAt? cs := by
  induction gap with
  | nil => rfl
  | cons c gap ih =>
    obtain ⟨first, later⟩ := List.forall_mem_cons.mp blank
    rw [List.cons_append, findAll_cons_of_none (pairAt?_blank first _), ih later]

theorem findAll_pair (p : WrittenPair) (ends : p.value.EndsBefore rest) :
    findAll pairAt? (p.chars ++ rest) = (p.name, p.raw) :: findAll pairAt? rest := by
  have size : p.chars.length = (p.key.length + p.value.chars.length) + 1 := by
    simp [WrittenPair.chars]
    omega
  have here : pairAt? (p.chars ++ rest) =
      some ((p.name, p.raw), (p.key.length + p.value.chars.length) + 1) :=
    pairAt?_eq_some.mpr ⟨p, rfl, size.symm, rest, rfl, ends⟩
  rw [findAll_of_some here (by rw [List.length_append]; omega), List.drop_left' size]

theorem WrittenValue.endsBefore_nil (v : WrittenValue) : v.EndsBefore [] := by
  cases v with
  | quoted => trivial
  | bare => exact nofun

theorem WrittenValue.endsBefore_gap (v : WrittenValue) {gap : List Char} (apart : gap ≠ [])
    (blank : ∀ c ∈ gap, isBlank c = true) (cs : List Char) : v.EndsBefore (gap ++ cs) := by
  cases v with
  | quoted => trivial
  | bare =>
    obtain ⟨b, gap, rfl⟩ := List.exists_cons_of_ne_nil apart
    intro c first
    obtain rfl : b = c := Option.some.inj first
    rw [isBareChar, blank b List.mem_cons_self]
    rfl

theorem findAll_body {pairs : List WrittenPair} (body : Body pairs cs) :
    findAll pairAt? cs = pairs.map fun p => (p.name, p.raw) := by
  induction body with
  | empty => rfl
  | last p =>
    have alone := findAll_pair p p.value.endsBefore_nil
    rwa [List.append_nil] at alone
  | more p apart blank behind ih =>
    rw [findAll_pair p (p.value.endsBefore_gap apart blank _), findAll_gap blank, ih]
    rfl

/-! ### Reading a body -/

/-- What the text behind a key is read as. Under a key for numbers, a text that spells none is kept
as it is, whatever the fault, and so is one that spells a number that is not finite. -/
inductive Reads (key raw : String) : Value → Prop
  | truth (kind : key ∈ booleanKeys) : Reads key raw (.bool (lower raw == "true"))
  | objectives (kind : key = "objectives") :
    Reads key raw (.list ((objectivesOf raw).map .objective))
  | whole {i : Int} (kind : key ∈ numericKeys) (spelled : Numeral.int (trim raw) = .ok i) :
    Reads key raw (.int i)
  | double {fault : Numeral.Fault} {x : Double} (kind : key ∈ numericKeys)
    (refused : Numeral.int (trim raw) = .error fault)
    (spelled : Numeral.double? (trim raw) = some x) (finite : x.isFinite = true) :
    Reads key raw (.float x)
  | unread {fault : Numeral.Fault} (kind : key ∈ numericKeys)
    (refused : Numeral.int (trim raw) = .error fault)
    (unfit : ∀ x, Numeral.double? (trim raw) = some x → x.isFinite = false) :
    Reads key raw (.text raw)
  | text (kind : key ∉ booleanKeys ∧ key ≠ "objectives" ∧ key ∉ numericKeys) :
    Reads key raw (.text raw)

theorem coerce_reads (key raw : String) : Reads key raw (coerce key raw) := by
  rw [coerce]
  split_ifs with truth objectives numeric
  · exact .truth truth
  · exact .objectives objectives
  · rw [toNumber?]
    cases whole : Numeral.int (trim raw) with
    | ok i => exact .whole numeric whole
    | error fault =>
      cases double : Numeral.double? (trim raw) with
      | none => exact .unread numeric whole (by simp [double])
      | some x =>
        dsimp only
        split_ifs with finite
        · exact .double numeric whole double finite
        · exact .unread numeric whole (by simpa [double] using finite)
  · exact .text ⟨truth, objectives, numeric⟩

/-- A body of pairs is read as their keys in the order in which they first come, each with what its
last value says; and what is read from any text at all is a pair that stands in it. -/
theorem parse_reads :
    (∀ (pairs : List WrittenPair) (cs : List Char), Body pairs cs →
      (parse (String.ofList cs)).keys = (pairs.map WrittenPair.name).eraseDups ∧
      ∀ key, (parse (String.ofList cs)).get? key =
        (pairs.filter fun p => p.name = key).getLast?.map fun p => coerce key p.raw) ∧
    ∀ (text key : String) (v : Value), (key, v) ∈ parse text →
      ∃ p : WrittenPair, p.chars <:+: text.toList ∧ p.name = key ∧ Reads key p.raw v := by
  constructor
  · intro pairs cs body
    have read : parse (String.ofList cs) =
        Keyed.ofPairs (pairs.map fun p => (p.name, coerce p.name p.raw)) := by
      rw [parse, String.toList_ofList, findAll_body body, List.map_map]
      rfl
    rw [read]
    constructor
    · rw [Keyed.keys_ofPairs, List.map_map]
      rfl
    · intro key
      rw [Keyed.get?_ofPairs, List.filter_map, List.getLast?_map, Option.map_map]
      refine Option.map_congr fun p last => ?_
      obtain rfl := of_decide_eq_true (List.mem_filter.mp (List.mem_of_getLast? last)).2
      rfl
  · intro text key v member
    obtain ⟨entry, found, same⟩ := List.mem_map.mp (Keyed.mem_ofPairs member)
    obtain ⟨rest, n, behind, here⟩ := exists_of_mem_findFrom found
    obtain ⟨p, rfl, -, more, rfl, -⟩ := pairAt?_eq_some.mp here
    obtain ⟨rfl, rfl⟩ := Prod.mk.inj same
    exact ⟨p, (List.prefix_append _ _).isInfix.trans behind.isInfix, rfl, coerce_reads _ _⟩

/-- Pairs with a value that looks like a pair itself and a key that comes twice. -/
def swordPairs : List WrittenPair :=
  [⟨"name".toList, .quoted "Kiếm damage=9".toList (by decide), by decide, List.all_eq_true.mp rfl⟩,
    ⟨"damage".toList, .bare "1_2".toList (by decide) (List.all_eq_true.mp rfl), by decide,
      List.all_eq_true.mp rfl⟩,
    ⟨"name".toList, .bare "Sword".toList (by decide) (List.all_eq_true.mp rfl), by decide,
      List.all_eq_true.mp rfl⟩]

def swordBody : String := "name=\"Kiếm damage=9\" damage=1_2\t name=Sword"

theorem swordBody_read : Body swordPairs swordBody.toList ∧
    (parse swordBody).keys = ["name", "damage"] ∧
    (parse swordBody).get? "name" = some (.text "Sword") ∧
    (parse swordBody).get? "damage" = some (.int 12) ∧
    ("damage", .int 12) ∈ parse swordBody ∧
    ∃ p : WrittenPair, p.chars <:+: swordBody.toList ∧ p.name = "damage" ∧
      Reads "damage" p.raw (.int 12) := by
  have body : Body swordPairs swordBody.toList :=
    .more _ (List.cons_ne_nil ' ' []) (List.all_eq_true.mp rfl)
      (.more _ (List.cons_ne_nil '\t' [' ']) (List.all_eq_true.mp rfl) (.last _))
  obtain ⟨keys, values⟩ := parse_reads.1 swordPairs _ body
  rw [String.ofList_toList] at keys values
  have damage : (parse swordBody).get? "damage" = some (.int 12) := by
    rw [values]
    rfl
  have member := Keyed.mem_of_get? damage
  refine ⟨body, ?_, ?_, damage, member, parse_reads.2 _ _ _ member⟩
  · rw [keys]
    decide +kernel
  · rw [values]
    rfl

end Gamebook.Attribute
