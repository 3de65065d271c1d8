import Mathlib.Data.Finset.Card
import Mathlib.Data.Nat.Find
import Mathlib.Tactic.SplitIfs
import Gamebook.Proofs.Text.Scan
import Gamebook.ReferenceId

/-!
Reference ids. Reading takes an id apart into what it is joined from, whatever the parts are, and
refuses everything else but an id with a line end behind it. A new id is never one that is taken: ids
are drawn until one is free, and of the tokens of the supply, which all give distinct ids, one more than
are taken always suffices. So what the search ends with does not depend on the bound on its tries.
-/

namespace Gamebook

/-! ### Draws -/

/-- The token that comes after the next `n` ones. -/
def Draws.tokenAt (d : Draws) (n : Nat) : String :=
  d.tokens.getD n (d.later.token (d.issued + 1 + (n - d.tokens.length)))

theorem Draws.token_fst (d : Draws) : d.token.1 = d.tokenAt 0 := by
  obtain ⟨rolls, tokens, later, issued⟩ := d
  cases tokens <;> rfl

theorem Draws.tokenAt_next (d : Draws) (n : Nat) : d.token.2.tokenAt n = d.tokenAt (n + 1) := by
  obtain ⟨rolls, tokens, later, issued⟩ := d
  cases tokens with
  | nil => simp [token, tokenAt, Nat.add_comm, Nat.add_left_comm]
  | cons t rest => simp [token, tokenAt]

/-- Behind the prepared tokens come those of the supply. -/
theorem Draws.tokenAt_supply (d : Draws) (i : Nat) :
    d.tokenAt (d.tokens.length + i) = d.later.token (d.issued + 1 + i) := by
  simp [tokenAt, List.getD_eq_getElem?_getD]

namespace ReferenceId

variable {type category id : String} {taken : List String} {d : Draws} {found : String × Draws}
  {n tries : Nat}

/-! ### The form of an id -/

/-- Whether characters are so many of one class. -/
def Spelled (inClass : Char → Bool) (n : Nat) (cs : List Char) : Prop :=
  cs.length = n ∧ cs.all inClass = true

instance (inClass : Char → Bool) (n : Nat) (cs : List Char) : Decidable (Spelled inClass n cs) :=
  inferInstanceAs (Decidable (_ ∧ _))

theorem spelled_cons {inClass : Char → Bool} {c : Char} {cs : List Char} :
    Spelled inClass (n + 1) (c :: cs) ↔ inClass c = true ∧ Spelled inClass n cs := by
  simp [Spelled, and_left_comm]

theorem takeExactly_eq_some {inClass : Char → Bool} {cs front rest : List Char} :
    takeExactly inClass n cs = some (front, rest) ↔
      Spelled inClass n front ∧ cs = front ++ rest := by
  induction n generalizing cs front rest with
  | zero =>
    simp only [takeExactly, Option.some.injEq, Prod.mk.injEq, Spelled, List.length_eq_zero_iff]
    constructor
    · rintro ⟨rfl, rfl⟩
      simp
    · rintro ⟨⟨rfl, -⟩, rfl⟩
      simp
  | succ n ih =>
    cases cs with
    | nil =>
      refine iff_of_false nofun ?_
      rintro ⟨⟨long, -⟩, split⟩
      simp [(List.append_eq_nil_iff.mp split.symm).1] at long
    | cons c cs =>
      cases front with
      | nil => simp [takeExactly, Spelled]
      | cons d front =>
        rw [spelled_cons, List.cons_append, List.cons.injEq, takeExactly]
        split_ifs with here
        · simp only [Option.map_eq_some_iff, Prod.exists, ih, Prod.mk.injEq, List.cons.injEq]
          constructor
          · rintro ⟨_, _, ⟨spelled, rfl⟩, ⟨rfl, rfl⟩, rfl⟩
            exact ⟨⟨here, spelled⟩, rfl, rfl⟩
          · rintro ⟨⟨-, spelled⟩, rfl, rfl⟩
            exact ⟨front, rest, ⟨spelled, rfl⟩, ⟨rfl, rfl⟩, rfl⟩
        · refine iff_of_false nofun ?_
          rintro ⟨⟨there, -⟩, rfl, -⟩
          exact here there

/-- Whether parts are two letters, three letters and eight digits. -/
structure Parts.WellFormed (p : Parts) : Prop where
  type : Spelled isCapital 2 p.type.toList
  category : Spelled isCapital 3 p.category.toList
  hash : Spelled isHexDigit 8 p.hash.toList

/-- The parts joined to an id. -/
def Parts.text (p : Parts) : String := Text.join "_" ["REF", p.type, p.category, p.hash]

-- Grouped to the right, as reading takes an id apart.
theorem toList_text (p : Parts) : p.text.toList = "REF_".toList ++
    (p.type.toList ++ (['_'] ++ (p.category.toList ++ (['_'] ++ p.hash.toList)))) := by
  simp [Parts.text, Text.join, String.toList_append]

theorem eq_text_append_iff {p : Parts} {rest : List Char} :
    id = p.text ++ String.ofList rest ↔ id.toList = "REF_".toList ++
      (p.type.toList ++ (['_'] ++ (p.category.toList ++ (['_'] ++ (p.hash.toList ++ rest))))) := by
  rw [← String.toList_inj, String.toList_append, toList_text]
  simp only [List.append_assoc, String.toList_ofList]

theorem ended_iff {p : Parts} : (id = p.text ∨ id = p.text ++ "\n") ↔
    ∃ rest, (rest = [] ∨ rest = ['\n']) ∧ id = p.text ++ String.ofList rest := by
  simp only [or_and_right, exists_or, exists_eq_left, String.ofList_nil, String.append_empty]

/-- The parts of an id stand between its fixed characters, with at most a line end behind them. -/
theorem parse?_eq_some {p : Parts} :
    parse? id = some p ↔ p.WellFormed ∧ (id = p.text ∨ id = p.text ++ "\n") := by
  simp only [ended_iff, parse?, Option.bind_eq_bind, Option.bind_eq_some_iff,
    Text.afterOpening?_eq_some, Prod.exists, takeExactly_eq_some]
  constructor
  · rintro ⟨_, opening, type, _, ⟨letters, rfl⟩, _, rfl, category, _, ⟨letters', rfl⟩, _, rfl,
      hash, rest, ⟨digits, rfl⟩, last⟩
    split_ifs at last with short
    obtain rfl := Option.some.inj last
    refine ⟨⟨by simpa using letters, by simpa using letters', by simpa using digits⟩, rest, short, ?_⟩
    simpa only [eq_text_append_iff, String.toList_ofList] using opening
  · rintro ⟨⟨type, category, hash⟩, rest, short, written⟩
    refine ⟨_, eq_text_append_iff.mp written, p.type.toList, _, ⟨type, rfl⟩, _, rfl,
      p.category.toList, _, ⟨category, rfl⟩, _, rfl, p.hash.toList, rest, ⟨hash, rfl⟩, ?_⟩
    rw [if_pos short, String.ofList_toList, String.ofList_toList, String.ofList_toList]

/-- Whether a text is a well-formed id, with nothing before or behind it. -/
def IsId (id : String) : Prop := ∃ p : Parts, p.WellFormed ∧ id = p.text

theorem length_of_isId (h : IsId id) : id.toList.length = 19 := by
  obtain ⟨p, ⟨⟨type, -⟩, ⟨category, -⟩, ⟨hash, -⟩⟩, rfl⟩ := h
  simp [toList_text, type, category, hash]

theorem isValid_iff : isValid id = true ↔ IsId id ∨ ∃ stem, IsId stem ∧ id = stem ++ "\n" := by
  simp only [isValid, Option.isSome_iff_exists, parse?_eq_some, and_or_left, exists_or, IsId]
  refine or_congr_right ?_
  constructor
  · rintro ⟨p, formed, rfl⟩
    exact ⟨p.text, ⟨p, formed, rfl⟩, rfl⟩
  · rintro ⟨_, ⟨p, formed, rfl⟩, rfl⟩
    exact ⟨p, formed, rfl⟩

/-- What is read as an id is one, or one with a line end behind it, and its parts are those that join to
it. So reading accepts the ids and gives them back, but for texts of the second kind. -/
theorem parse?_reads (id : String) :
    (isValid id = true ↔ IsId id ∨ ∃ stem, IsId stem ∧ id = stem ++ "\n") ∧
      (∀ p, parse? id = some p ↔ p.WellFormed ∧ (id = p.text ∨ id = p.text ++ "\n")) ∧
      (((isValid id = true ↔ IsId id) ∧ ∀ p, parse? id = some p → p.text = id) ↔
        ¬ ∃ stem, IsId stem ∧ id = stem ++ "\n") := by
  refine ⟨isValid_iff, fun p => parse?_eq_some, ?_⟩
  constructor
  · rintro ⟨accepts, -⟩ ⟨stem, formed, rfl⟩
    -- An id has nineteen characters, so it cannot be one with a line end behind it as well.
    have long := length_of_isId (accepts.mp (isValid_iff.mpr (.inr ⟨stem, formed, rfl⟩)))
    simp [String.toList_append, length_of_isId formed] at long
  · intro unended
    refine ⟨isValid_iff.trans (or_iff_left unended), fun p read => ?_⟩
    obtain ⟨formed, same | ended⟩ := parse?_eq_some.mp read
    · exact same.symm
    · exact absurd ⟨p.text, ⟨p, formed, rfl⟩, ended⟩ unended

/-- A line end behind an id is passed over, though it is no part of the id. -/
theorem ended_id_accepted : isValid "REF_PC_CHA_00000001\n" = true ∧ ¬ IsId "REF_PC_CHA_00000001\n" ∧
    (parse? "REF_PC_CHA_00000001\n").map Parts.text = some "REF_PC_CHA_00000001" := by
  refine ⟨by decide +kernel, fun formed => ?_, by decide +kernel⟩
  exact absurd (length_of_isId formed) (by decide +kernel)

/-! ### Tokens in an id -/

/-- Whether a character is a hexadecimal digit of either case. -/
def isHexLetter (c : Char) : Bool := isHexDigit c || ('a' ≤ c && c ≤ 'f')

/-- Whether a token is eight hexadecimal digits. -/
def IsHexadecimal (token : String) : Prop := Spelled isHexLetter 8 token.toList

instance (token : String) : Decidable (IsHexadecimal token) :=
  inferInstanceAs (Decidable (Spelled isHexLetter 8 token.toList))

theorem capitalForm_hexLetter {c : Char} (h : isHexLetter c = true) :
    ∃ capital, Text.capitalForm c = [capital] ∧ isHexDigit capital = true := by
  have all : ∀ n < 103, isHexLetter (Char.ofNat n) = true →
      (Text.capitalForm (Char.ofNat n)).length = 1 ∧
        (Text.capitalForm (Char.ofNat n)).all isHexDigit = true := by
    decide +kernel
  have small : c.toNat < 103 := by
    simp only [isHexLetter, isHexDigit, Bool.or_eq_true, Bool.and_eq_true, decide_eq_true_eq,
      Char.le_def, UInt32.le_iff_toNat_le] at h
    change c.val.toNat < 103
    have f : 'f'.val.toNat = 102 := rfl
    have nine : '9'.val.toNat = 57 := rfl
    have capitalF : 'F'.val.toNat = 70 := rfl
    omega
  obtain ⟨one, digit⟩ := all c.toNat small (by rwa [Char.ofNat_toNat])
  rw [Char.ofNat_toNat] at one digit
  obtain ⟨capital, form⟩ := List.length_eq_one_iff.mp one
  exact ⟨capital, form, by simpa [form] using digit⟩

theorem spelled_upper {token : String} (h : Spelled isHexLetter n token.toList) :
    Spelled isHexDigit n (Text.upper token).toList := by
  rw [Text.upper, String.toList_ofList]
  generalize token.toList = cs at h
  induction cs generalizing n with
  | nil => simpa [Spelled] using h
  | cons c cs ih =>
    cases n with
    | zero => exact absurd h.1 (Nat.succ_ne_zero cs.length)
    | succ n =>
      obtain ⟨here, later⟩ := spelled_cons.mp h
      obtain ⟨capital, form, digit⟩ := capitalForm_hexLetter here
      rw [List.flatMap_cons, form, List.singleton_append]
      exact spelled_cons.mpr ⟨digit, ih later⟩

/-- Whether the letters for a type and a category are those of an id. -/
def Lettered (type category : String) : Prop :=
  Spelled isCapital 2 (typePrefix type).toList ∧ Spelled isCapital 3 (categoryPrefix category).toList

theorem lettered_kind (kind : EntityKind) : Lettered kind.name (categoryOf kind.name none) := by
  cases kind <;> exact ⟨by decide +kernel, by decide +kernel⟩

theorem compose_eq_text (type category token : String) : compose type category token =
    Parts.text ⟨typePrefix type, categoryPrefix category, Text.upper token⟩ := by
  rw [← String.toList_inj, toList_text]
  simp [compose, String.toList_append]

theorem parse?_compose {token : String} (lettered : Lettered type category)
    (digits : IsHexadecimal token) : parse? (compose type category token) =
      some ⟨typePrefix type, categoryPrefix category, Text.upper token⟩ :=
  parse?_eq_some.mpr
    ⟨⟨lettered.1, lettered.2, spelled_upper digits⟩, .inl (compose_eq_text type category token)⟩

/-! ### The search -/

/-- The id that the token after the next `n` ones gives. -/
def candidate (type category : String) (d : Draws) (n : Nat) : String :=
  compose type category (d.tokenAt n)

theorem candidate_zero : candidate type category d 0 = compose type category d.token.1 := by
  rw [candidate, d.token_fst]

theorem candidate_succ :
    candidate type category d (n + 1) = candidate type category d.token.2 n := by
  rw [candidate, candidate, d.tokenAt_next]

/-- Whether the first `n` candidates are taken and the next one is not. -/
def FirstFree (type category : String) (taken : List String) (d : Draws) (n : Nat) : Prop :=
  candidate type category d n ∉ taken ∧ ∀ m < n, candidate type category d m ∈ taken

theorem firstFree_zero :
    FirstFree type category taken d 0 ↔ compose type category d.token.1 ∉ taken := by
  simp [FirstFree, candidate_zero]

theorem firstFree_succ : FirstFree type category taken d (n + 1) ↔
    compose type category d.token.1 ∈ taken ∧ FirstFree type category taken d.token.2 n := by
  simp only [FirstFree, Nat.forall_lt_succ_left, candidate_zero, candidate_succ]
  exact and_left_comm

/-- The search without a bound on its tries: from draws `d` it takes `n` draws and ends with `found`,
an id and the draws that are left. -/
inductive Searches (type category : String) (taken : List String) :
    Nat → Draws → String × Draws → Prop
  | stop {d : Draws} (free : compose type category d.token.1 ∉ taken) :
      Searches type category taken 1 d (compose type category d.token.1, d.token.2)
  | again {n : Nat} {d : Draws} {found : String × Draws}
      (used : compose type category d.token.1 ∈ taken)
      (later : Searches type category taken n d.token.2 found) :
      Searches type category taken (n + 1) d found

/-- A search that ends has found the first candidate that is free. -/
theorem Searches.firstFree (h : Searches type category taken n d found) :
    ∃ m, n = m + 1 ∧ FirstFree type category taken d m ∧ found.1 = candidate type category d m := by
  induction h with
  | stop free => exact ⟨0, rfl, firstFree_zero.mpr free, candidate_zero.symm⟩
  | again used _ ih =>
    obtain ⟨m, rfl, first, same⟩ := ih
    exact ⟨m + 1, rfl, firstFree_succ.mpr ⟨used, first⟩, same.trans candidate_succ.symm⟩

/-- With tries enough to come to a candidate that is free, the bound makes no difference. -/
theorem FirstFree.searches (h : FirstFree type category taken d n) (enough : n ≤ tries) :
    Searches type category taken (n + 1) d (drawFresh type category taken tries d) := by
  -- On the candidates that are taken: each uses up one draw and one try.
  induction n generalizing d tries with
  | zero =>
    have free := firstFree_zero.mp h
    have first : drawFresh type category taken tries d =
        (compose type category d.token.1, d.token.2) := by
      cases tries with
      | zero => rfl
      | succ tries => exact if_neg free
    rw [first]
    exact .stop free
  | succ n ih =>
    obtain ⟨used, later⟩ := firstFree_succ.mp h
    cases tries with
    | zero => exact absurd enough (Nat.not_succ_le_zero n)
    | succ tries =>
      have next : drawFresh type category taken (tries + 1) d =
          drawFresh type category taken tries d.token.2 := if_pos used
      rw [next]
      exact .again used (ih later (Nat.le_of_succ_le_succ enough))

/-! ### The end of the search -/

theorem compose_injective {token other : String}
    (h : compose type category token = compose type category other) :
    Text.upper token = Text.upper other := by
  have same := congrArg String.toList h
  apply String.toList_injective
  simpa [compose, String.toList_append] using same

/-- Of one more candidate from the supply than are taken, one is free. -/
theorem exists_free (type category : String) (taken : List String) (d : Draws) :
    ∃ n ≤ d.tokens.length + taken.toFinset.card, candidate type category d n ∉ taken := by
  by_contra none
  have every : ∀ n ≤ d.tokens.length + taken.toFinset.card, candidate type category d n ∈ taken :=
    fun n bound => not_not.mp fun free => none ⟨n, bound, free⟩
  let supplied (i : Nat) : String := candidate type category d (d.tokens.length + i)
  have distinct : Set.InjOn supplied (Finset.range (taken.toFinset.card + 1)) := by
    intro i _ j _ same
    have tokens := compose_injective same
    rw [d.tokenAt_supply, d.tokenAt_supply] at tokens
    exact Nat.add_left_cancel (d.later.distinct tokens)
  have within : ∀ i ∈ Finset.range (taken.toFinset.card + 1), supplied i ∈ taken.toFinset := by
    intro i bound
    have small := Nat.le_of_lt_succ (Finset.mem_range.mp bound)
    exact List.mem_toFinset.mpr (every _ (Nat.add_le_add_left small _))
  -- One more candidate was supplied than are taken.
  have many := Finset.card_le_card_of_injOn supplied within distinct
  rw [Finset.card_range] at many
  exact Nat.not_succ_le_self _ many

theorem exists_firstFree (type category : String) (taken : List String) (d : Draws) :
    ∃ n ≤ d.tokens.length + taken.toFinset.card, FirstFree type category taken d n := by
  obtain ⟨k, bound, free⟩ := exists_free type category taken d
  have some : ∃ n, candidate type category d n ∉ taken := ⟨k, free⟩
  refine ⟨Nat.find some, (Nat.find_min' some free).trans bound, Nat.find_spec some, ?_⟩
  exact fun m before => not_not.mp (Nat.find_min some before)

theorem generate_searches (type : String) (category : Option String) (taken : List String)
    (d : Draws) : ∃ n ≤ d.tokens.length + taken.toFinset.card,
      FirstFree type (categoryOf type category) taken d n ∧
        Searches type (categoryOf type category) taken (n + 1) d
          (generate type category taken d) := by
  obtain ⟨n, bound, first⟩ := exists_firstFree type (categoryOf type category) taken d
  have enough : d.tokens.length + taken.toFinset.card ≤ d.tokens.length + taken.length :=
    Nat.add_le_add_left taken.toFinset_card_le _
  exact ⟨n, bound, first, first.searches (bound.trans enough)⟩

theorem generate_not_mem (type : String) (category : Option String) (taken : List String)
    (d : Draws) : (generate type category taken d).1 ∉ taken := by
  obtain ⟨n, -, -, search⟩ := generate_searches type category taken d
  obtain ⟨m, -, first, same⟩ := search.firstFree
  exact same ▸ first.1

/-- Whatever tokens are prepared and whatever ids are taken, the search for an id ends, after at most one
draw for each prepared token, one for each taken id and one more. What it ends with is the first
candidate that is free, and it reads as an id of its type if its token is hexadecimal. -/
theorem generate_first_free (type : String) (category : Option String) (taken : List String)
    (d : Draws) :
    (∀ kind : EntityKind, Lettered kind.name (categoryOf kind.name none)) ∧
      ∃ n, n + 1 ≤ d.tokens.length + taken.toFinset.card + 1 ∧
        Searches type (categoryOf type category) taken (n + 1) d (generate type category taken d) ∧
        FirstFree type (categoryOf type category) taken d n ∧
        (generate type category taken d).1 = candidate type (categoryOf type category) d n ∧
        (Lettered type (categoryOf type category) → IsHexadecimal (d.tokenAt n) →
          parse? (generate type category taken d).1 =
            some ⟨typePrefix type, categoryPrefix (categoryOf type category),
              Text.upper (d.tokenAt n)⟩) := by
  refine ⟨lettered_kind, ?_⟩
  obtain ⟨n, bound, first, search⟩ := generate_searches type category taken d
  obtain ⟨m, same, -, found⟩ := search.firstFree
  obtain rfl := Nat.succ.inj same
  refine ⟨n, Nat.succ_le_succ bound, search, first, found, fun lettered digits => ?_⟩
  rw [found]
  exact parse?_compose lettered digits

/-- The id of the first token is taken, so an item gets that of the second. -/
theorem second_token_accepted :
    Lettered "item" (categoryOf "item" none) ∧ IsHexadecimal "bbbbbbbb" ∧
      (generate "item" none ["REF_IT_ITE_AAAAAAAA"] { tokens := ["aaaaaaaa", "bbbbbbbb"] }).1 =
        "REF_IT_ITE_BBBBBBBB" ∧
      parse? "REF_IT_ITE_BBBBBBBB" = some ⟨"IT", "ITE", "BBBBBBBB"⟩ := by
  have digits : IsHexadecimal "bbbbbbbb" := by decide +kernel
  have settled := generate_first_free "item" none ["REF_IT_ITE_AAAAAAAA"]
    { tokens := ["aaaaaaaa", "bbbbbbbb"] }
  generalize tokens : ({ tokens := ["aaaaaaaa", "bbbbbbbb"] } : Draws) = d at settled ⊢
  have first : candidate "item" (categoryOf "item" none) d 0 = "REF_IT_ITE_AAAAAAAA" := by
    rw [← tokens]
    decide +kernel
  have next : candidate "item" (categoryOf "item" none) d 1 = "REF_IT_ITE_BBBBBBBB" := by
    rw [← tokens]
    decide +kernel
  have accepted : d.tokenAt 1 = "bbbbbbbb" := by
    rw [← tokens]
    rfl
  obtain ⟨lettered, n, -, -, found, same, reads⟩ := settled
  have second : n = 1 := by
    rcases Nat.lt_trichotomy n 1 with before | here | after
    · have free := found.1
      rw [Nat.lt_one_iff.mp before, first] at free
      exact absurd (List.mem_singleton_self _) free
    · exact here
    · have used := found.2 1 after
      rw [next] at used
      exact absurd used (by decide +kernel)
  rw [second, next] at same
  rw [second, same, accepted] at reads
  refine ⟨lettered .item, digits, same, ?_⟩
  rw [reads (lettered .item) digits]
  decide +kernel

end ReferenceId

end Gamebook
