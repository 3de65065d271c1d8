import Gamebook.Proofs.Outcome
import Gamebook.Proofs.Pattern.Replace
import Gamebook.Proofs.Text.Scan
import Gamebook.Substitution.Run

/-!
Rules that replace what they match by the match. The matched text is put into the template before the
numbered references and the macros are expanded, so it stays as it is if it has none of them, and is
expanded like the template if it has.
-/

namespace Gamebook

open Text Outcome

variable {cs : List Char} {name : String}

/-! ### Macros -/

theorem expandMacro_reference (name : String) (value : List Char) :
    expandMacro name value (reference name) = value := by
  have long : (reference name).length = name.toList.length + 3 + 1 := by
    simp only [reference, List.length_cons, List.length_append, List.length_nil]
  have here : referenceAt? name (reference name) = some (name.toList.length + 3 + 1) := by
    have opens : afterOpeningFold? (reference name) (reference name) = some [] :=
      afterOpeningFold?_eq_some.mpr ⟨reference name, Echoes.self _, (List.append_nil _).symm⟩
    rw [referenceAt?, opens, Option.map_some, long]
  rw [expandMacro, replaceAll_of_some here (by omega), ← long, List.drop_length]
  exact List.append_nil value

/-- Whether a text refers to a macro somewhere, in any case. -/
def RefersTo (name : String) (cs : List Char) : Prop :=
  ∃ spelled, Echoes (reference name) spelled ∧ spelled <:+: cs

theorem referenceAt?_eq_none (unnamed : ¬ RefersTo name cs) {rest : List Char} (behind : rest <:+ cs) :
    referenceAt? name rest = none := by
  rw [referenceAt?, Option.map_eq_none_iff]
  refine Option.eq_none_iff_forall_ne_some.mpr fun more opens => unnamed ?_
  obtain ⟨spelled, echoes, rfl⟩ := afterOpeningFold?_eq_some.mp opens
  exact ⟨spelled, echoes, (List.prefix_append spelled more).isInfix.trans behind.isInfix⟩

theorem expandMacro_of_not_refersTo (unnamed : ¬ RefersTo name cs) (value : List Char) :
    expandMacro name value cs = cs :=
  replaceAll_of_absent fun _ behind => referenceAt?_eq_none unnamed behind

/-- The names of the macros. -/
def macroNames : List String :=
  ["player", "character", "location", "time", "hp", "mana", "level", "exp", "action"]

theorem MacroContext.names_values (m : MacroContext) : m.values.map (·.1) = macroNames := rfl

/-! ### Literal texts -/

/-- A text that stands for itself: it has no numbered reference and no reference to a macro. -/
structure Literal (cs : List Char) : Prop where
  numbers : ∀ d, isDigit d = true → ¬ ['$', d] <:+: cs
  macros : ∀ name ∈ macroNames, ¬ RefersTo name cs

theorem Literal.expand (h : Literal cs) (m : MacroContext) : m.expand cs = cs := by
  rw [MacroContext.expand, MacroContext.expandWith]
  -- No value is ever inserted, so every macro is looked for in the same text.
  refine List.foldlRecOn (motive := (· = cs)) m.values _ rfl ?_
  rintro _ rfl nv member
  refine expandMacro_of_not_refersTo (h.macros nv.1 ?_) _
  rw [← m.names_values]
  exact List.mem_map_of_mem member

theorem groupReference?_eq_none (numbers : ∀ d, isDigit d = true → ¬ ['$', d] <:+: cs) :
    groupReference? cs = none := by
  unfold groupReference?
  split
  · rename_i rest
    have none : rest.takeWhile isDigit = [] := by
      cases rest with
      | nil => rfl
      | cons d rest =>
        refine List.takeWhile_cons_of_neg fun digit => numbers d digit ?_
        exact (List.prefix_append ['$', d] rest).isInfix
    rw [none, List.filterMap_nil]
  · rfl

theorem expandReferences_of_absent {valueOf : Nat → Outcome (List Char)}
    (numbers : ∀ d, isDigit d = true → ¬ ['$', d] <:+: cs) :
    expandReferences valueOf 0 cs = .ok cs := by
  induction cs with
  | nil => rfl
  | cons c cs ih =>
    rw [expandReferences, groupReference?_eq_none numbers,
      ih fun d digit inside => numbers d digit (inside.trans (List.suffix_cons c cs).isInfix)]
    rfl

/-- What follows the sign of a numbered reference is a digit. -/
theorem groupReference?_isSome {d : Char} (digit : isDigit d = true) (rest : List Char) :
    groupReference? ('$' :: d :: rest) ≠ none := by
  obtain ⟨value, worth⟩ := Option.isSome_iff_exists.mp digit
  rw [groupReference?, List.takeWhile_cons_of_pos digit, List.filterMap_cons_some worth]
  exact Option.some_ne_none _

/-- A text stands for itself exactly if no reference begins anywhere in it. -/
theorem literal_iff : Literal cs ↔ ∀ rest ∈ cs.tails,
    groupReference? rest = none ∧ ∀ name ∈ macroNames, referenceAt? name rest = none := by
  constructor
  · intro h rest behind
    have suffix := (List.mem_tails _ _).mp behind
    refine ⟨groupReference?_eq_none fun d digit inside => ?_, fun name listed => ?_⟩
    · exact h.numbers d digit (inside.trans suffix.isInfix)
    · exact referenceAt?_eq_none (h.macros name listed) suffix
  · intro h
    constructor
    · rintro d digit ⟨front, more, rfl⟩
      refine groupReference?_isSome digit more (h _ ((List.mem_tails _ _).mpr ?_)).1
      exact ⟨front, by simp only [List.append_assoc, List.cons_append, List.nil_append]⟩
    · rintro name listed ⟨spelled, echoes, front, more, rfl⟩
      have here := (h (spelled ++ more) ((List.mem_tails _ _).mpr ⟨front, by simp only [List.append_assoc]⟩)).2
        name listed
      rw [referenceAt?, Option.map_eq_none_iff] at here
      exact nomatch here.symm.trans (afterOpeningFold?_eq_some.mpr ⟨spelled, echoes, rfl⟩)

instance (cs : List Char) : Decidable (Literal cs) := decidable_of_iff' _ literal_iff

/-! ### Rules that insert the match -/

/-- The template that inserts the matched text. -/
def matchTemplate : String := "\x7b\x7bmatch\x7d\x7d"

theorem toList_matchTemplate : matchTemplate.toList = reference matchMacro := by decide

namespace Rule

variable {r : Rule} {macros : MacroContext} {o : Occasion} {text : String}

theorem replacementFor_own (inserts : r.replaceString = matchTemplate) {cs rest : List Char}
    {hit : Pattern.Hit} (literal : Literal (rest.take hit.length)) :
    r.replacementFor macros cs rest hit = pure (rest.take hit.length) := by
  rw [replacementFor, inserts, toList_matchTemplate, expandMacro_reference,
    expandReferences_of_absent literal.numbers]
  exact congrArg Except.ok (literal.expand macros)

/-- A rule that replaces what it matches by the match leaves a text as it is, if none of the matches has
a reference in it. -/
theorem run_verbatim (r : Rule) (macros : MacroContext) (o : Occasion) (text : String)
    (inserts : r.replaceString = matchTemplate) {found : Option Pattern.Compiled}
    (valid : (r.findPattern macros).compile? = .ok found)
    (literal : ∀ c ∈ found, ∀ hit ∈ c.node.matched (r.findPattern macros).limit text.toList,
      Literal (hit.1.take hit.2.length)) : r.run macros o text = .ok text := by
  simp only [run, valid]
  split_ifs with idle
  · rfl
  · cases found with
    | none => rfl
    | some c =>
      have kept : c.node.replace (r.findPattern macros).limit (r.replacementFor macros text.toList)
          text.toList = pure text.toList :=
        c.node.replace_own fun hit listed => replacementFor_own inserts (literal c rfl hit listed)
      change (c.node.replace (r.findPattern macros).limit (r.replacementFor macros text.toList)
          text.toList >>= fun cs => pure (String.ofList cs)) = _
      rw [kept, pure_bind, String.ofList_toList]
      rfl

/-- A rule that quotes a price by what it matches. -/
def quoting : Rule where
  id := "price"
  findRegex := "giá .+"
  replaceString := matchTemplate

/-- A price in a coin that is no macro. -/
def foreignPrice : String := "giá 5$ \x7b\x7bvàng\x7d\x7d"

/-- The one match of the rule has no reference in it, and the price is quoted as it is. -/
theorem quoting_verbatim : quoting.replaceString = matchTemplate ∧
    ∃ c, (quoting.findPattern {}).compile? = .ok (some c) ∧
      (c.node.matched (quoting.findPattern {}).limit foreignPrice.toList).length = 1 ∧
      (∀ hit ∈ c.node.matched (quoting.findPattern {}).limit foreignPrice.toList,
        Literal (hit.1.take hit.2.length)) ∧
      quoting.run {} {} foreignPrice = .ok foreignPrice := by
  have known : (quoting.findPattern {}).compile?.toOption.any (fun found => found.any fun c =>
      let matched := c.node.matched (quoting.findPattern {}).limit foreignPrice.toList
      decide (matched.length = 1 ∧ ∀ hit ∈ matched, Literal (hit.1.take hit.2.length))) = true := by
    decide +kernel
  obtain ⟨found, valid, stands⟩ := exists_ok known
  cases found with
  | none => cases stands
  | some c =>
    obtain ⟨one, literal⟩ := of_decide_eq_true stands
    refine ⟨rfl, c, valid, one, literal, run_verbatim quoting {} {} _ rfl valid fun c' same => ?_⟩
    obtain rfl := Option.some.inj same
    exact literal

/-- A price in dollars is lost: its sign and digits are read as a reference. -/
theorem quoting_loses_price : quoting.replaceString = matchTemplate ∧
    quoting.run {} {} "giá $5" = .ok "giá " := by
  have lost : (quoting.run {} {} "giá $5").toOption.any (· = "giá ") = true := by decide +kernel
  obtain ⟨out, ran, short⟩ := exists_ok lost
  exact ⟨rfl, of_decide_eq_true short ▸ ran⟩

end Rule

end Gamebook
