import Mathlib.Tactic.SplitIfs
import Gamebook.Json.Reader
import Gamebook.Json.Writer
import Gamebook.Proofs.Keyed

/-!
Written values that are read back. A quoted text is read back whatever it holds, since what is not
written as it stands is escaped; lists and objects are read back if their parts are.
-/

namespace Gamebook.Json

variable {cs rest tail : List Char} {c : Char} {v : Value} {bound : Nat}

/-! ### Quoted texts -/

theorem hexCode?_control :
    ∀ n < 32, hexCode? '0' '0' (hexChar (n / 16)) (hexChar (n % 16)) = some n := by
  decide

theorem unquote_unicode {a b c d : Char} {code : Nat} (spelled : hexCode? a b c d = some code)
    (low : code < 0xD800) (rest : List Char) :
    unquote ('\\' :: 'u' :: a :: b :: c :: d :: rest) = consText (Char.ofNat code) (unquote rest) := by
  -- Two escapes in a row are read as one character only if the first is half of a pair.
  have single : pairCode? code = fun _ => none :=
    funext fun _ => if_neg (by simp only [Bool.and_eq_true, decide_eq_true_eq]; omega)
  have plain : charOfCode code = Char.ofNat code :=
    if_neg (by simp only [Bool.and_eq_true, decide_eq_true_eq]; omega)
  by_cases paired : ∃ e f g h more, rest = '\\' :: 'u' :: e :: f :: g :: h :: more
  · obtain ⟨e, f, g, h, more, rfl⟩ := paired
    simp only [unquote, spelled, single, plain, Option.bind_fun_none]
  · rw [unquote, spelled]
    · simp only [plain]
    · exact fun e f g h more same => paired ⟨e, f, g, h, more, same⟩

theorem unquote_plain (inside : c ≠ '"') (straight : c ≠ '\\') (high : ¬c.toNat < 32)
    (rest : List Char) : unquote (c :: rest) = consText c (unquote rest) := by
  rw [unquote]
  · exact if_neg (by simp [high, straight])
  · exact inside
  · exact fun _ _ _ _ _ _ _ _ _ same => absurd same straight
  · exact fun _ _ _ _ _ same => absurd same straight
  · exact fun _ _ same => absurd same straight

theorem unquote_escapeChar (c : Char) (rest : List Char) :
    unquote (escapeChar c ++ rest) = consText c (unquote rest) := by
  have of_code {n : Nat} (same : (c.toNat == n) = true) : c = Char.ofNat n := by
    rw [← beq_iff_eq.mp same, Char.ofNat_toNat]
  rw [escapeChar]
  split_ifs with quoted slash line feed tab back page control
  · obtain rfl := beq_iff_eq.mp quoted
    rfl
  · obtain rfl := beq_iff_eq.mp slash
    rfl
  · obtain rfl := beq_iff_eq.mp line
    rfl
  · obtain rfl := beq_iff_eq.mp feed
    rfl
  · obtain rfl := beq_iff_eq.mp tab
    rfl
  · obtain rfl := of_code back
    rfl
  · obtain rfl := of_code page
    rfl
  · refine (unquote_unicode (hexCode?_control c.toNat control) (by omega) rest).trans ?_
    rw [Char.ofNat_toNat]
  · exact unquote_plain (fun same => quoted (beq_iff_eq.mpr same))
      (fun same => slash (beq_iff_eq.mpr same)) control rest

theorem unquote_escapeChars (cs tail : List Char) :
    unquote (escapeChars cs ++ '"' :: tail) = some (cs, tail) := by
  induction cs with
  | nil => rfl
  | cons c cs ih =>
    rw [escapeChars, List.flatMap_cons, List.append_assoc, unquote_escapeChar]
    exact congrArg (consText c) ih

theorem quote_append (cs tail : List Char) :
    quote cs ++ tail = '"' :: (escapeChars cs ++ '"' :: tail) := by
  rw [quote, List.cons_append, List.append_assoc]
  rfl

/-! ### White space -/

theorem skipSpace_cons (written : isSpace c = false) : skipSpace (c :: rest) = c :: rest :=
  List.dropWhile_cons_of_neg (Bool.not_eq_true _ ▸ written)

/-! ### Values -/

/-- A value that is read back from where it is written, whatever follows. Its first character is no
white space and does not end a list. -/
structure Legible (v : Value) : Prop where
  begins : ∃ c cs, v.write = c :: cs ∧ isSpace c = false ∧ c ≠ ']'
  reads : ∀ bound tail, v.write.length < bound → readValue bound (v.write ++ tail) = .ok (v, tail)

theorem Legible.skipSpace_write (h : Legible v) (tail : List Char) :
    skipSpace (v.write ++ tail) = v.write ++ tail := by
  obtain ⟨c, cs, written, visible, -⟩ := h.begins
  rw [written, List.cons_append, skipSpace_cons visible]

theorem legible_text (s : String) : Legible (.text s) where
  begins := ⟨'"', escapeChars s.toList ++ ['"'], by rw [Value.write, quote], rfl, by decide⟩
  reads bound tail enough := by
    obtain ⟨bound, rfl⟩ := Nat.exists_eq_add_one_of_ne_zero (Nat.ne_zero_of_lt enough)
    rw [Value.write, quote_append, readValue, readScalar, unquote_escapeChars]
    · exact congrArg (fun text => Except.ok (Value.text text, tail)) String.ofList_toList
    · exact nofun
    · exact nofun

theorem readItems_last {after : List Char} (first : readValue bound cs = .ok (v, after))
    (closed : skipSpace after = ']' :: rest) : readItems (bound + 1) cs = .ok ([v], rest) := by
  rw [readItems, first]
  simp only [bind, Except.bind, closed]
  rfl

theorem readItems_more {after more : List Char} {vs : List Value}
    (first : readValue bound cs = .ok (v, after)) (parted : skipSpace after = ',' :: more)
    (others : readItems bound (skipSpace more) = .ok (vs, rest)) :
    readItems (bound + 1) cs = .ok (v :: vs, rest) := by
  rw [readItems, first]
  simp only [bind, Except.bind, parted, others]
  rfl

theorem readItems_write {items : List Value} (first : Legible v) (legible : ∀ v ∈ items, Legible v)
    (tail : List Char) (enough : (v.write ++ Value.writeItems items).length < bound) :
    readItems bound (v.write ++ (Value.writeItems items ++ tail)) = .ok (v :: items, tail) := by
  -- Each element takes one off the bound and is written in one character at least.
  induction items generalizing v bound with
  | nil =>
    obtain ⟨bound, rfl⟩ := Nat.exists_eq_add_one_of_ne_zero (Nat.ne_zero_of_lt enough)
    rw [Value.writeItems, List.length_append, List.length_singleton] at enough
    exact readItems_last (first.reads bound _ (by omega)) rfl
  | cons next items ih =>
    obtain ⟨bound, rfl⟩ := Nat.exists_eq_add_one_of_ne_zero (Nat.ne_zero_of_lt enough)
    obtain ⟨second, others⟩ := List.forall_mem_cons.mp legible
    rw [Value.writeItems, List.length_append, List.length_cons, List.length_cons] at enough
    have later : readItems bound (next.write ++ (Value.writeItems items ++ tail)) =
        .ok (next :: items, tail) := ih second others (by omega)
    rw [← second.skipSpace_write, ← List.append_assoc] at later
    exact readItems_more (first.reads bound _ (by omega)) rfl later

theorem readValue_list {inner : List Char} {vs : List Value} (begun : skipSpace inner = c :: cs)
    (other : c ≠ ']') (items : readItems bound (c :: cs) = .ok (vs, rest)) :
    readValue (bound + 1) ('[' :: inner) = .ok (.list vs, rest) := by
  rw [readValue, begun]
  split
  · rename_i same
    exact absurd (List.cons.inj same).1 other
  · rw [items]
    rfl

theorem legible_list {items : List Value} (legible : ∀ v ∈ items, Legible v) :
    Legible (.list items) where
  begins := by
    cases items <;> exact ⟨'[', _, by rw [Value.write], rfl, by decide⟩
  reads bound tail enough := by
    obtain ⟨bound, rfl⟩ := Nat.exists_eq_add_one_of_ne_zero (Nat.ne_zero_of_lt enough)
    cases items with
    | nil => rfl
    | cons v items =>
      obtain ⟨first, others⟩ := List.forall_mem_cons.mp legible
      obtain ⟨c, cs, written, visible, other⟩ := first.begins
      rw [Value.write, List.length_cons] at enough
      have read : readItems bound (v.write ++ (Value.writeItems items ++ tail)) =
          .ok (v :: items, tail) := readItems_write first others tail (by omega)
      rw [Value.write, List.cons_append, List.append_assoc]
      have opened := first.skipSpace_write (Value.writeItems items ++ tail)
      rw [written, List.cons_append] at read opened ⊢
      exact readValue_list opened other read

/-- A value behind its key. -/
def underKey (key : String) (value : List Char) : List Char :=
  quote key.toList ++ ':' :: ' ' :: value

theorem underKey_append (key : String) (value : List Char) :
    underKey key value ++ tail = underKey key (value ++ tail) := by
  rw [underKey, List.append_assoc]
  rfl

theorem length_lt_underKey (key : String) (value : List Char) :
    value.length < (underKey key value).length := by
  rw [underKey, List.length_append, List.length_cons, List.length_cons]
  omega

theorem readKey_underKey (key : String) {value : List Char} (visible : skipSpace value = value) :
    readKey (underKey key value) = .ok (key, value) := by
  have gap : skipSpace (' ' :: value) = value := visible
  rw [readKey, underKey, quote_append, skipSpace_cons (by decide)]
  simp only [unquote_escapeChars, skipSpace_cons (c := ':') rfl, gap, String.ofList_toList]

theorem readMembers_last {key : String} {body after : List Char}
    (named : readKey cs = .ok (key, body)) (first : readValue bound body = .ok (v, after))
    (closed : skipSpace after = '\x7d' :: rest) :
    readMembers (bound + 1) cs = .ok ([(key, v)], rest) := by
  rw [readMembers, named]
  simp only [bind, Except.bind, first, closed]
  rfl

theorem readMembers_more {key : String} {body after more : List Char} {fields : Fields}
    (named : readKey cs = .ok (key, body)) (first : readValue bound body = .ok (v, after))
    (parted : skipSpace after = ',' :: more)
    (others : readMembers bound (skipSpace more) = .ok (fields, rest)) :
    readMembers (bound + 1) cs = .ok ((key, v) :: fields, rest) := by
  rw [readMembers, named]
  simp only [bind, Except.bind, first, parted, others]
  rfl

theorem writeFields_cons (key : String) (v : Value) (fields : Fields) :
    Value.writeFields ((key, v) :: fields) =
      ',' :: ' ' :: underKey key (v.write ++ Value.writeFields fields) := by
  rw [Value.writeFields, underKey]

theorem readMembers_write {key : String} {fields : Fields} (first : Legible v)
    (legible : ∀ pair ∈ fields, Legible pair.2) (tail : List Char)
    (enough : (underKey key (v.write ++ Value.writeFields fields)).length < bound) :
    readMembers bound (underKey key (v.write ++ (Value.writeFields fields ++ tail))) =
      .ok ((key, v) :: fields, tail) := by
  -- As for the elements of a list, with a key in front of each value.
  induction fields generalizing key v bound with
  | nil =>
    obtain ⟨bound, rfl⟩ := Nat.exists_eq_add_one_of_ne_zero (Nat.ne_zero_of_lt enough)
    have room := length_lt_underKey key (v.write ++ Value.writeFields [])
    rw [List.length_append] at room
    exact readMembers_last (readKey_underKey key (first.skipSpace_write _))
      (first.reads bound _ (by omega)) rfl
  | cons pair fields ih =>
    obtain ⟨bound, rfl⟩ := Nat.exists_eq_add_one_of_ne_zero (Nat.ne_zero_of_lt enough)
    obtain ⟨second, others⟩ := List.forall_mem_cons.mp legible
    rw [writeFields_cons] at enough ⊢
    have room := length_lt_underKey key
      (v.write ++ ',' :: ' ' :: underKey pair.1 (pair.2.write ++ Value.writeFields fields))
    rw [List.length_append, List.length_cons, List.length_cons] at room
    have later : readMembers bound
        (underKey pair.1 (pair.2.write ++ (Value.writeFields fields ++ tail))) =
        .ok (pair :: fields, tail) := ih second others (by omega)
    rw [← List.append_assoc, ← underKey_append] at later
    exact readMembers_more (readKey_underKey key (first.skipSpace_write _))
      (first.reads bound _ (by omega)) rfl later

theorem readValue_object {inner : List Char} {fields : Fields} (begun : skipSpace inner = c :: cs)
    (other : c ≠ '\x7d') (distinct : fields.keys.Nodup)
    (members : readMembers bound (c :: cs) = .ok (fields, rest)) :
    readValue (bound + 1) ('\x7b' :: inner) = .ok (.object fields, rest) := by
  rw [readValue, begun]
  split
  · rename_i same
    exact absurd (List.cons.inj same).1 other
  · rw [members]
    have whole := Keyed.ofPairs_of_nodup distinct
    exact congrArg (fun fields => Except.ok (Value.object fields, rest)) whole

/-- An object with each key once is read back if its values are. -/
theorem legible_object {fields : Fields} (distinct : fields.keys.Nodup)
    (legible : ∀ pair ∈ fields, Legible pair.2) : Legible (.object fields) where
  begins := by
    cases fields <;> exact ⟨'\x7b', _, by rw [Value.write], rfl, by decide⟩
  reads bound tail enough := by
    obtain ⟨bound, rfl⟩ := Nat.exists_eq_add_one_of_ne_zero (Nat.ne_zero_of_lt enough)
    cases fields with
    | nil => rfl
    | cons pair fields =>
      obtain ⟨first, others⟩ := List.forall_mem_cons.mp legible
      have written : (Value.object (pair :: fields)).write =
          '\x7b' :: underKey pair.1 (pair.2.write ++ Value.writeFields fields) := by
        rw [Value.write, underKey]
      rw [written, List.length_cons] at enough
      have read : readMembers bound
          (underKey pair.1 (pair.2.write ++ (Value.writeFields fields ++ tail))) =
          .ok (pair :: fields, tail) := readMembers_write first others tail (by omega)
      rw [written, List.cons_append, underKey_append, List.append_assoc]
      exact readValue_object rfl (by decide) distinct read

theorem writeFields_closed (fields : Fields) :
    ∃ inner, Value.writeFields fields = inner ++ ['\x7d'] := by
  induction fields with
  | nil => exact ⟨[], rfl⟩
  | cons pair fields ih =>
    obtain ⟨inner, closed⟩ := ih
    rw [writeFields_cons, closed, ← List.append_assoc, ← underKey_append]
    exact ⟨',' :: ' ' :: underKey pair.1 (pair.2.write ++ inner), rfl⟩

theorem write_object (fields : Fields) :
    ∃ inner, (Value.object fields).write = '\x7b' :: (inner ++ ['\x7d']) := by
  cases fields with
  | nil => exact ⟨[], rfl⟩
  | cons pair fields =>
    obtain ⟨inner, closed⟩ := writeFields_closed fields
    rw [Value.write, ← underKey, closed, ← List.append_assoc, ← underKey_append]
    exact ⟨_, rfl⟩

/-- A legible value is read back from the text that it is written in. -/
theorem Legible.read_json (h : Legible v) : read v.json = .ok v := by
  have visible : skipSpace v.write = v.write := by simpa using h.skipSpace_write []
  have whole := h.reads (v.write.length + 1) [] (Nat.lt_succ_self _)
  rw [List.append_nil] at whole
  simp only [read, Value.json, String.toList_ofList, visible, whole]
  rfl

end Gamebook.Json
