import Mathlib.Data.List.Nodup
import Gamebook.Keyed
import Gamebook.Proofs.Distinct

/-!
Laws of maps in insertion order. A map is observed by its keys and by what it holds under a key; if
its keys are distinct, these two say which pairs it has.
-/

namespace Gamebook.Keyed

variable {α β : Type} {m newer : Keyed α} {key other : String} {value : α}

theorem get?_cons (pair : String × α) (m : Keyed α) (key : String) :
    get? (pair :: m) key = if pair.1 = key then some pair.2 else get? m key := rfl

theorem mem_of_get? (h : get? m key = some value) : (key, value) ∈ m := by
  induction m with
  | nil => exact nomatch h
  | cons pair m ih =>
    rw [get?_cons] at h
    split_ifs at h with same
    · obtain rfl := Option.some.inj h
      exact same ▸ List.mem_cons_self
    · exact List.mem_cons_of_mem pair (ih h)

theorem keys_cons (pair : String × α) (m : Keyed α) : keys (pair :: m) = pair.1 :: keys m := rfl

theorem get?_eq_none : get? m key = none ↔ key ∉ keys m := by
  induction m with
  | nil => simp [get?, keys]
  | cons pair m ih =>
    rw [get?_cons, keys_cons, List.mem_cons, not_or]
    split_ifs with same
    · simp [same]
    · rw [ih]
      exact ⟨fun absent => ⟨fun equal => same equal.symm, absent⟩, And.right⟩

theorem has_iff : has m key = true ↔ key ∈ keys m := by
  rw [has, Option.isSome_iff_ne_none, ne_eq, get?_eq_none, not_not]

theorem exists_of_mem_keys (h : key ∈ keys m) : ∃ value, get? m key = some value :=
  Option.isSome_iff_exists.mp (has_iff.mpr h)

theorem get?_of_mem {pair : String × α} (distinct : (keys m).Nodup) (h : pair ∈ m) :
    get? m pair.1 = some pair.2 := by
  induction m with
  | nil => exact nomatch h
  | cons first m ih =>
    obtain ⟨new, distinct⟩ := List.nodup_cons.mp distinct
    rw [get?_cons]
    rcases List.mem_cons.mp h with rfl | later
    · rw [if_pos rfl]
    · have apart : first.1 ≠ pair.1 := fun same =>
        new (List.mem_map.mpr ⟨pair, later, same.symm⟩)
      rw [if_neg apart, ih distinct later]

theorem mem_values (h : get? m key = some value) : value ∈ values m :=
  List.mem_map_of_mem (mem_of_get? h)

theorem mem_keys_of_get? (h : get? m key = some value) : key ∈ keys m :=
  List.mem_map_of_mem (mem_of_get? h)

theorem filterMap_keys (distinct : (keys m).Nodup) :
    ((keys m).filterMap fun key => (get? m key).map fun value => (key, value)) = m := by
  rw [keys, List.filterMap_map]
  refine (List.filterMap_congr fun pair member => ?_).trans List.filterMap_some
  rw [Function.comp_apply, get?_of_mem distinct member]
  rfl

/-- Two maps with the same keys in the same places that hold the same are one. -/
theorem eq_of_get? (distinct : (keys m).Nodup) (names : keys m = keys newer)
    (same : ∀ key, get? m key = get? newer key) : m = newer := by
  have rebuilt := filterMap_keys distinct
  simp only [names, same] at rebuilt
  exact rebuilt.symm.trans (filterMap_keys (names ▸ distinct))

theorem get?_append (m later : Keyed α) (key : String) :
    get? (m ++ later) key = (get? m key).or (get? later key) := by
  induction m with
  | nil => rfl
  | cons pair m ih =>
    rw [List.cons_append, get?_cons, get?_cons, ih]
    split_ifs <;> rfl

/-! ### Putting -/

theorem get?_put (m : Keyed α) (key : String) (value : α) (other : String) :
    get? (put m key value) other = if key = other then some value else get? m other := by
  induction m with
  | nil => rfl
  | cons pair m ih =>
    rw [put]
    by_cases here : pair.1 = key
    · rw [if_pos here, get?_cons, get?_cons, here]
      split_ifs <;> rfl
    · rw [if_neg here, get?_cons, get?_cons, ih]
      by_cases asked : key = other
      · rw [if_neg (asked ▸ here), if_pos asked, if_pos asked]
      · simp only [if_neg asked]

@[simp] theorem get?_put_self (m : Keyed α) (key : String) (value : α) :
    get? (put m key value) key = some value := by
  rw [get?_put, if_pos rfl]

theorem get?_put_of_ne (h : key ≠ other) : get? (put m key value) other = get? m other := by
  rw [get?_put, if_neg h]

theorem keys_put (m : Keyed α) (key : String) (value : α) :
    keys (put m key value) = if key ∈ keys m then keys m else keys m ++ [key] := by
  induction m with
  | nil => rfl
  | cons pair m ih =>
    rw [put, keys_cons]
    by_cases here : pair.1 = key
    · rw [if_pos here, if_pos (List.mem_cons.mpr (.inl here.symm)), keys_cons]
    · have elsewhere : key ∈ pair.1 :: keys m ↔ key ∈ keys m :=
        List.mem_cons.trans (or_iff_right fun same => here same.symm)
      rw [if_neg here, keys_cons, ih]
      simp only [elsewhere]
      split_ifs <;> rfl

theorem nodup_put (distinct : (keys m).Nodup) (key : String) (value : α) :
    (keys (put m key value)).Nodup := by
  rw [keys_put]
  split_ifs with present
  · exact distinct
  · exact List.concat_eq_append ▸ distinct.concat present

theorem length_put (present : key ∈ keys m) : (put m key value).length = m.length := by
  have same := congrArg List.length (keys_put m key value)
  rwa [if_pos present, keys, keys, List.length_map, List.length_map] at same

theorem mem_put {pair : String × α} (h : pair ∈ put m key value) :
    pair = (key, value) ∨ pair ∈ m := by
  induction m with
  | nil => exact .inl (List.mem_singleton.mp h)
  | cons first m ih =>
    rw [put] at h
    split_ifs at h with here
    · rcases List.mem_cons.mp h with rfl | later
      · exact .inl (by rw [here])
      · exact .inr (List.mem_cons_of_mem first later)
    · rcases List.mem_cons.mp h with rfl | later
      · exact .inr List.mem_cons_self
      · exact (ih later).imp_right (List.mem_cons_of_mem first)

/-- What is looked for among the values is not affected by a value that does not fit, if the one in its
place does not fit either. -/
theorem find?_values_put {fits : α → Bool} (unfit : fits value = false)
    (before : ∀ old, get? m key = some old → fits old = false) :
    (values (put m key value)).find? fits = (values m).find? fits := by
  induction m with
  | nil => simp [put, values, unfit]
  | cons first m ih =>
    rw [get?_cons] at before
    rw [put]
    split_ifs with here
    · rw [if_pos here] at before
      simp [values, unfit, before first.2 rfl]
    · rw [if_neg here] at before
      change List.find? fits (first.2 :: values (put m key value)) = List.find? fits (first.2 :: values m)
      rw [List.find?_cons, List.find?_cons, ih before]

theorem get?_putNew_self (m : Keyed α) (key : String) (value : α) :
    get? (putNew m key value) key = (get? m key).or (some value) := by
  rw [putNew, has]
  cases found : get? m key with
  | none =>
    rw [if_neg (by simp), get?_append, found, get?_cons, if_pos rfl]
  | some old =>
    rw [if_pos Option.isSome_some, found, Option.some_or]

theorem get?_putNew_of_ne (h : key ≠ other) : get? (putNew m key value) other = get? m other := by
  rw [putNew]
  split_ifs
  · rfl
  · rw [get?_append]
    exact (congrArg _ (if_neg h)).trans (Option.or_none)

/-! ### Updating -/

theorem update_cons (m : Keyed α) (pair : String × α) (newer : Keyed α) :
    update m (pair :: newer) = update (put m pair.1 pair.2) newer := rfl

theorem nodup_update (distinct : (keys m).Nodup) (newer : Keyed α) :
    (keys (update m newer)).Nodup := by
  induction newer generalizing m with
  | nil => exact distinct
  | cons pair newer ih => exact ih (nodup_put distinct pair.1 pair.2)

/-- An update has the keys from before in their places and the others behind them, as they first
come. -/
theorem keys_update_eq (m newer : Keyed α) :
    keys (update m newer) = keys m ++ ((keys newer).filter (· ∉ keys m)).eraseDups := by
  rw [← keepFrom_mem_eq]
  induction newer generalizing m with
  | nil => rfl
  | cons pair newer ih =>
    rw [update_cons, ih, keys_cons, keys_put]
    by_cases known : pair.1 ∈ keys m
    · rw [if_pos known, keepFrom_cons_of_ruled (decide_eq_true known)]
    · rw [if_neg known, keepFrom_cons_of_free (decide_eq_false known)]

theorem subset_keys_update (m newer : Keyed α) : keys m ⊆ keys (update m newer) := by
  rw [keys_update_eq]
  exact List.subset_append_left _ _

theorem newer_subset_keys_update (m newer : Keyed α) : keys newer ⊆ keys (update m newer) := by
  intro key listed
  rw [keys_update_eq, ← keepFrom_mem_eq]
  exact mem_keepFrom_mem.mpr (.inr listed)

/-- An update of known keys has them in their places. -/
theorem keys_update (present : keys newer ⊆ keys m) : keys (update m newer) = keys m := by
  have none : (keys newer).filter (· ∉ keys m) = [] :=
    List.filter_eq_nil_iff.mpr fun key listed => by simpa using present listed
  rw [keys_update_eq, none, List.eraseDups_nil, List.append_nil]

theorem nodup_ofPairs (pairs : List (String × α)) : (keys (ofPairs pairs)).Nodup :=
  nodup_update (m := []) List.nodup_nil pairs

theorem put_of_not_mem (absent : key ∉ keys m) : put m key value = m ++ [(key, value)] := by
  induction m with
  | nil => rfl
  | cons pair m ih =>
    obtain ⟨other, later⟩ := not_or.mp (mt List.mem_cons.mpr absent)
    rw [put, if_neg (Ne.symm other), ih later]
    rfl

theorem update_of_nodup (distinct : (keys (m ++ newer)).Nodup) : update m newer = m ++ newer := by
  induction newer generalizing m with
  | nil => exact (List.append_nil m).symm
  | cons pair newer ih =>
    rw [List.append_cons] at distinct ⊢
    have absent : pair.1 ∉ keys m := by
      rw [keys, List.map_append, List.map_append] at distinct
      have before := (List.nodup_append.mp (List.nodup_append.mp distinct).1).2.2
      exact fun present => before _ present _ List.mem_cons_self rfl
    rw [update_cons, put_of_not_mem absent]
    exact ih distinct

/-- Pairs with each key once are the map that they make. -/
theorem ofPairs_of_nodup {pairs : Keyed α} (distinct : (keys pairs).Nodup) : ofPairs pairs = pairs :=
  update_of_nodup (m := []) distinct

theorem get?_update (distinct : (keys newer).Nodup) (m : Keyed α) (key : String) :
    get? (update m newer) key = (get? newer key).or (get? m key) := by
  induction newer generalizing m with
  | nil => rfl
  | cons pair newer ih =>
    obtain ⟨new, distinct⟩ := List.nodup_cons.mp distinct
    rw [update_cons, ih distinct, get?_put, get?_cons]
    split_ifs with same
    · rw [get?_eq_none.mpr (same ▸ new), Option.none_or, Option.some_or]
    · rfl

/-- The last of the new values of a key counts, then the one from before. -/
theorem get?_update_last (m newer : Keyed α) (key : String) :
    get? (update m newer) key =
      ((newer.filter (·.1 = key)).getLast?.map (·.2)).or (get? m key) := by
  induction newer generalizing m with
  | nil => rfl
  | cons pair newer ih =>
    rw [update_cons, ih, get?_put, List.filter_cons]
    by_cases here : pair.1 = key
    · rw [if_pos here, if_pos (decide_eq_true here), List.getLast?_cons]
      cases (newer.filter (·.1 = key)).getLast? <;> rfl
    · rw [if_neg here, if_neg (by simpa using here)]

theorem keys_ofPairs (pairs : List (String × α)) :
    keys (ofPairs pairs) = (pairs.map (·.1)).eraseDups := by
  have all : (keys pairs).filter (· ∉ keys ([] : Keyed α)) = keys pairs :=
    List.filter_eq_self.mpr fun key _ => decide_eq_true List.not_mem_nil
  rw [ofPairs, keys_update_eq, all]
  rfl

theorem get?_ofPairs (pairs : List (String × α)) (key : String) :
    get? (ofPairs pairs) key = (pairs.filter (·.1 = key)).getLast?.map (·.2) := by
  rw [ofPairs, get?_update_last]
  exact Option.or_none

theorem mem_update {pair : String × α} (h : pair ∈ update m newer) : pair ∈ m ∨ pair ∈ newer := by
  induction newer generalizing m with
  | nil => exact .inl h
  | cons first newer ih =>
    rcases ih h with before | later
    · rcases mem_put before with rfl | known
      · exact .inr List.mem_cons_self
      · exact .inl known
    · exact .inr (List.mem_cons_of_mem first later)

theorem mem_ofPairs {pair : String × α} {pairs : List (String × α)} (h : pair ∈ ofPairs pairs) :
    pair ∈ pairs :=
  (mem_update h).resolve_left List.not_mem_nil

/-! ### Leaving out -/

theorem get?_filter {keep : String × α → Bool} (h : ∀ value, keep (key, value) = true) :
    get? (m.filter keep) key = get? m key := by
  induction m with
  | nil => rfl
  | cons pair m ih =>
    rw [List.filter_cons, get?_cons]
    split_ifs with kept same same
    · rw [get?_cons, if_pos same]
    · rw [get?_cons, if_neg same, ih]
    · exact absurd (h pair.2) (by rw [← same]; exact kept)
    · exact ih

theorem get?_filter_of_nodup (distinct : (keys m).Nodup) (keep : String × α → Bool)
    (key : String) : get? (m.filter keep) key = (get? m key).filter fun value => keep (key, value) := by
  induction m with
  | nil => rfl
  | cons pair m ih =>
    obtain ⟨new, distinct⟩ := List.nodup_cons.mp distinct
    rw [List.filter_cons, get?_cons]
    by_cases same : pair.1 = key
    · have rest : get? (m.filter keep) key = none := by
        rw [ih distinct, get?_eq_none.mpr (same ▸ new), Option.filter_none]
      rw [if_pos same, Option.filter_some, ← same]
      split_ifs with kept
      · exact if_pos rfl
      · rw [same, rest]
    · rw [if_neg same]
      split_ifs
      · exact (if_neg same).trans (ih distinct)
      · exact ih distinct

theorem get?_filter_eq_none {keep : String × α → Bool} (h : ∀ value, keep (key, value) = false) :
    get? (m.filter keep) key = none := by
  rw [get?_eq_none]
  intro present
  obtain ⟨⟨_, value⟩, member, rfl⟩ := List.mem_map.mp present
  exact nomatch (h value).symm.trans (List.mem_filter.mp member).2

theorem nodup_filter (distinct : (keys m).Nodup) (keep : String × α → Bool) :
    (keys (m.filter keep)).Nodup :=
  distinct.sublist (List.filter_sublist.map Prod.fst)

theorem get?_erase_self (m : Keyed α) (key : String) : get? (erase m key) key = none :=
  get?_filter_eq_none (by simp)

theorem get?_erase_of_ne (h : key ≠ other) : get? (erase m key) other = get? m other :=
  get?_filter fun _ => by simpa using h.symm

theorem nodup_erase (distinct : (keys m).Nodup) (key : String) : (keys (erase m key)).Nodup :=
  nodup_filter distinct _

theorem get?_without {names : List String} (h : key ∉ names) :
    get? (without m names) key = get? m key :=
  get?_filter fun _ => by simpa using h

theorem get?_without_of_mem {names : List String} (h : key ∈ names) :
    get? (without m names) key = none :=
  get?_filter_eq_none fun _ => by simpa using h

theorem nodup_without (distinct : (keys m).Nodup) (names : List String) :
    (keys (without m names)).Nodup :=
  nodup_filter distinct _

theorem without_put (m : Keyed α) (key : String) (value : α) (names : List String) :
    (put m key value).without names =
      if key ∈ names then m.without names else put (m.without names) key value := by
  induction m with
  | nil => by_cases listed : key ∈ names <;> simp [put, without, listed]
  | cons pair m ih =>
    rw [put]
    by_cases here : pair.1 = key
    · by_cases listed : key ∈ names <;> simp [without, put, here, listed]
    · rw [if_neg here]
      simp only [without] at ih ⊢
      rw [List.filter_cons, ih, List.filter_cons]
      by_cases listed : key ∈ names <;> by_cases dropped : pair.1 ∈ names <;>
        simp [put, listed, dropped, here]

theorem without_update (m newer : Keyed α) (names : List String) :
    (update m newer).without names = update (m.without names) (newer.without names) := by
  induction newer generalizing m with
  | nil => rfl
  | cons pair newer ih =>
    rw [update_cons, ih, without_put]
    by_cases listed : pair.1 ∈ names
    · simp [without, listed]
    · rw [if_neg listed]
      simp [without, listed, update_cons]

/-! ### Changing every value -/

theorem keys_map (f : α → β) (m : Keyed α) :
    keys (m.map fun pair => (pair.1, f pair.2)) = keys m := by
  rw [keys, keys, List.map_map]
  rfl

theorem get?_map (f : α → β) (m : Keyed α) (key : String) :
    get? (m.map fun pair => (pair.1, f pair.2)) key = (get? m key).map f := by
  induction m with
  | nil => rfl
  | cons pair m ih =>
    rw [List.map_cons, get?_cons, get?_cons]
    split_ifs
    · rfl
    · exact ih

end Gamebook.Keyed
