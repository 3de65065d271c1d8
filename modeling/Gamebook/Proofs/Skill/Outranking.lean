import Mathlib.Data.List.MinMax
import Gamebook.Proofs.Skill.Holding

/-!
Outranking. The first name of a base name in a list leads it: a merge measures a new name of that base
name against the leader alone. It decides every name, which is listed then or of a lower rank than its
leader, and what is decided stays so in every later merge. A second merge of the same names therefore
has nothing left to do.
-/

namespace Gamebook.Skill

open Text

attribute [local irreducible] baseName rank isPlaceholder

variable {names existing new : List String} {base name other held raw : String} {m : Merge}

/-! ### Two at once -/

variable {before later : List String}

/-- Whether no other of some names is of a higher rank. -/
def isTop (names : List String) (name : String) : Bool := names.all (rank · ≤ rank name)

/-- Whether a name outranks all names before it, of which two share the highest rank. Two spellings of
a name count as one. -/
def outranksTwo (before : List String) (name : String) : Bool :=
  before.all (rank · < rank name) &&
    before.any fun a => before.any fun b => isTop before a && isTop before b && !sameName a b

/-- Whether one of some names outranks two of those before it. -/
def contested (before : List String) : List String → Bool
  | [] => false
  | name :: later => outranksTwo before name || contested (before ++ [name]) later

theorem outranksTwo_iff : outranksTwo before name = true ↔ (∀ a ∈ before, rank a < rank name) ∧
    ∃ a ∈ before, ∃ b ∈ before, (∀ o ∈ before, rank o ≤ rank a) ∧ (∀ o ∈ before, rank o ≤ rank b) ∧
      sameName a b = false := by
  simp only [outranksTwo, isTop, Bool.and_eq_true, List.all_eq_true, List.any_eq_true,
    decide_eq_true_eq, Bool.not_eq_true', and_assoc]

theorem contested_concat (before names : List String) (name : String) :
    contested before (names ++ [name]) =
      (contested before names || outranksTwo (before ++ names) name) := by
  induction names generalizing before with
  | nil => simp [contested]
  | cons first names ih =>
    rw [List.cons_append, contested, contested, ih, ← List.append_cons, Bool.or_assoc]

theorem outranksTwo_of_uncontested (h : contested before (names ++ name :: later) = false) :
    outranksTwo (before ++ names) name = false := by
  induction names generalizing before with
  | nil =>
    rw [List.append_nil]
    exact (Bool.or_eq_false_iff.mp h).1
  | cons first names ih =>
    rw [List.append_cons]
    exact ih (Bool.or_eq_false_iff.mp h).2

/-! ### Leaders -/

/-- The first of some names with a base name. -/
def leader? (names : List String) (base : String) : Option String :=
  names.find? fun s => baseName s = base

/-- The highest rank among the names with a base name; there is none without such a name. -/
def topRank (names : List String) (base : String) : WithBot Nat :=
  ((names.filter fun s => baseName s = base).map rank).maximum

theorem mem_leader (first : leader? names base = some held) : held ∈ names ∧ baseName held = base := by
  have own := List.find?_some first
  exact ⟨List.mem_of_find?_eq_some first, of_decide_eq_true own⟩

theorem exists_leader (member : name ∈ names) : ∃ held, leader? names (baseName name) = some held :=
  Option.isSome_iff_exists.mp (List.find?_isSome.mpr ⟨name, member, decide_eq_true rfl⟩)

theorem leader?_concat (names : List String) (name base : String) : leader? (names ++ [name]) base =
    (leader? names base).or (if baseName name = base then some name else none) := by
  rw [leader?, List.find?_append, List.find?_cons, List.find?_nil]
  by_cases own : baseName name = base <;> simp [own, leader?]

/-- A name that is put in the place of a leader stands where the leader stood. -/
theorem replace_leader (first : leader? names base = some held) (name : String) :
    ∃ before after, names = before ++ held :: after ∧ (∀ other ∈ before, baseName other ≠ base) ∧
      names.replace held name = before ++ name :: after := by
  obtain ⟨own, before, after, rfl, others⟩ := List.find?_eq_some_iff_append.mp first
  have apart : ∀ other ∈ before, baseName other ≠ base := fun other member same => by
    simpa [same] using others other member
  have absent : held ∉ before := fun member => apart held member (of_decide_eq_true own)
  refine ⟨before, after, rfl, apart, ?_⟩
  rw [List.replace_append, if_neg absent, List.replace_cons_self]

theorem leader?_replace (first : leader? names (baseName name) = some held) (base : String) :
    leader? (names.replace held name) base =
      if baseName name = base then some name else leader? names base := by
  obtain ⟨before, after, rfl, apart, replaced⟩ := replace_leader first name
  have own := (mem_leader first).2
  rw [replaced, leader?, leader?, List.find?_append, List.find?_append]
  split_ifs with here
  · have none : before.find? (fun s => decide (baseName s = base)) = none :=
      List.find?_eq_none.mpr fun other member => by simpa [here] using apart other member
    simp [none, here]
  · simp [here, own]

theorem mem_replace_of_ne (member : other ∈ names) (apart : other ≠ held) (name : String) :
    other ∈ names.replace held name := by
  induction names with
  | nil => exact nomatch member
  | cons first names ih =>
    rw [List.replace_cons]
    rcases List.mem_cons.mp member with rfl | later
    · rw [beq_eq_false_iff_ne.mpr apart.symm]
      exact List.mem_cons_self
    · split
      · exact List.mem_cons_of_mem name later
      · exact List.mem_cons_of_mem first (ih later)

theorem mem_replace_self (first : leader? names base = some held) (name : String) :
    name ∈ names.replace held name := by
  obtain ⟨before, after, -, -, replaced⟩ := replace_leader first name
  rw [replaced]
  exact List.mem_append_right before List.mem_cons_self

/-! ### Decided names -/

/-- Whether a name makes no difference to a list: its leader is of a higher rank, or of the same rank
while the name is listed. -/
def Decides (names : List String) (name : String) : Prop :=
  ∃ held, leader? names (baseName name) = some held ∧
    (rank name < rank held ∨ rank name = rank held ∧ ∃ s ∈ names, sameName s name = true)

theorem decides_of_listed (listed : ∃ s ∈ names, sameName s name = true)
    (low : ∀ held, leader? names (baseName name) = some held → rank name ≤ rank held) :
    Decides names name := by
  obtain ⟨s, member, same⟩ := listed
  obtain ⟨held, first⟩ := exists_leader member
  rw [baseName_of_sameName same] at first
  exact ⟨held, first, (low held first).lt_or_eq.imp_right fun level => ⟨level, s, member, same⟩⟩

theorem Decides.concat (h : Decides names name) (new : String) : Decides (names ++ [new]) name := by
  obtain ⟨held, first, outranked | ⟨level, s, member, same⟩⟩ := h
  · exact ⟨held, by rw [leader?_concat, first, Option.some_or], .inl outranked⟩
  · exact ⟨held, by rw [leader?_concat, first, Option.some_or],
      .inr ⟨level, s, List.mem_append_left _ member, same⟩⟩

/-- A new leader is of a higher rank than all that was decided under the old one. -/
theorem Decides.replace {new : String} (h : Decides names name)
    (first : leader? names (baseName new) = some held) (outranks : rank held < rank new) :
    Decides (names.replace held new) name := by
  obtain ⟨leader, own, verdict⟩ := h
  by_cases here : baseName new = baseName name
  · rw [here, own] at first
    obtain rfl := Option.some.inj first
    have low : rank name ≤ rank leader := verdict.elim le_of_lt fun level => level.1.le
    refine ⟨new, ?_, .inl (low.trans_lt outranks)⟩
    rw [← here] at own
    rw [leader?_replace own, if_pos here]
  · refine ⟨leader, by rw [leader?_replace first, if_neg here, own], ?_⟩
    refine verdict.imp_right fun ⟨level, s, member, same⟩ => ⟨level, s, ?_, same⟩
    refine mem_replace_of_ne member (fun replaced => here ?_) new
    rw [← (mem_leader first).2, ← replaced, baseName_of_sameName same]

/-! ### Steps -/

/-- What merging a name can do to a merge. -/
inductive Merge.Steps (m : Merge) (name : String) : Merge → Prop
  | skip (placeholder : isPlaceholder name = true) : Steps m name m
  | keep (decided : Decides m.skills name) (rejected : List String) :
    Steps m name { m with rejected }
  | upgrade {held : String} (first : leader? m.skills (baseName name) = some held)
    (outranks : rank held < rank name) : Steps m name (m.upgrade held name)
  | add (level : ∀ held, leader? m.skills (baseName name) = some held → rank held = rank name)
    (unlisted : ∀ s ∈ m.skills, sameName s name = false) :
    Steps m name { m with skills := m.skills ++ [name], added := m.added ++ [name] }

/-- A name that its leader neither outranks nor is outranked by. -/
theorem Merge.add_steps
    (level : ∀ held, leader? m.skills (baseName name) = some held → rank held = rank name) :
    m.Steps name (m.add name) := by
  rw [Merge.add]
  split_ifs with listed
  · exact .keep (decides_of_listed (List.any_eq_true.mp listed)
      fun held first => (level held first).ge) m.rejected
  · exact .add level fun s member => Bool.eq_false_iff.mpr fun same =>
      listed (List.any_eq_true.mpr ⟨s, member, same⟩)

theorem Merge.step_of_placeholder (m : Merge) (placeholder : isPlaceholder (trim raw) = true) :
    m.step raw = m := by
  rw [Merge.step, if_pos placeholder]

theorem Merge.step_steps (m : Merge) (raw : String) : m.Steps (trim raw) (m.step raw) := by
  rw [Merge.step]
  split_ifs with placeholder
  · exact .skip placeholder
  split
  · rename_i none
    exact add_steps fun held first => absurd (first.symm.trans none) (Option.some_ne_none held)
  · rename_i held first
    have only (leader : String) (own : leader? m.skills (baseName (trim raw)) = some leader) :
        leader = held := Option.some.inj (own.symm.trans first)
    split_ifs with same above below
    · exact add_steps fun leader own => only leader own ▸ rank_of_sameName same
    · exact .upgrade first above
    · exact .keep ⟨held, first, .inl below⟩ _
    · exact add_steps fun leader own => only leader own ▸ by omega

variable {m' : Merge}

theorem Decides.step (h : Decides m.skills other) (step : m.Steps name m') :
    Decides m'.skills other := by
  cases step with
  | skip | keep => exact h
  | upgrade first outranks => exact h.replace first outranks
  | add => exact h.concat name

theorem Merge.Steps.decides (step : m.Steps name m') (filled : isPlaceholder name = false) :
    Decides m'.skills name := by
  cases step with
  | skip placeholder => exact nomatch filled.symm.trans placeholder
  | keep decided => exact decided
  | @upgrade held first outranks =>
    refine decides_of_listed ⟨name, mem_replace_self first name, beq_self_eq_true _⟩
      fun leader own => ?_
    rw [Merge.upgrade, leader?_replace first, if_pos rfl] at own
    exact (congrArg rank (Option.some.inj own)).le
  | add level =>
    refine decides_of_listed ⟨name, by simp, beq_self_eq_true _⟩ fun leader own => ?_
    rw [leader?_concat, if_pos rfl] at own
    rcases Option.or_eq_some_iff.mp own with before | ⟨-, here⟩
    · exact (level leader before).ge
    · exact (congrArg rank (Option.some.inj here)).le

/-- Merging a decided name changes nothing but what was rejected. -/
theorem Merge.Steps.idle (step : m.Steps name m') (decided : Decides m.skills name) :
    m'.skills = m.skills ∧ m'.added = m.added ∧ m'.upgraded = m.upgraded := by
  obtain ⟨leader, first, verdict⟩ := decided
  cases step with
  | skip | keep => exact ⟨rfl, rfl, rfl⟩
  | upgrade own outranks =>
    obtain rfl := Option.some.inj (own.symm.trans first)
    omega
  | add level unlisted =>
    have same := level leader first
    obtain below | ⟨-, s, member, spelled⟩ := verdict
    · omega
    · exact nomatch (unlisted s member).symm.trans spelled

/-! ### Runs -/

theorem Decides.foldl (h : Decides m.skills name) (new : List String) :
    Decides (new.foldl Merge.step m).skills name := by
  induction new generalizing m with
  | nil => exact h
  | cons raw new ih =>
    rw [List.foldl_cons]
    exact ih (h.step (m.step_steps raw))

theorem decides_merge (member : raw ∈ new) (filled : isPlaceholder (trim raw) = false) :
    Decides (new.foldl Merge.step m).skills (trim raw) := by
  induction new generalizing m with
  | nil => exact nomatch member
  | cons first new ih =>
    rw [List.foldl_cons]
    rcases List.mem_cons.mp member with rfl | later
    · exact ((m.step_steps raw).decides filled).foldl new
    · exact ih later

theorem foldl_step_idle
    (decided : ∀ raw ∈ new, isPlaceholder (trim raw) = false → Decides m.skills (trim raw)) :
    (new.foldl Merge.step m).skills = m.skills ∧ (new.foldl Merge.step m).added = m.added ∧
      (new.foldl Merge.step m).upgraded = m.upgraded := by
  induction new generalizing m with
  | nil => exact ⟨rfl, rfl, rfl⟩
  | cons raw new ih =>
    obtain ⟨first, later⟩ := List.forall_mem_cons.mp decided
    have idle : (m.step raw).skills = m.skills ∧ (m.step raw).added = m.added ∧
        (m.step raw).upgraded = m.upgraded := by
      by_cases placeholder : isPlaceholder (trim raw) = true
      · rw [m.step_of_placeholder placeholder]
        exact ⟨rfl, rfl, rfl⟩
      · exact (m.step_steps raw).idle (first (Bool.eq_false_iff.mpr placeholder))
    rw [List.foldl_cons, ← idle.1, ← idle.2.1, ← idle.2.2]
    refine ih fun other member filled => ?_
    rw [idle.1]
    exact later other member filled

/-- What a merge is worth beside the list that it began with: it grew by what was added, whatever made
way did so for a higher rank of its base name, and nothing was held of a rank that is out of reach. -/
structure Merge.Grows (existing : List String) (m : Merge) : Prop where
  length : m.skills.length = existing.length + m.added.length
  upgraded : ∀ pair ∈ m.upgraded, baseName pair.1 = baseName pair.2 ∧ rank pair.1 < rank pair.2
  risen : ∀ name ∈ existing, ∃ held ∈ m.skills, baseName held = baseName name ∧ rank name ≤ rank held

theorem Merge.Grows.step (h : m.Grows existing) (step : m.Steps name m') : m'.Grows existing := by
  cases step with
  | skip | keep => exact ⟨h.length, h.upgraded, h.risen⟩
  | @upgrade held first outranks =>
    have own := (mem_leader first).2
    refine ⟨?_, ?_, fun old member => ?_⟩
    · rw [Merge.upgrade, List.length_replace, h.length]
    · exact List.forall_mem_append.mpr ⟨h.upgraded, List.forall_mem_singleton.mpr ⟨own, outranks⟩⟩
    · obtain ⟨risen, listed, shared, high⟩ := h.risen old member
      by_cases here : risen = held
      · rw [here] at shared high
        exact ⟨name, mem_replace_self first name, own.symm.trans shared, high.trans outranks.le⟩
      · exact ⟨risen, mem_replace_of_ne listed here name, shared, high⟩
  | add =>
    refine ⟨?_, h.upgraded, fun old member => ?_⟩
    · simp only [List.length_append, List.length_singleton, h.length, Nat.add_assoc]
    · obtain ⟨risen, listed, both⟩ := h.risen old member
      exact ⟨risen, List.mem_append_left _ listed, both⟩

theorem merge_grows (existing new : List String) : (merge existing new).Grows existing := by
  refine List.foldlRecOn new Merge.step ⟨rfl, nofun, fun name member => ?_⟩
    fun m h raw _ => h.step (m.step_steps raw)
  exact ⟨name, member, rfl, le_rfl⟩

theorem topRank_le {later : List String} (base : String)
    (risen : ∀ name ∈ names, ∃ held ∈ later, baseName held = baseName name ∧ rank name ≤ rank held) :
    topRank names base ≤ topRank later base := by
  refine List.maximum_le_of_forall_le fun r listed => ?_
  obtain ⟨name, member, rfl⟩ := List.mem_map.mp listed
  obtain ⟨present, own⟩ := List.mem_filter.mp member
  obtain ⟨held, after, shared, high⟩ := risen name present
  have counted : held ∈ later.filter fun s => baseName s = base :=
    List.mem_filter.mpr ⟨after, decide_eq_true (shared.trans (of_decide_eq_true own))⟩
  exact (WithBot.coe_le_coe.mpr high).trans (List.le_maximum_of_mem' (List.mem_map_of_mem counted))

/-- Merging the same names once more changes nothing. A merge adds as many names as the list grows by,
lets a name make way for a higher rank of its base name only, and never lowers the highest rank that
is held of a base name. -/
theorem merge_stable (existing new : List String) :
    (merge (merge existing new).skills new).skills = (merge existing new).skills ∧
      (merge (merge existing new).skills new).changed = false ∧
      (merge existing new).skills.length = existing.length + (merge existing new).added.length ∧
      (∀ pair ∈ (merge existing new).upgraded,
        baseName pair.1 = baseName pair.2 ∧ rank pair.1 < rank pair.2) ∧
      ∀ base, topRank existing base ≤ topRank (merge existing new).skills base := by
  obtain ⟨length, upgraded, risen⟩ := merge_grows existing new
  obtain ⟨skills, added, replaced⟩ := foldl_step_idle (m := { skills := (merge existing new).skills })
    (fun raw member filled => decides_merge (m := { skills := existing }) member filled)
  refine ⟨skills, ?_, length, upgraded, fun base => topRank_le base risen⟩
  rw [merge, Merge.changed, added, replaced]
  rfl

end Gamebook.Skill
