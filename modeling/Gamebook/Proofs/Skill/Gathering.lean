import Gamebook.Proofs.Skill.Outranking

/-!
Gathering names one after another. A list that is gathered from nothing holds every name in one
spelling, and of every base name one of the highest rank that was met. Lower ones stay beside it only
where a name outranked two at once, as the first of the two alone made way.
-/

namespace Gamebook.Skill

open Text

attribute [local irreducible] baseName rank isPlaceholder

variable {names : List String} {base name : String} {m m' : Merge}

/-- The list that names are merged into one after another; at first it is empty. -/
def gather (names : List String) : List String :=
  names.foldl (fun held name => (merge held [name]).skills) []

theorem gather_concat (names : List String) (name : String) :
    gather (names ++ [name]) = (merge (gather names) [name]).skills := by
  rw [gather, List.foldl_append, List.foldl_cons, List.foldl_nil, gather]

theorem skills_step {m n : Merge} (same : m.skills = n.skills) (raw : String) :
    (m.step raw).skills = (n.step raw).skills := by
  have add (name : String) : (m.add name).skills = (n.add name).skills := by
    rw [Merge.add, Merge.add, same]
    split_ifs
    · exact same
    · rfl
  rw [Merge.step, Merge.step, same]
  split_ifs
  · exact same
  split
  · exact add _
  · split_ifs
    · exact add _
    · rw [Merge.upgrade, Merge.upgrade, same]
    · rfl
    · exact add _

/-- Merging names one after another is merging them all at once. -/
theorem gather_eq_merge (names : List String) : gather names = (merge [] names).skills := by
  induction names using List.reverseRecOn with
  | nil => rfl
  | append_singleton names name ih =>
    rw [gather_concat, ih]
    simp only [merge, List.foldl_append, List.foldl_cons, List.foldl_nil]
    apply skills_step
    rfl

/-- What gathering some names keeps: every name is decided, the list holds trimmed names of them and
none in two spellings. -/
structure Gathered (names held : List String) : Prop where
  decides : ∀ name ∈ names, Decides held (trim name)
  taken : ∀ s ∈ held, ∃ name ∈ names, s = trim name
  apart : held.Pairwise fun a b => sameName a b = false

theorem Decides.le_leader {held : List String} {leader : String} (h : Decides held name)
    (first : leader? held (baseName name) = some leader) : rank name ≤ rank leader := by
  obtain ⟨other, own, verdict⟩ := h
  obtain rfl := Option.some.inj (own.symm.trans first)
  exact verdict.elim le_of_lt fun level => level.1.le

namespace Gathered

variable {held : List String} {leader s : String}

theorem spelled_once {t : String} (h : Gathered names held) (left : s ∈ held) (right : t ∈ held)
    (apart : s ≠ t) : sameName s t = false := by
  have symm : Std.Symm fun a b => sameName a b = false :=
    ⟨fun a b differ => sameName_comm.trans differ⟩
  exact h.apart.forall left right apart

/-- A leader is of the highest rank in the list, -/
theorem le_leader (h : Gathered names held) (member : s ∈ held)
    (first : leader? held (baseName s) = some leader) : rank s ≤ rank leader := by
  obtain ⟨name, listed, rfl⟩ := h.taken s member
  exact (h.decides name listed).le_leader first

/-- and of the highest among all names that were gathered. -/
theorem topRank_eq (h : Gathered names held) (first : leader? held base = some leader) :
    topRank names base = rank leader := by
  apply le_antisymm
  · refine List.maximum_le_of_forall_le fun r listed => ?_
    obtain ⟨name, member, rfl⟩ := List.mem_map.mp listed
    obtain ⟨present, own⟩ := List.mem_filter.mp member
    rw [← of_decide_eq_true own, ← baseName_trim] at first
    rw [← rank_trim name]
    exact WithBot.coe_le_coe.mpr ((h.decides name present).le_leader first)
  · obtain ⟨member, own⟩ := mem_leader first
    obtain ⟨name, listed, rfl⟩ := h.taken leader member
    rw [baseName_trim] at own
    rw [rank_trim]
    have counted : name ∈ names.filter fun s => baseName s = base :=
      List.mem_filter.mpr ⟨listed, decide_eq_true own⟩
    exact List.le_maximum_of_mem' (List.mem_map_of_mem counted)

theorem step (h : Gathered names m.skills) (step : m.Steps (trim name) m')
    (filled : isPlaceholder (trim name) = false) : Gathered (names ++ [name]) m'.skills where
  decides := List.forall_mem_append.mpr ⟨fun other member => (h.decides other member).step step,
    List.forall_mem_singleton.mpr (step.decides filled)⟩
  taken := by
    have before (s : String) (member : s ∈ m.skills) : ∃ other ∈ names ++ [name], s = trim other := by
      obtain ⟨other, listed, same⟩ := h.taken s member
      exact ⟨other, List.mem_append_left _ listed, same⟩
    have here : ∃ other ∈ names ++ [name], trim name = trim other := ⟨name, by simp, rfl⟩
    intro s member
    cases step with
    | skip | keep => exact before s member
    | upgrade first =>
      rcases mem_of_replace member with kept | rfl
      · exact before s kept
      · exact here
    | add =>
      rcases List.mem_append.mp member with kept | last
      · exact before s kept
      · exact List.mem_singleton.mp last ▸ here
  apart := by
    cases step with
    | skip | keep => exact h.apart
    | @upgrade old first outranks =>
      obtain ⟨front, back, split, others, replaced⟩ := replace_leader first (trim name)
      have apart := h.apart
      rw [split, List.pairwise_append, List.pairwise_cons] at apart
      obtain ⟨left, ⟨-, right⟩, across⟩ := apart
      rw [Merge.upgrade, replaced, List.pairwise_append, List.pairwise_cons]
      refine ⟨left, ⟨fun s member => Bool.eq_false_iff.mpr fun same => ?_, right⟩,
        fun s member t later => ?_⟩
      · have listed : s ∈ m.skills := split ▸ by simp [member]
        rw [baseName_of_sameName same] at first
        have low := h.le_leader listed first
        have equal := rank_of_sameName same
        omega
      · rcases List.mem_cons.mp later with rfl | later
        · exact Bool.eq_false_iff.mpr fun same => others s member (baseName_of_sameName same)
        · exact across s member t (List.mem_cons_of_mem old later)
    | add level unlisted =>
      rw [List.pairwise_append]
      exact ⟨h.apart, List.pairwise_singleton _ _, fun s member t last => by
        rw [List.mem_singleton.mp last]
        exact unlisted s member⟩

end Gathered

theorem gathered_gather (filled : ∀ name ∈ names, isPlaceholder name = false) :
    Gathered names (gather names) := by
  induction names using List.reverseRecOn with
  | nil => exact ⟨nofun, nofun, .nil⟩
  | append_singleton names name ih =>
    obtain ⟨before, last⟩ := List.forall_mem_append.mp filled
    rw [gather_concat, merge, List.foldl_cons, List.foldl_nil]
    refine Gathered.step (m := { skills := gather names }) (ih before) (Merge.step_steps _ name) ?_
    rw [isPlaceholder_trim]
    exact last name (List.mem_singleton_self name)

/-! ### Levels -/

/-- Whether all names of a base name in a list are of one rank. -/
def Level (base : String) (held : List String) : Prop :=
  ∀ a ∈ held, ∀ b ∈ held, baseName a = base → baseName b = base → rank a = rank b

theorem Level.of_other {held later : List String} (h : Level base held)
    (same : ∀ s ∈ later, baseName s = base → s ∈ held) : Level base later :=
  fun a left b right own other => h a (same a left own) b (same b right other) own other

theorem Level.concat {held : List String} (h : Level base held)
    (level : ∀ s ∈ held, baseName s = base → baseName name = base → rank s = rank name) :
    Level base (held ++ [name]) := by
  intro a left b right own other
  rcases List.mem_append.mp left with left | left <;>
    rcases List.mem_append.mp right with right | right
  · exact h a left b right own other
  · rw [List.mem_singleton.mp right] at other ⊢
    exact level a left own other
  · rw [List.mem_singleton.mp left] at own ⊢
    exact (level b right other own).symm
  · rw [List.mem_singleton.mp left, List.mem_singleton.mp right]

namespace Gathered

variable {held : List String} {leader s : String}

/-- A name that does not outrank the leader of its base name does not outrank two names of it. -/
theorem outranks_none (h : Gathered names held)
    (level : ∀ leader, leader? held (baseName name) = some leader → rank name ≤ rank leader) :
    outranksTwo (names.filter fun s => baseName s = baseName name) name = false := by
  refine Bool.eq_false_iff.mpr fun two => ?_
  obtain ⟨above, a, member, -⟩ := outranksTwo_iff.mp two
  obtain ⟨present, own⟩ := List.mem_filter.mp member
  obtain ⟨leader, first, -⟩ := h.decides a present
  rw [baseName_trim, of_decide_eq_true own] at first
  obtain ⟨listed, shared⟩ := mem_leader first
  obtain ⟨name', source, rfl⟩ := h.taken leader listed
  rw [baseName_trim] at shared
  have low := above name' (List.mem_filter.mpr ⟨source, decide_eq_true shared⟩)
  have high := level _ first
  rw [rank_trim] at high
  omega

/-- A name that was gathered is decided and does not outrank its leader. -/
theorem decides_low (h : Gathered names held) (first : leader? held base = some leader)
    (counted : s ∈ names.filter fun s => baseName s = base) :
    Decides held (trim s) ∧ rank s ≤ rank leader := by
  obtain ⟨present, own⟩ := List.mem_filter.mp counted
  have decided := h.decides s present
  refine ⟨decided, rank_trim s ▸ decided.le_leader ?_⟩
  rw [baseName_trim, of_decide_eq_true own, first]

theorem exists_source (h : Gathered names held) (member : s ∈ held) (own : baseName s = base) :
    ∃ o ∈ names.filter fun s => baseName s = base, s = trim o := by
  obtain ⟨o, present, rfl⟩ := h.taken s member
  rw [baseName_trim] at own
  exact ⟨o, List.mem_filter.mpr ⟨present, decide_eq_true own⟩, rfl⟩

/-- A name of the highest rank that was gathered is listed in some spelling. -/
theorem exists_spelling (h : Gathered names held) (first : leader? held base = some leader)
    (counted : s ∈ names.filter fun s => baseName s = base)
    (top : ∀ o ∈ names.filter fun s => baseName s = base, rank o ≤ rank s) :
    ∃ t ∈ held, sameName t (trim s) = true ∧ baseName t = base ∧ rank t = rank leader := by
  obtain ⟨listed, shared⟩ := mem_leader first
  obtain ⟨⟨other, own, verdict⟩, low⟩ := h.decides_low first counted
  obtain ⟨o, source, same⟩ := h.exists_source listed shared
  have named : baseName s = base := of_decide_eq_true (List.mem_filter.mp counted).2
  rw [baseName_trim, named, first] at own
  obtain rfl := Option.some.inj own
  have level : rank s = rank leader := le_antisymm low (same ▸ (rank_trim o).symm ▸ top o source)
  rcases verdict with below | ⟨-, t, present, spelling⟩
  · rw [rank_trim, level] at below
    exact absurd below (lt_irrefl _)
  · refine ⟨t, present, spelling, ?_, ?_⟩
    · rw [baseName_of_sameName spelling, baseName_trim, named]
    · rw [rank_of_sameName spelling, rank_trim, level]

/-- A name that outranks its leader outranks two names exactly if another one in the list is of the
leader's rank. -/
theorem outranksTwo_iff (h : Gathered names held)
    (first : leader? held (baseName name) = some leader) (outranks : rank leader < rank name) :
    outranksTwo (names.filter fun s => baseName s = baseName name) name = true ↔
      ∃ s ∈ held, s ≠ leader ∧ baseName s = baseName name ∧ rank s = rank leader := by
  constructor
  · intro two
    obtain ⟨-, a, left, b, right, topA, topB, differ⟩ := Skill.outranksTwo_iff.mp two
    obtain ⟨s, present, spelling, own, level⟩ := h.exists_spelling first left topA
    obtain ⟨t, present', spelling', own', level'⟩ := h.exists_spelling first right topB
    -- Of two spelled names at most one is the leader.
    by_cases here : s = leader
    · refine ⟨t, present', fun also => ?_, own', level'⟩
      rw [here, sameName, beq_iff_eq] at spelling
      rw [also, sameName, beq_iff_eq] at spelling'
      rw [← sameName_trim, sameName, ← spelling, spelling', beq_self_eq_true] at differ
      cases differ
    · exact ⟨s, present, here, own, level⟩
  · rintro ⟨s, member, apart, own, level⟩
    obtain ⟨listed, shared⟩ := mem_leader first
    obtain ⟨a, left, rfl⟩ := h.exists_source member own
    obtain ⟨b, right, rfl⟩ := h.exists_source listed shared
    have low (o : String) (counted : o ∈ names.filter fun s => baseName s = baseName name) :
        rank o ≤ rank b := rank_trim b ▸ (h.decides_low first counted).2
    rw [rank_trim] at outranks
    rw [rank_trim, rank_trim] at level
    refine Skill.outranksTwo_iff.mpr ⟨fun o counted => (low o counted).trans_lt outranks,
      a, left, b, right, fun o counted => (low o counted).trans level.ge, low, ?_⟩
    rw [← sameName_trim]
    exact h.spelled_once member listed apart

/-- In the place of its leader a name is level with the rest exactly if there is no rest. -/
theorem level_replace (h : Gathered names held)
    (first : leader? held (baseName name) = some leader) (outranks : rank leader < rank name) :
    Level (baseName name) (held.replace leader name) ↔ Level (baseName name) held ∧
      ¬∃ s ∈ held, s ≠ leader ∧ baseName s = baseName name ∧ rank s = rank leader := by
  obtain ⟨listed, shared⟩ := mem_leader first
  have low (s : String) (member : s ∈ held) (own : baseName s = baseName name) :
      rank s ≤ rank leader := h.le_leader member (own ▸ first)
  constructor
  · intro level
    have alone (s : String) (member : s ∈ held) (own : baseName s = baseName name) : s = leader := by
      by_contra apart
      have same := level s (mem_replace_of_ne member apart name) name (mem_replace_self first name)
        own rfl
      have high := low s member own
      omega
    constructor
    · intro a left b right own other
      rw [alone a left own, alone b right other]
    · rintro ⟨s, member, apart, own, -⟩
      exact apart (alone s member own)
  · rintro ⟨level, single⟩
    have alone (s : String) (member : s ∈ held.replace leader name)
        (own : baseName s = baseName name) : s = name := by
      obtain ⟨before, after, split, others, replaced⟩ := replace_leader first name
      rw [replaced] at member
      rcases List.mem_append.mp member with left | right
      · exact absurd own (others s left)
      · refine (List.mem_cons.mp right).resolve_right fun later => ?_
        have present : s ∈ held := split ▸ List.mem_append_right before (List.mem_cons_of_mem _ later)
        have same : s = leader := by
          by_contra apart
          exact single ⟨s, present, apart, own, level s present leader listed own shared⟩
        have differ := h.apart
        rw [split, List.pairwise_append, List.pairwise_cons] at differ
        have once := differ.2.1.1 s later
        rw [same, sameName, beq_self_eq_true] at once
        cases once
    intro a left b right own other
    rw [alone a left own, alone b right other]

/-- The list stays level in a base name unless the new name outranks two names of it. -/
theorem level_step (h : Gathered names m.skills) (step : m.Steps (trim name) m')
    (filled : isPlaceholder (trim name) = false) : Level base m'.skills ↔ Level base m.skills ∧
      (baseName name = base →
        outranksTwo (names.filter fun s => baseName s = base) name = false) := by
  have idle (low : ∀ leader, leader? m.skills (baseName name) = some leader → rank name ≤ rank leader) :
      baseName name = base → outranksTwo (names.filter fun s => baseName s = base) name = false := by
    rintro rfl
    exact h.outranks_none low
  cases step with
  | skip placeholder => exact nomatch filled.symm.trans placeholder
  | keep decided =>
    refine (and_iff_left (idle fun leader first => ?_)).symm
    rw [← baseName_trim] at first
    exact rank_trim name ▸ decided.le_leader first
  | add level unlisted =>
    rw [baseName_trim, rank_trim] at level
    rw [and_iff_left (idle fun leader first => (level leader first).ge)]
    refine ⟨fun after => after.of_other fun s member _ => List.mem_append_left _ member,
      fun before => before.concat fun s member own shared => ?_⟩
    rw [baseName_trim] at shared
    obtain ⟨leader, first⟩ := exists_leader member
    obtain ⟨listed, same⟩ := mem_leader first
    rw [own, ← shared] at first
    rw [rank_trim, ← level leader first]
    exact before s member leader listed own (same.trans own)
  | @upgrade leader first outranks =>
    by_cases own : baseName name = base
    · have alone := h.level_replace first outranks
      rw [baseName_trim] at alone first
      rw [rank_trim] at outranks
      rw [← own, Merge.upgrade, alone, ← h.outranksTwo_iff first outranks, Bool.not_eq_true]
      exact and_congr_right fun _ => ⟨fun single _ => single, fun single => single rfl⟩
    · rw [and_iff_left fun same => absurd same own]
      have other := (mem_leader first).2
      rw [baseName_trim] at other
      constructor
      · intro after
        refine after.of_other fun s member shared => mem_replace_of_ne member (fun same => own ?_) _
        rw [← other, ← same, shared]
      · intro before
        refine before.of_other fun s member shared => (mem_of_replace member).resolve_right fun same => ?_
        rw [same, baseName_trim] at shared
        exact own shared

end Gathered

theorem level_gather (filled : ∀ name ∈ names, isPlaceholder name = false) (base : String) :
    Level base (gather names) ↔ contested [] (names.filter fun s => baseName s = base) = false := by
  induction names using List.reverseRecOn with
  | nil => exact iff_of_true nofun rfl
  | append_singleton names name ih =>
    obtain ⟨before, last⟩ := List.forall_mem_append.mp filled
    have here : isPlaceholder (trim name) = false :=
      (isPlaceholder_trim name).trans (last name (List.mem_singleton_self name))
    rw [gather_concat, merge, List.foldl_cons, List.foldl_nil,
      (gathered_gather before).level_step (m := { skills := gather names })
        (Merge.step_steps _ name) here, ih before, List.filter_append]
    by_cases own : baseName name = base
    · rw [List.filter_singleton, decide_eq_true own]
      simp [contested_concat, own]
    · simp [own]

/-- Gathering keeps no name in two spellings, and of every base name one of the highest rank. It keeps
nothing lower beside it exactly if no name outranks two that were of the highest rank until then: only
the first of them makes way. -/
theorem gather_keeps_highest (filled : ∀ name ∈ names, isPlaceholder name = false) :
    ((gather names).Pairwise fun a b => sameName a b = false) ∧
      (∀ name ∈ names, ∃ held ∈ gather names, baseName held = baseName name ∧
        topRank names (baseName name) = rank held) ∧
      ∀ base, (∀ held ∈ gather names, baseName held = base → topRank names base = rank held) ↔
        contested [] (names.filter fun s => baseName s = base) = false := by
  have gathered := gathered_gather filled
  refine ⟨gathered.apart, fun name member => ?_, fun base => ?_⟩
  · obtain ⟨held, first, -⟩ := gathered.decides name member
    rw [baseName_trim] at first
    obtain ⟨listed, shared⟩ := mem_leader first
    exact ⟨held, listed, shared, gathered.topRank_eq first⟩
  · rw [← level_gather filled]
    constructor
    · intro top a left b right own other
      exact WithBot.coe_injective ((top a left own).symm.trans (top b right other))
    · intro level held member own
      obtain ⟨leader, first⟩ := exists_leader member
      obtain ⟨listed, shared⟩ := mem_leader first
      rw [own] at first shared
      rw [gathered.topRank_eq first, level leader listed held member shared own]

/-- A skill in several ranks and spellings, beside another one. -/
def blades : List String :=
  ["Kiếm (Sơ Cấp)", "  kiếm (sơ cấp) ", "Kiếm (Cao Cấp)", "Kiếm nâng cao", "Kiếm (Trung Cấp)", "Quyền"]

theorem blades_keep_highest : (∀ name ∈ blades, isPlaceholder name = false) ∧
    (∃ held ∈ gather blades, baseName held = "kiếm" ∧ topRank blades "kiếm" = rank held) ∧
    ∀ held ∈ gather blades, baseName held = "kiếm" → topRank blades "kiếm" = rank held := by
  have filled : ∀ name ∈ blades, isPlaceholder name = false := by decide +kernel
  have base : baseName "Kiếm (Cao Cấp)" = "kiếm" := by decide +kernel
  obtain ⟨-, highest, alone⟩ := gather_keeps_highest filled
  have kept := highest "Kiếm (Cao Cấp)" (by decide)
  rw [base] at kept
  exact ⟨filled, kept, (alone "kiếm").mpr (by decide +kernel)⟩

/-- A rank of a skill in two wordings, then the next one. -/
def swords : List String := ["Kiếm Pháp (Sơ Cấp)", "Kiếm Pháp sơ cấp", "Kiếm Pháp (Trung Cấp)"]

/-- The second wording stays beside the higher rank; in the other order it is rejected. -/
theorem swords_keep_lower : (∀ name ∈ swords, isPlaceholder name = false) ∧
    (∃ held ∈ gather swords, ∃ name ∈ swords, baseName name = baseName held ∧ rank held < rank name) ∧
    gather swords.reverse = ["Kiếm Pháp (Trung Cấp)"] := by
  decide +kernel

end Gamebook.Skill
