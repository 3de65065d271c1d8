import Mathlib
import Gamebook.Proofs.Cleanup.Idempotence
import Gamebook.Proofs.Memory.Similarity

/-!
Generated memories are new. Candidates of one story are compared with what was known before the story,
the others one by one, and repetitions among what is gathered are left out at the end; as repetition
does not depend on the order, none is left after sorting. What is gathered has its own score for its
importance, so the order is that of the exact values.
-/

namespace Gamebook

open Outcome

namespace Memory

variable {s : GameState} {m : Memory}

theorem Scored.weight_height (h : m.Scored s) :
    m.weight.NonNegative ∧ m.weight.height ≤ Double.fullHeight := by
  obtain ⟨x, score, noted⟩ := h
  have own : m.weight = x := by rw [weight, noted, Option.getD_some]
  rw [own]
  exact ⟨score_nonNegative score, score_height_le score⟩

/-- Whether a memory has its score for its importance and repeats none of the state. -/
structure Fresh (s : GameState) (m : Memory) : Prop where
  scored : m.Scored s
  new : m.isDuplicate s.memories = false

end Memory

theorem byImportance_perm (memories : List Memory) : (byImportance memories).Perm memories :=
  List.mergeSort_perm _ _

/-- By importance, scored memories do not rise. -/
theorem byImportance_pairwise {s : GameState} {memories : List Memory}
    (scored : ∀ m ∈ memories, m.Scored s) :
    (byImportance memories).Pairwise fun a b => Double.Rises b.weight a.weight := by
  -- comparisons are total on scored memories alone, so the order is that of heights there
  have same : byImportance memories =
      memories.mergeSort fun a b => decide (b.weight.height ≤ a.weight.height) := by
    have agree : ∀ a ∈ memories, ∀ b ∈ memories,
        (!a.weight.lt b.weight) = decide (b.weight.height ≤ a.weight.height) := by
      intro a ha b hb
      have order := Double.lt_iff_height (scored a ha).weight_height.1 (scored b hb).weight_height.1
      rw [Bool.eq_iff_iff, Bool.not_eq_true', ← Bool.not_eq_true, order, decide_eq_true_eq, not_lt]
    have sorted : (byImportance memories).map id = (memories.map id).mergeSort
        fun a b => decide (b.weight.height ≤ a.weight.height) := List.map_mergeSort agree
    rwa [List.map_id, List.map_id] at sorted
  have descending : (byImportance memories).Pairwise fun a b =>
      decide (b.weight.height ≤ a.weight.height) = true := by
    rw [same]
    apply List.pairwise_mergeSort
    · intro a b d
      simpa using fun below above => Nat.le_trans above below
    · intro a b
      simpa using Nat.le_total b.weight.height a.weight.height
  refine descending.imp_of_mem fun {a b} ha hb order => ?_
  have high := (scored a (List.mem_mergeSort.mp ha)).weight_height
  have low := (scored b (List.mem_mergeSort.mp hb)).weight_height
  exact Double.rises_of_height_le low.1 high.1 (of_decide_eq_true order) high.2

namespace GenerationConfig

variable {c : GenerationConfig} {s : GameState} {e : Entry} {acc next last : List Memory × Nat}
  {entries : List Entry} {told standing : List Memory}

/-! ### Stories -/

/-- What one entry adds: nothing if there are enough memories or no story is told, and else the
candidates that qualify. -/
inductive Collects (c : GenerationConfig) (s : GameState) (acc : List Memory × Nat) (e : Entry) :
    List Memory × Nat → Prop
  | enough : c.maxPerTurn ≤ acc.1.length → Collects c s acc e acc
  | silent : (∀ story, e.story? = .ok (some story) → story.isEmpty = true) → Collects c s acc e acc
  | told {story : String} {candidates : List Memory} : e.story? = .ok (some story) →
      c.analyzeStory story s = .ok candidates →
      Collects c s acc e
        (acc.1 ++ candidates.filter (c.qualifies (s.memories ++ acc.1)), acc.2 + 1)

theorem collects_of_eq_ok (h : c.collectEntry s acc e = .ok next) : Collects c s acc e next := by
  rw [collectEntry] at h
  split_ifs at h with enough
  · obtain rfl := Except.ok.inj h
    exact .enough enough
  · obtain ⟨found, read, result⟩ := bind_eq_ok.mp h
    cases found with
    | none =>
      obtain rfl := pure_eq_ok.mp result
      refine .silent fun story other => ?_
      exact absurd (Except.ok.inj (read.symm.trans other)) (Option.some_ne_none story).symm
    | some story =>
      change (if story.isEmpty then _ else _) = _ at result
      split_ifs at result with empty
      · obtain rfl := pure_eq_ok.mp result
        refine .silent fun other same => ?_
        obtain rfl := Option.some.inj (Except.ok.inj (read.symm.trans same))
        exact empty
      · obtain ⟨candidates, analyzed, result⟩ := bind_eq_ok.mp result
        obtain rfl := pure_eq_ok.mp result
        exact .told read analyzed

theorem Collects.fresh (h : Collects c s acc e next) (fresh : ∀ m ∈ acc.1, m.Fresh s) :
    ∀ m ∈ next.1, m.Fresh s := by
  cases h with
  | enough | silent => exact fresh
  | told _ analyzed =>
    refine List.forall_mem_append.mpr ⟨fresh, fun m member => ?_⟩
    obtain ⟨candidate, qualified⟩ := List.mem_filter.mp member
    have new : m.isDuplicate (s.memories ++ acc.1) = false := by
      simpa using (Bool.and_eq_true_iff.mp qualified).2
    rw [Memory.isDuplicate, List.any_append, Bool.or_eq_false_iff] at new
    exact ⟨forall_mem_of_mapM (fun _ _ => Memory.scored_of_enhanced) analyzed m candidate, new.1⟩

theorem stories_fresh
    (h : entries.foldlM (c.collectEntry s) ([], 0) = .ok last) : ∀ m ∈ last.1, m.Fresh s := by
  refine foldlM_keeps (P := fun acc => ∀ m ∈ acc.1, m.Fresh s)
    (fun acc e next fresh step => (collects_of_eq_ok step).fresh fresh) ?_ h
  exact fun m absent => absurd absent List.not_mem_nil

/-- An entry whose stories, if any, give no candidate that qualifies. -/
def Untold (c : GenerationConfig) (s : GameState) (e : Entry) : Prop :=
  ∀ story, e.story? = .ok (some story) → story.isEmpty = false →
    ∀ candidates, c.analyzeStory story s = .ok candidates →
      ∀ m ∈ candidates, c.qualifies s.memories m = false

theorem Collects.untold (h : Collects c s acc e next) (wanted : 0 < c.maxPerTurn)
    (none : next.1 = []) : acc.1 = [] ∧ Untold c s e := by
  cases h with
  | enough enough =>
    rw [none, List.length_nil] at enough
    omega
  | silent silent =>
    refine ⟨none, fun story read nonempty => ?_⟩
    exact nomatch nonempty.symm.trans (silent story read)
  | told read analyzed =>
    obtain ⟨empty, unqualified⟩ := List.append_eq_nil_iff.mp none
    refine ⟨empty, fun story same _ candidates again m member => ?_⟩
    obtain rfl := Option.some.inj (Except.ok.inj (read.symm.trans same))
    obtain rfl := Except.ok.inj (analyzed.symm.trans again)
    rw [empty, List.append_nil] at unqualified
    exact Bool.eq_false_iff.mpr (List.filter_eq_nil_iff.mp unqualified m member)

/-- If nothing was collected from entries, none of them tells anything that qualifies. -/
theorem stories_untold (wanted : 0 < c.maxPerTurn)
    (h : entries.foldlM (c.collectEntry s) acc = .ok last) (none : last.1 = []) :
    acc.1 = [] ∧ ∀ e ∈ entries, Untold c s e := by
  induction entries generalizing acc with
  | nil =>
    obtain rfl := pure_eq_ok.mp h
    exact ⟨none, fun e absent => absurd absent List.not_mem_nil⟩
  | cons e entries ih =>
    rw [List.foldlM_cons, bind_eq_ok] at h
    obtain ⟨next, first, rest⟩ := h
    obtain ⟨empty, others⟩ := ih rest
    obtain ⟨start, untold⟩ := (collects_of_eq_ok first).untold wanted empty
    exact ⟨start, List.forall_mem_cons.mpr ⟨untold, others⟩⟩

/-! ### What is gathered -/

/-- What was told, with what else is new. -/
def gathered (s : GameState) (told standing : List Memory) : List Memory :=
  keepFrom (fun kept m => m.isDuplicate (s.memories ++ kept)) told standing

theorem generate_eq_ok {g : Generation} (h : c.generate s = .ok g) : ∃ told analyzed standing,
    (c.recentEntries s.gameHistory).foldlM (c.collectEntry s) ([], 0) = .ok (told, analyzed) ∧
    c.standing s = .ok standing ∧
    g.memories = (byImportance (deduplicate (gathered s told standing))).take c.maxPerTurn := by
  simp only [generate, bind_eq_ok, pure_eq_ok] at h
  obtain ⟨⟨told, analyzed⟩, collected, standing, stood, rfl⟩ := h
  exact ⟨told, analyzed, standing, collected, stood, rfl⟩

theorem gathered_fresh (fresh : ∀ m ∈ told, m.Fresh s) (scored : ∀ m ∈ standing, m.Scored s) :
    ∀ m ∈ gathered s told standing, m.Fresh s := by
  refine forall_mem_keepFrom (fun {kept m} member free => ⟨scored m member, ?_⟩) fresh
  rw [Memory.isDuplicate, List.any_append, Bool.or_eq_false_iff] at free
  exact free.1

/-- If nothing is gathered, nothing was told and all else repeats the state. -/
theorem gathered_eq_nil (none : gathered s told standing = []) :
    told = [] ∧ ∀ m ∈ standing, m.isDuplicate s.memories = true := by
  refine ⟨List.prefix_nil.mp (none ▸ prefix_keepFrom), fun m member => ?_⟩
  have grows : ∀ {kept later : List Memory} {m : Memory}, kept ⊆ later →
      m.isDuplicate (s.memories ++ kept) = true → m.isDuplicate (s.memories ++ later) = true :=
    fun more => Memory.isDuplicate_mono (List.append_subset.mpr
      ⟨List.subset_append_left _ _, List.Subset.trans more (List.subset_append_right _ _)⟩)
  have ruled : m ∈ gathered s told standing ∨
      m.isDuplicate (s.memories ++ gathered s told standing) = true :=
    mem_keepFrom_or grows member
  rw [none, List.append_nil] at ruled
  exact ruled.resolve_left List.not_mem_nil

/-- Whether there is nothing new to remember: no recent story gives a candidate that qualifies, and
whatever else could be remembered repeats the state. -/
structure NothingNew (c : GenerationConfig) (s : GameState) : Prop where
  stories : ∀ e ∈ c.recentEntries s.gameHistory, Untold c s e
  standing : ∀ standing, c.standing s = .ok standing →
    ∀ m ∈ standing, m.isDuplicate s.memories = true

theorem nothingNew_of_gathered {analyzed : Nat} (wanted : 0 < c.maxPerTurn)
    (collected : (c.recentEntries s.gameHistory).foldlM (c.collectEntry s) ([], 0) =
      .ok (told, analyzed))
    (stood : c.standing s = .ok standing) (none : gathered s told standing = []) :
    NothingNew c s := by
  obtain ⟨untold, others⟩ := gathered_eq_nil none
  refine ⟨(stories_untold wanted collected untold).2, fun again stood' => ?_⟩
  obtain rfl := Except.ok.inj (stood.symm.trans stood')
  exact others

/-- What is said of generated memories: there are few, each has its score for its importance, the
greatest first, and none repeats the state or any of the others. There are none only if none are
wanted or there is nothing new. -/
structure Novel (c : GenerationConfig) (s : GameState) (memories : List Memory) : Prop where
  few : memories.length ≤ c.maxPerTurn
  scored : ∀ m ∈ memories, m.Scored s
  descending : memories.Pairwise fun a b => Double.Rises b.weight a.weight
  new : ∀ m ∈ memories, m.isDuplicate s.memories = false
  apart : ∀ before m after, memories = before ++ m :: after → ∀ others ⊆ before ++ after,
    m.isDuplicate others = false
  complete : memories = [] → c.maxPerTurn = 0 ∨ NothingNew c s

/-- Memories are generated if the history can be read, and they are new and mutually distinct. -/
theorem generate_novel (c : GenerationConfig) (s : GameState) :
    (s.knownEntities.length ≤ crowd → (∀ e ∈ s.gameHistory, e.Readable) →
      ∃ g, c.generate s = .ok g) ∧
    ∀ g, c.generate s = .ok g → Novel c s g.memories := by
  refine ⟨fun known readable => ?_, fun g h => ?_⟩
  · obtain ⟨g, generated, -⟩ := exists_generate (c := c) known readable
    exact ⟨g, generated⟩
  obtain ⟨told, analyzed, standing, collected, stood, chosen⟩ := generate_eq_ok h
  have fresh : ∀ m ∈ deduplicate (gathered s told standing), m.Fresh s := by
    intro m member
    refine gathered_fresh (stories_fresh collected) ?_ m (deduplicate_subset _ member)
    exact forall_mem_of_mapM (fun _ _ => Memory.scored_of_enhanced) stood
  have sub : g.memories.Sublist (byImportance (deduplicate (gathered s told standing))) :=
    chosen ▸ List.take_sublist _ _
  have listed {m : Memory} (member : m ∈ g.memories) : m.Fresh s :=
    fresh m ((byImportance_perm _).subset (sub.subset member))
  have apart : g.memories.Pairwise Memory.Apart := by
    refine List.Pairwise.sublist sub ?_
    exact (byImportance_perm _).symm.pairwise (deduplicate_pairwise _) Memory.Apart.symm
  constructor
  · rw [chosen]
    exact List.length_take_le _ _
  · exact fun m member => (listed member).scored
  · exact List.Pairwise.sublist sub (byImportance_pairwise fun m member => (fresh m member).scored)
  · exact fun m member => (listed member).new
  · rintro before m after split others among
    exact not_isDuplicate_others (split ▸ apart) among
  · intro none
    refine or_iff_not_imp_left.mpr fun wanted => ?_
    rw [chosen, List.take_eq_nil_iff, or_iff_right wanted] at none
    have unsorted := ((byImportance_perm _).symm.trans (.of_eq none)).eq_nil
    exact nothingNew_of_gathered (Nat.pos_of_ne_zero wanted) collected stood
      (deduplicate_eq_nil unsorted)

/-- A friend in the party and a completed quest; the quest is remembered already. -/
def reunion : GameState where
  party := [{ name := "Lan", kind := .companion, relationship := some "Bạn" }]
  quests := [{ title := "Cứu Lan", status := .completed }]
  memories := [{ text := "hoàn thành nhiệm vụ: cứu Lan!" }]

/-- One of two memories is new, and it is returned. -/
theorem reunion_novel : reunion.knownEntities.length ≤ crowd ∧
    (∀ e ∈ reunion.gameHistory, e.Readable) ∧
    ∃ g, generate { maxPerTurn := 2 } reunion = .ok g ∧ g.memories.length = 1 ∧
      Novel { maxPerTurn := 2 } reunion g.memories := by
  have known : reunion.knownEntities.length ≤ crowd := Nat.zero_le _
  have readable : ∀ e ∈ reunion.gameHistory, e.Readable :=
    fun e absent => absurd absent List.not_mem_nil
  obtain ⟨g, generated⟩ := (generate_novel { maxPerTurn := 2 } reunion).1 known readable
  refine ⟨known, readable, g, generated, ?_, (generate_novel _ _).2 g generated⟩
  obtain ⟨told, analyzed, standing, collected, stood, chosen⟩ := generate_eq_ok generated
  obtain rfl : [] = told := congrArg Prod.fst (pure_eq_ok.mp collected)
  have count : ((({ maxPerTurn := 2 } : GenerationConfig).standing reunion).toOption.any
      fun standing => decide ((deduplicate (gathered reunion [] standing)).length = 1)) = true := by
    decide +kernel
  rw [stood] at count
  have one : (deduplicate (gathered reunion [] standing)).length = 1 := of_decide_eq_true count
  rw [chosen, List.length_take, byImportance, List.length_mergeSort, one]
  rfl

end GenerationConfig

end Gamebook
