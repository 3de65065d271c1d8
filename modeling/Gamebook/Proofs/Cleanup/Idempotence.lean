import Mathlib
import Gamebook.Proofs.Cleanup.Failure

/-!
A second cleanup in the same turn changes nothing. What the first one chose is settled for the
second: every memory has the score it would get again, no score has fallen below the threshold for
being enhanced, nothing more is to be filled in, and all of it fits ceiling and budget. As enhancement
never lowers a score, what passed the threshold when it was weighed passes it in the form in which it
stays active.
-/

namespace Gamebook

open Outcome

/-- Whoever is active late in the last part of a history is active late in the whole. -/
theorem isRecentlyActive_of_suffix {s s' : GameState} (suffix : s'.gameHistory <:+ s.gameHistory)
    {name : String} (active : isRecentlyActive s' name = true) : isRecentlyActive s name = true := by
  obtain ⟨older, whole⟩ := suffix
  have late : s.gameHistory.drop (s.gameHistory.length - 10) =
      older.drop (s.gameHistory.length - 10) ++
        s'.gameHistory.drop (s'.gameHistory.length - 10) := by
    rw [← whole, List.drop_append, List.length_append]
    congr 2
    omega
  rw [isRecentlyActive] at active ⊢
  rw [late, List.any_append, active, Bool.or_true]

namespace Memory

theorem needsEnhancement_of_suffix {s s' : GameState} (turn : s'.turnCount = s.turnCount)
    (suffix : s'.gameHistory <:+ s.gameHistory) {m : Memory} (h : m.needsEnhancement s = false) :
    m.needsEnhancement s' = false := by
  simp only [needsEnhancement, Bool.or_eq_false_iff, turn, List.any_eq_false] at h ⊢
  refine ⟨h.1, fun name member active => ?_⟩
  exact h.2 name member (isRecentlyActive_of_suffix suffix active)

/-- The importance is the score in the present state. -/
def Scored (s : GameState) (m : Memory) : Prop :=
  ∃ x, m.score s = .ok x ∧ m.importance = some x

theorem Scored.rescore {s : GameState} {m : Memory} (h : m.Scored s) :
    CleanupConfig.rescore s m = .ok m := by
  obtain ⟨x, score, noted⟩ := h
  refine CleanupConfig.rescore_eq_ok.mpr ⟨x, score, ?_⟩
  rw [← noted]

theorem scored_of_rescore {s : GameState} {m m' : Memory}
    (h : CleanupConfig.rescore s m = .ok m') : m'.Scored s := by
  obtain ⟨x, score, rfl⟩ := CleanupConfig.rescore_eq_ok.mp h
  exact ⟨x, (score_noted m s _).trans score, rfl⟩

theorem scored_of_enhanced {s : GameState} {m e : Memory} (h : m.enhanced s = .ok e) :
    e.Scored s := by
  obtain ⟨x, score, rfl⟩ := enhanced_eq_ok.mp h
  exact ⟨x, (score_noted (m.filled s) s _).trans score, rfl⟩

/-- A memory that is important enough stays so when it is enhanced. -/
theorem Scored.importanceBelow_enhanced {s : GameState} {m e : Memory} {threshold : Number}
    (scored : m.Scored s) (h : m.enhanced s = .ok e)
    (high : m.importanceBelow threshold = false) : e.importanceBelow threshold = false := by
  obtain ⟨x, score, noted⟩ := scored
  obtain ⟨y, later, rfl⟩ := enhanced_eq_ok.mp h
  rw [importanceBelow, weight, noted, Option.getD_some] at high
  rw [importanceBelow, weight, Option.getD_some]
  by_contra low
  rw [Bool.not_eq_false] at low
  have lower := Number.float_lt_antitone (score_nonNegative score) (score_nonNegative later)
    (score_height_le_filled score later) low
  exact nomatch lower.symm.trans high

end Memory

namespace Choice

theorem Taken.scored {c : CleanupConfig} {s : GameState} {m a : Memory} (h : Taken c s m a)
    (scored : m.Scored s) : a.Scored s := by
  cases h with
  | pinned => exact scored
  | loose _ _ offer => cases offer with
      | asIs => exact scored
      | refreshed _ done => exact Memory.scored_of_enhanced done

/-- What was taken is taken as it is in a later state of the same turn whose history is a last part
of the old one. -/
theorem Taken.settled {c : CleanupConfig} {s s' : GameState} {m a : Memory} (h : Taken c s m a)
    (scored : m.Scored s) (turn : s'.turnCount = s.turnCount)
    (known : s'.knownEntities = s.knownEntities) (suffix : s'.gameHistory <:+ s.gameHistory) :
    Settled c s' a := by
  cases h with
  | pinned pin => exact .pinned pin
  | loose loose high offer => cases offer with
      | asIs complete =>
          exact .loose loose high (.asIs (Memory.needsEnhancement_of_suffix turn suffix complete))
      | refreshed _ done =>
          -- it may be due for enhancement again, but that gives the same memory
          have pin := congrArg Prod.snd (Memory.essence_enhanced done)
          have again : a.enhanced s' = .ok a := by
            rw [Memory.enhanced_congr turn known]
            exact Memory.enhanced_enhanced done
          refine .loose (pin.trans loose) (scored.importanceBelow_enhanced done high) ?_
          cases stale : a.needsEnhancement s' with
          | false => exact .asIs stale
          | true => exact .refreshed stale again

end Choice

namespace CleanupConfig

variable {c : CleanupConfig} {s : GameState} {r : CleanupResult}

theorem scored_of_mapM {memories scored : List Memory}
    (h : memories.mapM (rescore s) = .ok scored) : ∀ m ∈ scored, m.Scored s :=
  forall_mem_of_mapM (fun _ _ => Memory.scored_of_rescore) h

theorem mapM_rescore {memories : List Memory} (h : ∀ m ∈ memories, m.Scored s) :
    memories.mapM (rescore s) = .ok memories :=
  mapM_eq_ok.mpr (List.forall₂_same.mpr fun m member => (h m member).rescore)

theorem applyCleanup_turnCount (s : GameState) (r : CleanupResult) :
    (applyCleanup s r).turnCount = s.turnCount := by
  rw [applyCleanup]
  split_ifs <;> rfl

theorem applyCleanup_knownEntities (s : GameState) (r : CleanupResult) :
    (applyCleanup s r).knownEntities = s.knownEntities := by
  rw [applyCleanup]
  split_ifs <;> rfl

theorem applyCleanup_same (memories : r.activeMemories = s.memories) (archived : r.archived = [])
    (history : r.activeHistory = s.gameHistory) (segment : r.segment = none) :
    applyCleanup s r = s := by
  rw [applyCleanup, memories, archived, history, segment, Option.toList_none, List.append_nil,
    List.append_nil, ite_self]

/-- If scored memories are chosen from again, all of them are chosen. -/
theorem Trace.choose_again (t : Trace c s r) (due : c.memoriesDue t.chosen.active = true) :
    ∃ ch, c.choose t.chosen.active (applyCleanup s r) = .ok ch ∧
      ch.active = t.chosen.active ∧ ch.archived = [] := by
  obtain ⟨-, chosen⟩ | ⟨still, active, -⟩ := choose_cases t.selected
  · obtain ⟨budget, known, within⟩ := partition_withinBudget chosen
    obtain ⟨dropped, split, -⟩ := manageHistory_split t.windowed
    have suffix : (applyCleanup s r).gameHistory <:+ s.gameHistory := by
      rw [t.apply_gameHistory, split]
      exact List.suffix_append _ _
    rw [choose, if_pos due]
    apply partition_settled known (partition_length_le chosen) _ within
    intro a member
    obtain ⟨m, candidate, taken⟩ := partition_taken chosen a member
    exact taken.settled (scored_of_mapM t.rescored m candidate) (applyCleanup_turnCount s r)
      (applyCleanup_knownEntities s r) suffix
  · rw [active, still] at due
    cases due

theorem Trace.active_scored (t : Trace c s r) :
    ∀ a ∈ t.chosen.active, a.Scored (applyCleanup s r) := by
  have scored := scored_of_mapM t.rescored
  have now : ∀ a ∈ t.chosen.active, a.Scored s := by
    obtain ⟨-, chosen⟩ | ⟨-, active, -⟩ := choose_cases t.selected
    · intro a member
      obtain ⟨m, candidate, taken⟩ := partition_taken chosen a member
      exact taken.scored (scored m candidate)
    · rwa [active]
  intro a member
  obtain ⟨x, score, noted⟩ := now a member
  refine ⟨x, ?_, noted⟩
  rw [Memory.score_congr (applyCleanup_turnCount s r) (applyCleanup_knownEntities s r), score]

theorem Trace.apply_memories_of_triggered (t : Trace c s r) (triggered : r.triggered = true) :
    (applyCleanup s r).memories = t.chosen.active := by
  rw [applyCleanup, if_pos triggered, ← congrArg CleanupResult.activeMemories t.result]
  rfl

/-- After a triggered pass without generation, the next pass finds nothing to change. -/
theorem Trace.pass_again (t : Trace c s r) (quiet : c.generatesMemories = false)
    (triggered : r.triggered = true) :
    ∃ again, c.pass (applyCleanup s r) = .ok again ∧ again.archived = [] ∧ again.segment = none ∧
      applyCleanup (applyCleanup s r) again = applyCleanup s r := by
  have memories := t.apply_memories_of_triggered triggered
  have short : (applyCleanup s r).gameHistory.length ≤ c.history.threshold := by
    rw [t.apply_gameHistory]
    exact manageHistory_length_le t.windowed
  cases due : c.memoriesDue (applyCleanup s r).memories with
  | false =>
      have history : c.historyDue (applyCleanup s r) = false :=
        decide_eq_false (Nat.not_lt.mpr short)
      exact ⟨.unchanged _, pass_eq_ok.mpr (.inr ⟨⟨history, due⟩, rfl⟩), rfl, rfl, rfl⟩
  | true =>
      obtain ⟨ch, chosen, active, archived⟩ := t.choose_again (memories ▸ due)
      have work : Trace c (applyCleanup s r) (decided (applyCleanup s r)
          { active := (applyCleanup s r).gameHistory
            originalSize := (applyCleanup s r).gameHistory.length
            newSize := (applyCleanup s r).gameHistory.length } none ch) :=
        { history := _
          generation := none
          scored := t.chosen.active
          chosen := ch
          windowed := manageHistory_short short
          generated := if_neg (Bool.eq_false_iff.mp quiet)
          rescored := by
            rw [memories]
            exact (List.append_nil t.chosen.active).symm ▸ mapM_rescore t.active_scored
          selected := chosen
          result := rfl }
      refine ⟨_, pass_eq_ok.mpr (.inl ⟨.inr due, ⟨work⟩⟩), archived, rfl, ?_⟩
      exact applyCleanup_same (active.trans memories.symm) archived rfl rfl

end CleanupConfig

theorem coordinatedCleanup_eq (s : GameState) (c : CleanupConfig) :
    coordinatedCleanup s c = c.pass s := Coordinator.run_fresh rfl nofun

/-- Without generation, cleanup is idempotent within a turn: the second pass has a result whenever
the first one has, and changes nothing. -/
theorem coordinatedCleanup_idempotent (c : CleanupConfig) (s : GameState)
    (quiet : c.generatesMemories = false) :
    Coordinator.Answers { config := c } s ∧ ∀ r, coordinatedCleanup s c = .ok r →
      ∃ again, coordinatedCleanup (applyCleanup s r) c = .ok again ∧ again.archived = [] ∧
        again.segment = none ∧ applyCleanup (applyCleanup s r) again = applyCleanup s r := by
  refine ⟨Coordinator.answers _ s, fun r h => ?_⟩
  rw [coordinatedCleanup_eq] at h ⊢
  obtain ⟨-, ⟨t⟩⟩ | ⟨-, rfl⟩ := CleanupConfig.pass_eq_ok.mp h
  · cases triggered : r.triggered with
    | true => exact t.pass_again quiet triggered
    | false =>
        have same : applyCleanup s r = s := by
          rw [applyCleanup, triggered]
          rfl
        obtain ⟨segment, archived, -⟩ := t.idle triggered
        rw [same]
        refine ⟨r, h, ?_, ?_, same⟩
        · rw [← congrArg CleanupResult.archived t.result]
          exact archived
        · rw [← congrArg CleanupResult.segment t.result]
          exact segment
  · rw [applyCleanup_unchanged]
    exact ⟨_, h, rfl, rfl, rfl⟩

theorem narrow_idempotent : ∃ r again,
    coordinatedCleanup Coordinator.crowded Coordinator.narrow.config = .ok r ∧
      r.triggered = true ∧
      coordinatedCleanup (applyCleanup Coordinator.crowded r) Coordinator.narrow.config =
        .ok again ∧
      again.archived = [] ∧ again.segment = none ∧
      applyCleanup (applyCleanup Coordinator.crowded r) again =
        applyCleanup Coordinator.crowded r := by
  obtain ⟨r, works, triggered⟩ := Coordinator.narrow_works
  obtain ⟨again, same⟩ := (coordinatedCleanup_idempotent Coordinator.narrow.config
    Coordinator.crowded rfl).2 r works
  exact ⟨r, again, works, triggered, same⟩

/-! ### The threshold after a refresh -/

namespace Number

/-- Whether an importance reaches a threshold: it is not below, and where the threshold is a finite
amount its value is no less. -/
structure Reaches (x : Double) (threshold : Number) : Prop where
  above : (Number.float x).lt threshold = false
  value : threshold.IsFinite → threshold.value ≤ (Number.float x).value

theorem reaches_of_not_lt {x : Double} {threshold : Number} (finite : x.isFinite = true)
    (above : (Number.float x).lt threshold = false) : Reaches x threshold where
  above := above
  value bounded := by
    rw [value_le_iff, ← not_lt, ← lt_iff_units (x := .float x) finite bounded, above]
    exact Bool.false_ne_true

end Number

/-- What is taken without being pinned passes the threshold in the form in which it is taken. -/
theorem Choice.Taken.high {c : CleanupConfig} {s : GameState} {m a : Memory}
    (h : Choice.Taken c s m a) (scored : m.Scored s) (loose : a.pinned = false) :
    a.importanceBelow c.lowImportance = false := by
  cases h with
  | pinned pin => exact nomatch pin.symm.trans loose
  | loose _ high offer => cases offer with
      | asIs => exact high
      | refreshed _ done => exact scored.importanceBelow_enhanced done high

/-- A memory that has its own score for its importance and reaches a threshold. -/
theorem Memory.Scored.reaches {s : GameState} {m : Memory} {threshold : Number}
    (scored : m.Scored s) (high : m.importanceBelow threshold = false) :
    ∃ x, m.score s = .ok x ∧ m.importance = some x ∧ Number.Reaches x threshold := by
  obtain ⟨x, score, noted⟩ := scored
  rw [importanceBelow, weight, noted, Option.getD_some] at high
  obtain ⟨finite, -⟩ := (score_nonNegative score).units_height (score_height_le score)
  exact ⟨x, score, noted, Number.reaches_of_not_lt finite high⟩

/-- Enhancement never lowers a score. So if memories have their scores for their importance, every
active one that is not pinned reaches the threshold, refreshed or not. Both are done for memories that
have a score, unless there are more names or tokens than numbers can tell. -/
theorem refreshed_reach_threshold (c : CleanupConfig) (s : GameState) :
    (∀ (m : Memory) (x : Double), m.score s = .ok x →
      (m.related.length ≤ crowd → s.knownEntities.length ≤ crowd → ∃ e, m.enhanced s = .ok e) ∧
      ∀ e, m.enhanced s = .ok e →
        ∃ y, e.score s = .ok y ∧ e.importance = some y ∧ Double.Rises x y) ∧
    ∀ memories : List Memory, (∀ m ∈ memories, m.Scored s) →
      (c.maxTokenBudget ≤ farthest → s.knownEntities.length ≤ crowd →
        (∀ m ∈ memories, m.related.length ≤ crowd) → ∃ ch, partition c memories s = .ok ch) ∧
      ∀ ch, partition c memories s = .ok ch → ∀ a ∈ ch.active, a.pinned = false →
        ∃ x, a.score s = .ok x ∧ a.importance = some x ∧ Number.Reaches x c.lowImportance := by
  constructor
  · intro m x scored
    exact ⟨Memory.exists_enhanced scored, fun e h => Memory.score_rises scored h⟩
  · intro memories scored
    constructor
    · intro affordable known names
      apply CleanupConfig.exists_partition_of_enhanced affordable
      intro m member
      obtain ⟨x, score, -⟩ := scored m member
      exact Memory.exists_enhanced score (names m member) known
    · intro ch chosen a active loose
      obtain ⟨m, member, taken⟩ := partition_taken chosen a active
      exact (taken.scored (scored m member)).reaches (taken.high (scored m member) loose)

/-- A memory with its score, of which it is not yet known whom it concerns. -/
def legend : Memory where
  text := "Ngày xưa"
  importance := some (.ofInt 45)
  category := some .story
  source := some .chronicle

theorem legend_scored : legend.Scored { turnCount := 5 } := by
  have known : (legend.score { turnCount := 5 }).toOption.any
      (fun x => decide (some x = legend.importance)) = true := by
    decide +kernel
  obtain ⟨x, score, same⟩ := exists_ok known
  exact ⟨x, score, (of_decide_eq_true same).symm⟩

/-- The legend is refreshed and stays, at no less than the forty points that are asked for. -/
theorem legend_reaches_threshold : (∀ m ∈ [legend], m.Scored { turnCount := 5 }) ∧
    ∃ ch, partition {} [legend] { turnCount := 5 } = .ok ch ∧ ch.kept = [] ∧
      ∃ a ∈ ch.active, a.pinned = false ∧
        ∃ x, a.importance = some x ∧ 40 ≤ (Number.float x).value := by
  have scored : ∀ m ∈ [legend], m.Scored { turnCount := 5 } :=
    List.forall_mem_singleton.mpr legend_scored
  have known : (partition {} [legend] { turnCount := 5 }).toOption.any (fun ch =>
      decide (ch.kept.isEmpty ∧ ∃ a ∈ ch.active, a.pinned = false)) = true := by
    simp only [partition, ranked, List.zipIdx_cons, List.zipIdx_nil, List.mergeSort_singleton]
    decide +kernel
  obtain ⟨ch, chosen, stands⟩ := exists_ok known
  obtain ⟨fresh, a, active, loose⟩ := of_decide_eq_true stands
  obtain ⟨x, -, noted, reaches⟩ :=
    ((refreshed_reach_threshold {} { turnCount := 5 }).2 [legend] scored).2 ch chosen a active loose
  refine ⟨scored, ch, chosen, List.isEmpty_iff.mp fresh, a, active, loose, x, noted, ?_⟩
  have forty : (Number.int 40).value = 40 := Number.value_int 40
  exact forty.symm.trans_le (reaches.value trivial)

end Gamebook
