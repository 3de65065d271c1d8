import Mathlib
import Gamebook.Proofs.Cleanup.Failure

/-!
What a pass over a new turn guarantees. The ceiling on active memories and the threshold of history
hold on every path. The token budget is looked at only when memories are chosen from; a pass that
keeps them all leaves their cost as it is.
-/

namespace Gamebook

open Outcome

namespace CleanupConfig

variable {c : CleanupConfig} {s : GameState} {r : CleanupResult}

theorem Trace.memories_length_le (t : Trace c s r) :
    (applyCleanup s r).memories.length ≤ c.maxActiveMemories := by
  have size := congrArg List.length (t.apply_memories (f := fun _ => ()) fun _ _ => rfl)
  rw [List.length_map, List.length_map] at size
  rw [size]
  exact choose_length_le t.selected

theorem Trace.gameHistory_length_le (t : Trace c s r) :
    (applyCleanup s r).gameHistory.length ≤ c.history.threshold := by
  rw [t.apply_gameHistory]
  exact manageHistory_length_le t.windowed

end CleanupConfig

namespace Coordinator

theorem isBusy_of_ready {phase : CleanupPhase}
    (ready : phase = .idle ∨ phase = .noop ∨ phase = .applied) : phase.isBusy = false := by
  rcases ready with rfl | rfl | rfl <;> rfl

/-- A pass over a new turn keeps memories and history within their sizes. -/
theorem run_keeps_sizes (k : Coordinator) (s : GameState)
    (ready : k.phase = .idle ∨ k.phase = .noop ∨ k.phase = .applied)
    (new : k.lastTurn ≠ some s.turnCount) :
    k.Answers s ∧ ∀ r, (k.run s).1 = .ok r →
      (applyCleanup s r).memories.length ≤ k.config.maxActiveMemories ∧
        (applyCleanup s r).gameHistory.length ≤ k.config.history.threshold := by
  refine ⟨k.answers s, fun r h => ?_⟩
  rw [run_fresh (isBusy_of_ready ready) new] at h
  obtain ⟨-, ⟨t⟩⟩ | ⟨⟨history, memories⟩, rfl⟩ := CleanupConfig.pass_eq_ok.mp h
  · exact ⟨t.memories_length_le, t.gameHistory_length_le⟩
  · rw [applyCleanup_unchanged]
    refine ⟨CleanupConfig.length_le_of_not_due memories, ?_⟩
    rw [CleanupConfig.historyDue, decide_eq_false_iff_not] at history
    exact Nat.le_of_not_lt history

theorem narrow_keeps_sizes : ∃ r, (narrow.run crowded).1 = .ok r ∧ r.triggered = true ∧
    (applyCleanup crowded r).memories.length ≤ 1 ∧
      (applyCleanup crowded r).gameHistory.length ≤ 2 := by
  obtain ⟨r, works, triggered⟩ := narrow_works
  exact ⟨r, works, triggered, (run_keeps_sizes narrow crowded (.inl rfl) nofun).2 r works⟩

end Coordinator

/-! ### The token budget -/

namespace CleanupConfig

/-- The memories keep to the token budget, or to the cost of the pinned ones if that is more. -/
def Affords (c : CleanupConfig) (memories : List Memory) : Prop :=
  ∃ budget, c.memoryTokenBudget = .ok budget ∧
    ((Number.int (totalCost memories)).le (.float budget) = true ∨
      totalCost memories ≤ totalCost (memories.filter (·.pinned)))

/-- Whether a pass chooses among the memories: it works, and with their new scores, and with what
was generated, they are too many or too many of them are unimportant. -/
def Chooses (c : CleanupConfig) (s : GameState) : Prop :=
  (c.historyDue s = true ∨ c.memoriesDue s.memories = true) ∧
    ∃ generation scored, c.generated s = .ok generation ∧
      (s.memories ++ freshMemories generation).mapM (rescore s) = .ok scored ∧
      c.memoriesDue scored = true

variable {c : CleanupConfig} {s : GameState} {r : CleanupResult}

theorem tokenCost_noted (m : Memory) (noted : Option Double) :
    ({ m with importance := noted } : Memory).tokenCost = m.tokenCost := by
  simp only [Memory.tokenCost, Memory.tagList, Memory.related]

theorem totalCost_congr {xs ys : List Memory}
    (h : xs.map Memory.tokenCost = ys.map Memory.tokenCost) : totalCost xs = totalCost ys := by
  rw [totalCost_eq_sum, totalCost_eq_sum, h]

theorem Trace.due_scored (t : Trace c s r) (h : c.Chooses s) : c.memoriesDue t.scored = true := by
  obtain ⟨-, generation, scored, generated, rescored, due⟩ := h
  obtain rfl := Except.ok.inj (t.generated.symm.trans generated)
  obtain rfl := Except.ok.inj (t.rescored.symm.trans rescored)
  exact due

theorem Trace.affords (t : Trace c s r) (h : c.Chooses s) :
    c.Affords (applyCleanup s r).memories := by
  have chosen : partition c t.scored s = .ok t.chosen := by
    obtain ⟨-, chosen⟩ | ⟨still, -⟩ := choose_cases t.selected
    · exact chosen
    · exact nomatch (t.due_scored h).symm.trans still
  obtain ⟨budget, known, within⟩ := partition_withinBudget chosen
  have cost := totalCost_congr (t.apply_memories tokenCost_noted)
  refine ⟨budget, known, within.symm.imp ?_ ?_⟩
  · intro cheap
    rwa [cost]
  · intro pins
    have all : ∀ m ∈ (applyCleanup s r).memories, m.pinned = true := by
      intro m member
      have pin := List.mem_map_of_mem (f := Memory.pinned) member
      rw [t.apply_memories fun _ _ => rfl] at pin
      obtain ⟨a, active, same⟩ := List.mem_map.mp pin
      exact same.symm.trans (pins a active)
    rw [List.filter_eq_self.mpr all]

theorem Trace.keeps_all (t : Trace c s r) (h : c.memoriesDue t.scored = false) :
    r.archived = [] ∧ totalCost (applyCleanup s r).memories = totalCost (s.memories ++ r.produced) := by
  obtain ⟨due, -⟩ | ⟨-, active, archived⟩ := choose_cases t.selected
  · exact nomatch due.symm.trans h
  · constructor
    · rw [← congrArg CleanupResult.archived t.result]
      exact archived
    · apply totalCost_congr
      rw [t.apply_memories tokenCost_noted, active, t.scored_map tokenCost_noted]

end CleanupConfig

namespace Coordinator

/-- A pass over a new turn brings the memories inside the token budget if it chooses among them;
otherwise it archives none, and they cost what they cost before with those just generated. -/
theorem run_keeps_budget (k : Coordinator) (s : GameState)
    (ready : k.phase = .idle ∨ k.phase = .noop ∨ k.phase = .applied)
    (new : k.lastTurn ≠ some s.turnCount) :
    k.Answers s ∧ ∀ r, (k.run s).1 = .ok r →
      (k.config.Chooses s → k.config.Affords (applyCleanup s r).memories) ∧
        (¬ k.config.Chooses s → r.archived = [] ∧
          totalCost (applyCleanup s r).memories = totalCost (s.memories ++ r.produced)) := by
  refine ⟨k.answers s, fun r h => ?_⟩
  rw [run_fresh (isBusy_of_ready ready) new] at h
  obtain ⟨due, ⟨t⟩⟩ | ⟨⟨history, memories⟩, rfl⟩ := CleanupConfig.pass_eq_ok.mp h
  · refine ⟨t.affords, fun none => t.keeps_all (Bool.eq_false_of_not_eq_true fun scored => ?_)⟩
    exact none ⟨due, t.generation, t.scored, t.generated, t.rescored, scored⟩
  · constructor
    · rintro ⟨due, -⟩
      rw [history, memories] at due
      exact absurd due (by decide)
    · intro _
      rw [applyCleanup_unchanged, produced_unchanged, List.append_nil]
      exact ⟨rfl, rfl⟩

/-- A bound that every memory is below in importance. -/
def strict : Coordinator where
  config := { (default : CleanupConfig) with
    lowImportance := .int 100
    lowImportanceLimit := 0
    maxTokenBudget := 0
    generatesMemories := false }

/-- A state with one memory. -/
def lone : GameState where
  memories := [{ text := "x" }]
  turnCount := 1

theorem queue_singleton (m : Memory) : queue [m] = [(m, 0)] := by
  cases pin : m.pinned <;> simp [queue, ranked, pin]

theorem strict_works : strict.config.Chooses lone ∧ ∃ r, (strict.run lone).1 = .ok r := by
  have due : strict.config.memoriesDue lone.memories = true := by decide +kernel
  obtain ⟨x, score, low⟩ : ∃ x, Memory.score { text := "x" } lone = .ok x ∧
      (Number.float x).lt strict.config.lowImportance = true := exists_ok (by decide +kernel)
  obtain ⟨budget, known, -⟩ : ∃ budget, strict.config.memoryTokenBudget = .ok budget ∧
      budget.isFinite = true := exists_ok (by decide +kernel)
  have rescored : lone.memories.mapM (CleanupConfig.rescore lone) =
      .ok [{ text := "x", importance := some x }] :=
    mapM_eq_ok.mpr (.cons (CleanupConfig.rescore_eq_ok.mpr ⟨x, score, rfl⟩) .nil)
  have still : strict.config.memoriesDue [{ text := "x", importance := some x }] = true := by
    have below : Memory.importanceBelow { text := "x", importance := some x }
        strict.config.lowImportance = true := low
    rw [CleanupConfig.memoriesDue, List.countP_singleton, if_pos below]
    rfl
  have selected : strict.config.choose [{ text := "x", importance := some x }] lone =
      .ok (Choice.archive {} 1 { text := "x", importance := some x }) := by
    rw [CleanupConfig.choose, if_pos still, partition_eq_ok, queue_singleton]
    exact ⟨budget, known, .step (.unimportant rfl low) .done⟩
  refine ⟨⟨.inr due, none, _, rfl, rescored, still⟩, ?_⟩
  rw [run_fresh (k := strict) (s := lone) rfl (by decide)]
  exact ⟨_, CleanupConfig.pass_eq_ok.mpr (.inl ⟨.inr due,
    ⟨⟨_, none, _, _, manageHistory_short (Nat.zero_le _), rfl, rescored, selected, rfl⟩⟩⟩)⟩

theorem strict_keeps_budget : ∃ r, (strict.run lone).1 = .ok r ∧
    strict.config.Affords (applyCleanup lone r).memories := by
  obtain ⟨chooses, r, works⟩ := strict_works
  exact ⟨r, works, ((run_keeps_budget strict lone (.inl rfl) nofun).2 r works).1 chooses⟩

/-- A budget of ten tokens. -/
def poor : Coordinator where
  config := { (default : CleanupConfig) with
    maxTokenBudget := 10
    memoryTokenRatio := .ofInt 1
    generatesMemories := false }

/-- A state whose one memory costs more. -/
def wordy : GameState where
  memories := [{
    text := "xxxxxxxxxxxxxxxxxxxx"
    importance := some (.ofInt 55)
    category := some .general
    source := some .manual
    createdAt := some 1
    lastAccessed := some 1
    relatedEntities := some []
    tags := some [] }]
  turnCount := 1

theorem poor_run_wordy : (poor.run wordy).1 = .ok (.unchanged wordy) := by
  rw [run_fresh (k := poor) (s := wordy) rfl nofun]
  exact CleanupConfig.pass_eq_ok.mpr (.inr ⟨⟨by decide, by decide +kernel⟩, rfl⟩)

/-- A pass that does not choose may leave memories that cost more than the budget. -/
theorem budget_not_always_kept :
    ¬ ∀ (k : Coordinator) (s : GameState) (r : CleanupResult),
      (k.phase = .idle ∨ k.phase = .noop ∨ k.phase = .applied) →
      k.lastTurn ≠ some s.turnCount → (k.run s).1 = .ok r →
      k.config.Affords (applyCleanup s r).memories := by
  intro always
  obtain ⟨budget, known, cheap | pins⟩ :=
    always poor wordy _ (.inl rfl) nofun poor_run_wordy
  · have dear : (poor.config.memoryTokenBudget.toOption.any fun budget =>
        (Number.int (totalCost wordy.memories)).le (.float budget)) = false := by
      decide +kernel
    rw [known] at dear
    exact nomatch cheap.symm.trans dear
  · revert pins
    decide +kernel

end Coordinator

end Gamebook
