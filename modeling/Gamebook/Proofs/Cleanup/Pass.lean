import Mathlib
import Gamebook.Cleanup.Coordinator
import Gamebook.Proofs.Cleanup.Partition
import Gamebook.Proofs.History.Window

/-!
One pass taken apart. A coordinator either leaves everything as it is or works, and the work leaves
a trace: the window of history, what was generated, all memories with their new scores, and the
choice among them. The state after a pass is then described from the trace alone, whether the pass
was triggered or not.
-/

namespace Gamebook

open Outcome

/-- The memories of a generation, if there was one. -/
def freshMemories (generation : Option Generation) : List Memory :=
  (generation.map (·.memories)).getD []

/-- The memories that a triggered pass generated. -/
def CleanupResult.produced (r : CleanupResult) : List Memory :=
  if r.triggered then freshMemories r.generation else []

namespace CleanupConfig

/-- The result of a pass that found and chose the given things. -/
def decided (s : GameState) (history : Windowed) (generation : Option Generation)
    (chosen : Choice) : CleanupResult :=
  let triggered := history.segment.isSome || !chosen.archived.isEmpty ||
    !chosen.enhanced.isEmpty || !(freshMemories generation).isEmpty
  { phase := if triggered then .applied else .noop
    triggered
    turn := s.turnCount
    kept := chosen.kept
    enhanced := chosen.enhanced
    archived := chosen.archived
    activeMemories := chosen.active
    segment := history.segment
    activeHistory := history.active
    historyOriginalSize := history.originalSize
    historyNewSize := history.newSize
    generation
    tokensSaved := history.savedEntries * tokensPerEntry + totalCost chosen.archived
    categoryCounts := countCategories chosen.active }

/-- How a pass that worked came to its result. -/
structure Trace (c : CleanupConfig) (s : GameState) (r : CleanupResult) where
  history : Windowed
  generation : Option Generation
  scored : List Memory
  chosen : Choice
  windowed : manageHistory s.gameHistory s.turnCount c.history = .ok history
  generated : c.generated s = .ok generation
  rescored : (s.memories ++ freshMemories generation).mapM (rescore s) = .ok scored
  selected : c.choose scored s = .ok chosen
  result : decided s history generation chosen = r

variable {c : CleanupConfig} {s : GameState} {r : CleanupResult}

theorem process_eq_ok : c.process s = .ok r ↔ Nonempty (Trace c s r) := by
  simp only [process, bind_eq_ok, pure_eq_ok]
  constructor
  · rintro ⟨history, windowed, generation, generated, scored, rescored, chosen, selected, result⟩
    exact ⟨⟨history, generation, scored, chosen, windowed, generated, rescored, selected, result⟩⟩
  · rintro ⟨t⟩
    exact ⟨t.history, t.windowed, t.generation, t.generated, t.scored, t.rescored, t.chosen,
      t.selected, t.result⟩

theorem pass_eq_ok : c.pass s = .ok r ↔
    (c.historyDue s = true ∨ c.memoriesDue s.memories = true) ∧ Nonempty (Trace c s r) ∨
      (c.historyDue s = false ∧ c.memoriesDue s.memories = false) ∧ .unchanged s = r := by
  rw [pass]
  split_ifs with due
  · rw [Bool.or_eq_true] at due
    rw [process_eq_ok]
    constructor
    · exact fun h => .inl ⟨due, h⟩
    · rintro (⟨-, h⟩ | ⟨⟨history, memories⟩, -⟩)
      · exact h
      · simp [history, memories] at due
  · rw [Bool.not_eq_true, Bool.or_eq_false_iff] at due
    constructor
    · exact fun h => .inr ⟨due, Except.ok.inj h⟩
    · rintro (⟨history | memories, -⟩ | ⟨-, rfl⟩)
      · exact nomatch history.symm.trans due.1
      · exact nomatch memories.symm.trans due.2
      · rfl

/-! ### Scores -/

theorem rescore_eq_ok {m m' : Memory} :
    rescore s m = .ok m' ↔ ∃ x, m.score s = .ok x ∧ { m with importance := some x } = m' := by
  simp only [rescore, bind_eq_ok, pure_eq_ok]

/-- Scoring changes nothing but the importance. -/
theorem rescored_map {α : Type} {f : Memory → α} {memories scored : List Memory}
    (same : ∀ m noted, f { m with importance := noted } = f m)
    (h : memories.mapM (rescore s) = .ok scored) : scored.map f = memories.map f := by
  induction mapM_eq_ok.mp h with
  | nil => rfl
  | cons first _ ih =>
      obtain ⟨x, -, rfl⟩ := rescore_eq_ok.mp first
      rw [List.map_cons, List.map_cons, same, ih (mapM_eq_ok.mpr ‹_›)]

/-! ### The choice of a pass -/

variable {scored : List Memory} {ch : Choice}

theorem length_le_of_not_due (h : c.memoriesDue scored = false) :
    scored.length ≤ c.maxActiveMemories := by
  simp only [memoriesDue, Bool.or_eq_false_iff, decide_eq_false_iff_not] at h
  exact Nat.le_of_not_lt h.1.1

theorem choose_cases (h : c.choose scored s = .ok ch) :
    c.memoriesDue scored = true ∧ partition c scored s = .ok ch ∨
      c.memoriesDue scored = false ∧ ch.active = scored ∧ ch.archived = [] := by
  rw [choose] at h
  split_ifs at h with due
  · exact .inl ⟨due, h⟩
  · obtain rfl := Except.ok.inj h
    exact .inr ⟨Bool.eq_false_of_not_eq_true due, Choice.active_eq (List.Perm.refl _), rfl⟩

theorem choose_accounts (h : c.choose scored s = .ok ch) :
    ((ch.active ++ ch.archived).map Memory.essence).Perm (scored.map Memory.essence) := by
  obtain ⟨-, chosen⟩ | ⟨-, active, archived⟩ := choose_cases h
  · exact partition_accounts chosen
  · rw [active, archived, List.append_nil]

theorem choose_length_le (h : c.choose scored s = .ok ch) :
    ch.active.length ≤ c.maxActiveMemories := by
  obtain ⟨-, chosen⟩ | ⟨due, active, -⟩ := choose_cases h
  · exact partition_length_le chosen
  · rw [active]
    exact length_le_of_not_due due

theorem choose_untouched (h : c.choose scored s = .ok ch) (enhanced : ch.enhanced = [])
    (archived : ch.archived = []) : ch.active = scored := by
  obtain ⟨-, chosen⟩ | ⟨-, active, -⟩ := choose_cases h
  · exact partition_untouched chosen enhanced archived
  · exact active

/-! ### The state after a pass -/

namespace Trace

theorem idle (t : Trace c s r) (h : r.triggered = false) :
    t.history.segment = none ∧ t.chosen.archived = [] ∧ t.chosen.enhanced = [] ∧
      freshMemories t.generation = [] := by
  rw [← congrArg CleanupResult.triggered t.result] at h
  simpa [decided, and_assoc] using h

theorem apply_archived (t : Trace c s r) :
    (applyCleanup s r).archivedMemories = s.archivedMemories ++ t.chosen.archived := by
  rw [applyCleanup]
  split_ifs with triggered
  · rw [← congrArg CleanupResult.archived t.result]
    rfl
  · rw [(t.idle (Bool.eq_false_of_not_eq_true triggered)).2.1, List.append_nil]

theorem apply_gameHistory (t : Trace c s r) :
    (applyCleanup s r).gameHistory = t.history.active := by
  rw [applyCleanup]
  split_ifs with triggered
  · rw [← congrArg CleanupResult.activeHistory t.result]
    rfl
  · exact (manageHistory_segment_none t.windowed
      (t.idle (Bool.eq_false_of_not_eq_true triggered)).1).symm

theorem apply_compressedHistory (t : Trace c s r) :
    (applyCleanup s r).compressedHistory = s.compressedHistory ++ t.history.segment.toList := by
  rw [applyCleanup]
  split_ifs with triggered
  · rw [← congrArg CleanupResult.segment t.result]
    rfl
  · rw [(t.idle (Bool.eq_false_of_not_eq_true triggered)).1, Option.toList_none, List.append_nil]

theorem produced_eq (t : Trace c s r) : r.produced = freshMemories t.generation := by
  rw [CleanupResult.produced]
  split_ifs with triggered
  · rw [← congrArg CleanupResult.generation t.result]
    rfl
  · exact (t.idle (Bool.eq_false_of_not_eq_true triggered)).2.2.2.symm

theorem scored_map {α : Type} {f : Memory → α}
    (same : ∀ m noted, f { m with importance := noted } = f m) (t : Trace c s r) :
    t.scored.map f = (s.memories ++ r.produced).map f := by
  rw [rescored_map same t.rescored, t.produced_eq]

/-- Apart from their importance, the active memories are the chosen ones even if the pass was not
triggered: then all were chosen as they were. -/
theorem apply_memories {α : Type} {f : Memory → α}
    (same : ∀ m noted, f { m with importance := noted } = f m) (t : Trace c s r) :
    (applyCleanup s r).memories.map f = t.chosen.active.map f := by
  rw [applyCleanup]
  split_ifs with triggered
  · rw [← congrArg CleanupResult.activeMemories t.result]
    rfl
  · have still := Bool.eq_false_of_not_eq_true triggered
    obtain ⟨-, archived, enhanced, fresh⟩ := t.idle still
    rw [choose_untouched t.selected enhanced archived, t.scored_map same, t.produced_eq, fresh,
      List.append_nil]

end Trace

end CleanupConfig

theorem applyCleanup_unchanged (s : GameState) : applyCleanup s (.unchanged s) = s := rfl

theorem produced_unchanged (s : GameState) : (CleanupResult.unchanged s).produced = [] := rfl

namespace Coordinator

variable {k : Coordinator} {s : GameState} {r : CleanupResult}

theorem run_fresh (ready : k.phase.isBusy = false) (new : k.lastTurn ≠ some s.turnCount) :
    (k.run s).1 = k.config.pass s := by
  rw [run, ready, Bool.false_or, if_neg (by simpa using new)]
  cases k.config.pass s <;> rfl

theorem run_cases (h : (k.run s).1 = .ok r) :
    r = .unchanged s ∨ Nonempty (k.config.Trace s r) := by
  by_cases fresh : k.phase.isBusy = false ∧ k.lastTurn ≠ some s.turnCount
  · rw [run_fresh fresh.1 fresh.2] at h
    obtain ⟨-, trace⟩ | ⟨-, same⟩ := CleanupConfig.pass_eq_ok.mp h
    · exact .inr trace
    · exact .inl same.symm
  · have skipped : (k.phase.isBusy || decide (k.lastTurn = some s.turnCount)) = true := by
      by_contra working
      exact fresh (by simpa using working)
    rw [run, if_pos skipped] at h
    exact .inl (Except.ok.inj h).symm

/-! ### A small case -/

/-- Bounds of one active memory and two entries of history. -/
def narrow : Coordinator where
  config := {
    maxActiveMemories := 1
    memoryThreshold := 1
    history := { maxActive := 2, threshold := 2 }
    generatesMemories := false }

/-- A state with an entry too many. -/
def crowded : GameState where
  memories := [{ text := "x", pinned := true }]
  gameHistory := [.ofUser "a", .ofUser "b", .ofUser "c"]
  turnCount := 2

theorem narrow_works : ∃ r, (narrow.run crowded).1 = .ok r ∧ r.triggered = true :=
  exists_ok (by decide +kernel)

end Coordinator

end Gamebook
