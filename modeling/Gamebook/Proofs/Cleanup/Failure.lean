import Mathlib
import Gamebook.Proofs.Cleanup.Pass
import Gamebook.Proofs.Memory.Generation

/-!
What a coordinator can fail of. Every step of a pass computes with numbers or reads them, and
nothing else in it can fail: so a run without a result met a number out of range. Conversely a run
has a result whenever the numbers of the state are in reach and its history can be read.
-/

namespace Gamebook

open Outcome

namespace GenerationConfig

variable (c : GenerationConfig) (s : GameState)

theorem collectEntry_ranged (acc : List Memory × Nat) (e : Entry) :
    Ranged (c.collectEntry s acc e) := by
  rw [collectEntry]
  split
  · exact ranged_ok acc
  · apply ranged_bind (story?_ranged e)
    intro story
    split
    · exact ranged_ok acc
    · split
      · exact ranged_ok acc
      · exact ranged_bind (ranged_mapM (fun m => m.enhanced_ranged s) _) fun _ => ranged_ok _

theorem generate_ranged : Ranged (c.generate s) := by
  apply ranged_bind (ranged_foldlM (c.collectEntry_ranged s) _ _)
  rintro ⟨told, analyzed⟩
  exact ranged_bind (ranged_mapM (fun m => m.enhanced_ranged s) _) fun _ => ranged_ok _

end GenerationConfig

namespace CleanupConfig

variable (c : CleanupConfig) (s : GameState)

theorem addOther_ranged (budget : Double) (ch : Choice) (entry : Memory × Nat) :
    Ranged (ch.addOther c budget s entry) := by
  obtain ⟨m, place⟩ := entry
  simp only [Choice.addOther]
  split
  · exact ranged_ok _
  · split
    · exact ranged_bind (m.enhanced_ranged s) fun candidate => ranged_ok _
    · exact ranged_ok _

theorem choose_ranged (scored : List Memory) : Ranged (c.choose scored s) := by
  rw [choose]
  split
  · apply ranged_bind
    · exact ranged_bind (ranged_ofArithmetic _) fun budget => ranged_ok _
    · intro budget
      exact ranged_foldlM (c.addOther_ranged s budget) _ _
  · exact ranged_ok _

theorem pass_ranged : Ranged (c.pass s) := by
  rw [pass]
  split
  · apply ranged_bind (manageHistory_ranged _ _ _)
    intro history
    apply ranged_bind
    · rw [generated]
      split
      · exact ranged_map some (c.generation.generate_ranged s)
      · exact ranged_ok none
    · intro generation
      apply ranged_bind
      · apply ranged_mapM
        intro m
        exact ranged_bind (m.score_ranged s) fun score => ranged_ok _
      · intro scored
        exact ranged_bind (c.choose_ranged s scored) fun chosen => ranged_ok _
  · exact ranged_ok _

end CleanupConfig

namespace Coordinator

/-- A coordinator always answers, unless a number is out of range. -/
theorem run_ranged (k : Coordinator) (s : GameState) : Ranged (k.run s).1 := by
  rw [run]
  split
  · exact ranged_ok _
  · split
    · exact ranged_ok _
    · next e failed =>
        rintro _ ⟨⟩
        exact k.config.pass_ranged s e failed

end Coordinator

/-! ### States that a run can deal with -/

/-- A state whose memories can be scored and whose history can be read. -/
structure GameState.InReach (s : GameState) : Prop where
  memories : ∀ m ∈ s.memories, m.InReach s
  known : s.knownEntities.length ≤ crowd
  readable : ∀ e ∈ s.gameHistory, e.Readable

namespace CleanupConfig

variable {c : CleanupConfig} {s : GameState}

theorem exists_generated (h : s.InReach) :
    ∃ g, c.generated s = .ok g ∧ ∀ m ∈ freshMemories g, m.Made s := by
  rw [generated]
  split
  · obtain ⟨g, generated, made⟩ := c.generation.exists_generate h.known h.readable
    exact ⟨some g, map_eq_ok.mpr ⟨g, generated, rfl⟩, made⟩
  · exact ⟨none, rfl, fun m member => absurd member List.not_mem_nil⟩

theorem exists_rescored {memories : List Memory} (h : ∀ m ∈ memories, m.InReach s) :
    ∃ scored, memories.mapM (rescore s) = .ok scored ∧ ∀ m ∈ scored, m.InReach s := by
  induction memories with
  | nil => exact ⟨[], rfl, fun m member => absurd member List.not_mem_nil⟩
  | cons m memories ih =>
      have reach := h m List.mem_cons_self
      obtain ⟨x, score⟩ := reach.exists_score
      obtain ⟨scored, rest, reaches⟩ := ih fun a member => h a (List.mem_cons_of_mem m member)
      have first := rescore_eq_ok.mpr ⟨x, score, rfl⟩
      exact ⟨_, mapM_eq_ok.mpr (.cons first (mapM_eq_ok.mp rest)),
        List.forall_mem_cons.mpr ⟨reach.noted (some x), reaches⟩⟩

theorem exists_addOther {budget : Double} {entry : Memory × Nat} (ch : Choice)
    (h : ∃ e, entry.1.enhanced s = .ok e) : ∃ next, ch.addOther c budget s entry = .ok next := by
  obtain ⟨e, enhanced⟩ := h
  simp only [Choice.addOther]
  split_ifs
  · exact ⟨_, rfl⟩
  · rw [enhanced]
    exact ⟨_, rfl⟩
  · exact ⟨_, rfl⟩
  · exact ⟨_, rfl⟩

/-- Memories that can be enhanced can be chosen from. -/
theorem exists_partition_of_enhanced {memories : List Memory}
    (affordable : c.maxTokenBudget ≤ farthest) (h : ∀ m ∈ memories, ∃ e, m.enhanced s = .ok e) :
    ∃ ch, partition c memories s = .ok ch := by
  obtain ⟨tokens, converted⟩ := Number.exists_toDouble? (x := .int c.maxTokenBudget) affordable
  have budget : c.memoryTokenBudget = .ok (tokens * c.memoryTokenRatio) := by
    rw [memoryTokenBudget, converted]
    rfl
  have stored {entry : Memory × Nat} (member : entry ∈ ranked memories) : entry.1 ∈ memories :=
    List.fst_mem_of_mem_zipIdx (List.mem_mergeSort.mp member)
  simp only [partition, budget, bind_eq_ok]
  have others (pinned : Choice) : ∃ ch, ((ranked memories).filter (!·.1.pinned)).foldlM
      (Choice.addOther c (tokens * c.memoryTokenRatio) s) pinned = .ok ch := by
    apply exists_foldlM
    intro ch entry member
    exact exists_addOther ch (h entry.1 (stored (List.mem_of_mem_filter member)))
  obtain ⟨ch, chosen⟩ := others _
  exact ⟨ch, _, rfl, chosen⟩

theorem exists_partition {memories : List Memory} (affordable : c.maxTokenBudget ≤ farthest)
    (known : s.knownEntities.length ≤ crowd) (h : ∀ m ∈ memories, m.InReach s) :
    ∃ ch, partition c memories s = .ok ch := by
  apply exists_partition_of_enhanced affordable
  intro m member
  obtain ⟨e, enhanced, -⟩ := (h m member).exists_enhanced known
  exact ⟨e, enhanced⟩

theorem exists_choose {scored : List Memory} (affordable : c.maxTokenBudget ≤ farthest)
    (known : s.knownEntities.length ≤ crowd) (h : ∀ m ∈ scored, m.InReach s) :
    ∃ ch, c.choose scored s = .ok ch := by
  rw [choose]
  split_ifs
  · exact exists_partition affordable known h
  · exact ⟨_, rfl⟩

theorem exists_pass (affordable : c.maxTokenBudget ≤ farthest) (h : s.InReach) :
    ∃ r, c.pass s = .ok r := by
  by_cases due : c.historyDue s = true ∨ c.memoriesDue s.memories = true
  · obtain ⟨history, windowed⟩ : ∃ w, manageHistory s.gameHistory s.turnCount c.history = .ok w :=
      exists_manageHistory h.readable
    obtain ⟨generation, generated, fresh⟩ := exists_generated (c := c) h
    have candidates : ∀ m ∈ s.memories ++ freshMemories generation, m.InReach s :=
      List.forall_mem_append.mpr ⟨h.memories, fun m member => (fresh m member).inReach⟩
    obtain ⟨scored, rescored, reach⟩ := exists_rescored candidates
    obtain ⟨chosen, selected⟩ := exists_choose affordable h.known reach
    exact ⟨_, pass_eq_ok.mpr (.inl ⟨due, ⟨⟨history, generation, scored, chosen, windowed, generated,
      rescored, selected, rfl⟩⟩⟩)⟩
  · rw [not_or, Bool.not_eq_true, Bool.not_eq_true] at due
    exact ⟨_, pass_eq_ok.mpr (.inr ⟨due, rfl⟩)⟩

end CleanupConfig

namespace Coordinator

/-- The coordinator has a result for a state in reach. -/
def Answers (k : Coordinator) (s : GameState) : Prop :=
  k.config.maxTokenBudget ≤ farthest → s.InReach → ∃ r, (k.run s).1 = .ok r

theorem answers (k : Coordinator) (s : GameState) : k.Answers s := by
  intro affordable reach
  obtain ⟨r, answered⟩ := CleanupConfig.exists_pass affordable reach
  rw [run]
  split
  · exact ⟨_, rfl⟩
  · rw [answered]
    exact ⟨r, rfl⟩

theorem crowded_inReach : crowded.InReach where
  memories := by
    intro m member
    obtain rfl := List.mem_singleton.mp member
    exact ⟨nofun, nofun, Nat.zero_le _⟩
  known := Nat.zero_le _
  readable := by
    intro e member
    simp only [crowded, List.mem_cons, List.not_mem_nil, or_false] at member
    rcases member with rfl | rfl | rfl <;> exact ⟨none, rfl⟩

end Coordinator

end Gamebook
