import Mathlib
import Gamebook.Proofs.Cleanup.Failure

/-!
Nothing is lost and nothing is doubled by cleanup: every memory with its text and its pin is active
or archived afterwards, what was archived stays, and history loses its oldest entries exactly when
they are folded into a segment.
-/

namespace Gamebook

namespace CleanupConfig.Trace

variable {c : CleanupConfig} {s : GameState} {r : CleanupResult}

theorem memories_perm (t : Trace c s r) :
    (((applyCleanup s r).memories ++ (applyCleanup s r).archivedMemories).map Memory.essence).Perm
      ((s.memories ++ s.archivedMemories ++ r.produced).map Memory.essence) := by
  have active := t.apply_memories (f := Memory.essence) fun _ _ => rfl
  have chosen := choose_accounts t.selected
  rw [t.scored_map fun _ _ => rfl] at chosen
  simp only [List.map_append, t.apply_archived, active, List.append_assoc] at chosen ⊢
  -- the old archive stands between what stays and what is put away
  calc List.Perm _ (s.archivedMemories.map Memory.essence ++
        (t.chosen.active.map Memory.essence ++ t.chosen.archived.map Memory.essence)) :=
        List.perm_append_comm_assoc _ _ _
    List.Perm _ (s.archivedMemories.map Memory.essence ++
        (s.memories.map Memory.essence ++ r.produced.map Memory.essence)) :=
        chosen.append_left _
    List.Perm _ _ := List.perm_append_comm_assoc _ _ _

theorem history_split (t : Trace c s r) :
    ∃ dropped, s.gameHistory = dropped ++ (applyCleanup s r).gameHistory ∧
      (dropped = [] ∧ (applyCleanup s r).compressedHistory = s.compressedHistory ∨
        dropped ≠ [] ∧ ∃ segment,
          (applyCleanup s r).compressedHistory = s.compressedHistory ++ [segment]) := by
  obtain ⟨dropped, split, cases⟩ := manageHistory_split t.windowed
  refine ⟨dropped, t.apply_gameHistory ▸ split, cases.imp ?_ ?_⟩
  · rintro ⟨nothing, none⟩
    refine ⟨nothing, ?_⟩
    rw [t.apply_compressedHistory, none, Option.toList_none, List.append_nil]
  · rintro ⟨something, segment, some⟩
    refine ⟨something, segment, ?_⟩
    rw [t.apply_compressedHistory, some, Option.toList_some]

end CleanupConfig.Trace

namespace Coordinator

/-- A coordinator answers, and whatever it does with a state, memories and history entries are
conserved. -/
theorem run_conserves (k : Coordinator) (s : GameState) :
    k.Answers s ∧ ∀ r, (k.run s).1 = .ok r →
      (((applyCleanup s r).memories ++ (applyCleanup s r).archivedMemories).map
          Memory.essence).Perm
        ((s.memories ++ s.archivedMemories ++ r.produced).map Memory.essence) ∧
      (r.triggered = true → k.config.generated s = .ok r.generation) ∧
      s.archivedMemories <+: (applyCleanup s r).archivedMemories ∧
      ∃ dropped, s.gameHistory = dropped ++ (applyCleanup s r).gameHistory ∧
        (dropped ≠ [] ↔ ∃ segment,
          (applyCleanup s r).compressedHistory = s.compressedHistory ++ [segment]) ∧
        (dropped = [] → (applyCleanup s r).compressedHistory = s.compressedHistory) := by
  refine ⟨k.answers s, fun r h => ?_⟩
  obtain rfl | ⟨⟨t⟩⟩ := run_cases h
  · rw [applyCleanup_unchanged]
    refine ⟨?_, nofun, List.prefix_refl _, [], rfl, ?_, fun _ => rfl⟩
    · rw [produced_unchanged, List.append_nil]
    · constructor
      · exact fun some => absurd rfl some
      · rintro ⟨segment, longer⟩
        exact absurd (List.self_eq_append_right.mp longer) (List.cons_ne_nil _ _)
  · refine ⟨t.memories_perm, fun _ => ?_, ?_, ?_⟩
    · rw [← congrArg CleanupResult.generation t.result]
      exact t.generated
    · rw [t.apply_archived]
      exact List.prefix_append _ _
    · obtain ⟨dropped, split, ⟨nothing, same⟩ | ⟨something, folded⟩⟩ := t.history_split
      · refine ⟨dropped, split, ⟨fun some => absurd nothing some, ?_⟩, fun _ => same⟩
        rintro ⟨segment, longer⟩
        rw [same] at longer
        exact absurd (List.self_eq_append_right.mp longer) (List.cons_ne_nil _ _)
      · exact ⟨dropped, split, ⟨fun _ => folded, fun _ => something⟩,
          fun nothing => absurd nothing something⟩

theorem narrow_conserves : crowded.InReach ∧ ∃ r, (narrow.run crowded).1 = .ok r ∧
    r.triggered = true ∧
    (((applyCleanup crowded r).memories ++ (applyCleanup crowded r).archivedMemories).map
        Memory.essence).Perm
      ((crowded.memories ++ crowded.archivedMemories ++ r.produced).map Memory.essence) := by
  obtain ⟨r, works, triggered⟩ := narrow_works
  exact ⟨crowded_inReach, r, works, triggered, ((run_conserves narrow crowded).2 r works).1⟩

end Coordinator

end Gamebook
