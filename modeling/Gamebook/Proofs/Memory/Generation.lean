import Mathlib
import Gamebook.Memory.Generation
import Gamebook.Proofs.Distinct
import Gamebook.Proofs.History.Window
import Gamebook.Proofs.Memory.Reach

/-!
Generation of memories always comes to an end with a result when its input can be read, and what it
makes can be scored again.
-/

namespace Gamebook

open Outcome

namespace Memory

variable {s : GameState}

theorem draft_made (text : String) (category : MemoryCategory) (importance : Int)
    (tags : List String) (related : Option (List String)) (few : (related.getD []).length ≤ 1) :
    ({ draft s text category importance tags with relatedEntities := related } :
      Memory).Made s where
  created := rfl
  accessed := rfl
  related := few.trans (by decide +kernel)

theorem ofTelling?_made {kind : EventKind} {story telling : String} {m : Memory}
    (h : ofTelling? kind story s telling = some m) : m.Made s := by
  simp only [ofTelling?] at h
  split_ifs at h
  obtain rfl := Option.some.inj h
  exact draft_made _ _ _ _ none (Nat.zero_le 1)

theorem ofRelationship?_made {member : Entity} {m : Memory}
    (h : ofRelationship? s member = some m) : m.Made s := by
  rw [ofRelationship?] at h
  split at h
  · exact nomatch h
  · split_ifs at h
    obtain rfl := Option.some.inj h
    exact draft_made _ _ _ _ (some _) (Nat.le_refl 1)

theorem ofQuest?_made {q : Quest} {m : Memory} (h : ofQuest? s q = some m) : m.Made s := by
  have few : (q.giver.filter (!·.isEmpty)).toList.length ≤ 1 := by
    cases q.giver.filter (!·.isEmpty) with
    | none => exact Nat.zero_le 1
    | some giver => exact Nat.le_refl 1
  rw [ofQuest?] at h
  split at h
  · exact nomatch h
  · obtain rfl := Option.some.inj h
    exact draft_made _ _ _ _ (some _) few

theorem ofPlace?_made {lookback : Nat} {place : Entity} {m : Memory}
    (h : ofPlace? s lookback place = some m) : m.Made s := by
  simp only [ofPlace?] at h
  split_ifs at h
  obtain rfl := Option.some.inj h
  exact draft_made _ _ _ _ (some _) (Nat.le_refl 1)

/-- Candidates that can be scored are all enhanced, and can be scored again. -/
theorem exists_mapM_enhanced {ms : List Memory} (known : s.knownEntities.length ≤ crowd)
    (h : ∀ m ∈ ms, m.Made s) :
    ∃ es, ms.mapM (·.enhanced s) = .ok es ∧ ∀ e ∈ es, e.Made s := by
  induction ms with
  | nil => exact ⟨[], rfl, fun m member => absurd member List.not_mem_nil⟩
  | cons m ms ih =>
      obtain ⟨e, first, reach⟩ := (h m List.mem_cons_self).exists_enhanced known
      obtain ⟨es, rest, reaches⟩ := ih fun x member => h x (List.mem_cons_of_mem m member)
      exact ⟨e :: es, mapM_eq_ok.mpr (.cons first (mapM_eq_ok.mp rest)),
        List.forall_mem_cons.mpr ⟨reach, reaches⟩⟩

end Memory

namespace GenerationConfig

variable {c : GenerationConfig} {s : GameState}

theorem exists_analyzeStory (known : s.knownEntities.length ≤ crowd) (story : String) :
    ∃ es, c.analyzeStory story s = .ok es ∧ ∀ e ∈ es, e.Made s := by
  apply Memory.exists_mapM_enhanced known
  intro m member
  obtain ⟨kind, -, tellings⟩ := List.mem_flatMap.mp member
  obtain ⟨telling, -, told⟩ := List.mem_filterMap.mp tellings
  exact Memory.ofTelling?_made told

theorem exists_standing (known : s.knownEntities.length ≤ crowd) :
    ∃ es, c.standing s = .ok es ∧ ∀ e ∈ es, e.Made s := by
  apply Memory.exists_mapM_enhanced known
  intro m member
  rcases List.mem_append.mp member with party | others
  · split_ifs at party
    · obtain ⟨companion, -, made⟩ := List.mem_filterMap.mp party
      exact Memory.ofRelationship?_made made
    · exact absurd party List.not_mem_nil
  · split_ifs at others
    · rcases List.mem_append.mp others with quests | places
      · obtain ⟨q, -, made⟩ := List.mem_filterMap.mp quests
        exact Memory.ofQuest?_made made
      · obtain ⟨place, -, made⟩ := List.mem_filterMap.mp places
        exact Memory.ofPlace?_made made
    · exact absurd others List.not_mem_nil

theorem exists_collectEntry (known : s.knownEntities.length ≤ crowd) {acc : List Memory × Nat}
    (reach : ∀ m ∈ acc.1, m.Made s) {e : Entry} (readable : e.Readable) :
    ∃ next, c.collectEntry s acc e = .ok next ∧ ∀ m ∈ next.1, m.Made s := by
  obtain ⟨story, told⟩ := readable.story?
  rw [collectEntry]
  split
  · exact ⟨acc, rfl, reach⟩
  · rw [told]
    cases story with
    | none => exact ⟨acc, rfl, reach⟩
    | some story =>
        obtain ⟨es, analyzed, reaches⟩ := exists_analyzeStory (c := c) known story
        by_cases empty : story.isEmpty = true
        · refine ⟨acc, ?_, reach⟩
          change (if story.isEmpty then _ else _) = _
          rw [if_pos empty]
          rfl
        · refine ⟨(acc.1 ++ es.filter (c.qualifies (s.memories ++ acc.1)), acc.2 + 1), ?_, ?_⟩
          · change (if story.isEmpty then _ else _) = _
            rw [if_neg empty, analyzed]
            rfl
          · intro m member
            rcases List.mem_append.mp member with old | new
            · exact reach m old
            · exact reaches m (List.mem_of_mem_filter new)

/-- If the history can be read, memories are generated, and all of them can be scored. -/
theorem exists_generate (known : s.knownEntities.length ≤ crowd)
    (readable : ∀ e ∈ s.gameHistory, e.Readable) :
    ∃ g, c.generate s = .ok g ∧ ∀ m ∈ g.memories, m.Made s := by
  have stories : ∃ acc, (c.recentEntries s.gameHistory).foldlM (c.collectEntry s) ([], 0) =
      .ok acc ∧ ∀ m ∈ acc.1, m.Made s := by
    apply exists_foldlM_with
    · intro acc reach e member
      exact exists_collectEntry known reach (readable e (List.mem_of_mem_drop member))
    · exact fun m member => absurd member List.not_mem_nil
  obtain ⟨⟨told, analyzed⟩, collected, reach⟩ := stories
  obtain ⟨standing, made, reaches⟩ := exists_standing (c := c) known
  simp only [generate, collected, made, bind_eq_ok, pure_eq_ok]
  refine ⟨_, ⟨_, rfl, _, rfl, rfl⟩, ?_⟩
  intro m member
  have sorted := List.mem_of_mem_take member
  rcases mem_of_mem_keepFrom (List.mem_mergeSort.mp sorted) with nowhere | kept
  · exact absurd nowhere List.not_mem_nil
  · rcases mem_of_mem_keepFrom kept with early | late
    · exact reach m early
    · exact reaches m late

theorem exists_generated (known : s.knownEntities.length ≤ crowd)
    (readable : ∀ e ∈ s.gameHistory, e.Readable) : ∃ g, c.generate s = .ok g := by
  obtain ⟨g, generated, -⟩ := exists_generate (c := c) known readable
  exact ⟨g, generated⟩

end GenerationConfig

end Gamebook
