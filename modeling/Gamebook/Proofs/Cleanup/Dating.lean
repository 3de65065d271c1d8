import Mathlib
import Gamebook.Proofs.Cleanup.Failure

/-!
Moments of memories in a game that is played from its start. Memories are made, used and enhanced in
turns that have been played, so their moments never lie ahead, and cleanup can go on computing with
them.
-/

namespace Gamebook

open Outcome

namespace Memory

/-- Whether the moments of a memory lie between the start of a game and a turn. -/
structure Dated (turn : Nat) (m : Memory) : Prop where
  created : ∀ t, m.createdAt = some t → 0 ≤ t ∧ t ≤ turn
  accessed : ∀ t, m.lastAccessed = some t → 0 ≤ t ∧ t ≤ turn
  related : m.related.length ≤ crowd

variable {s : GameState} {m e : Memory} {turn later : Nat}

theorem Made.dated (h : m.Made s) : m.Dated s.turnCount where
  created t made := by
    rw [← Option.some.inj (h.created.symm.trans made)]
    omega
  accessed t made := by
    rw [← Option.some.inj (h.accessed.symm.trans made)]
    omega
  related := h.related

theorem Dated.mono (h : m.Dated turn) (le : turn ≤ later) : m.Dated later where
  created t made := by
    obtain ⟨low, high⟩ := h.created t made
    omega
  accessed t made := by
    obtain ⟨low, high⟩ := h.accessed t made
    omega
  related := h.related

theorem Dated.inReach (h : m.Dated s.turnCount) (reach : s.turnCount ≤ farthest) : m.InReach s where
  created t made := by
    obtain ⟨low, high⟩ := h.created t made
    omega
  accessed t made := by
    obtain ⟨low, high⟩ := h.accessed t made
    omega
  related := h.related

theorem stamp_dated {moment : Option Int} (h : ∀ t, moment = some t → 0 ≤ t ∧ t ≤ turn) :
    ∀ t, stamp turn moment = some t → 0 ≤ t ∧ t ≤ turn := by
  intro t stamped
  rw [stamp] at stamped
  split_ifs at stamped
  · rw [← Option.some.inj stamped]
    omega
  · exact h t stamped

theorem Dated.enhanced (h : m.Dated s.turnCount) (known : s.knownEntities.length ≤ crowd)
    (done : m.enhanced s = .ok e) : e.Dated s.turnCount := by
  obtain ⟨x, -, rfl⟩ := enhanced_eq_ok.mp done
  exact ⟨stamp_dated h.created, stamp_dated h.accessed, length_related_filled_le h.related known⟩

end Memory

namespace CleanupConfig

variable {c : CleanupConfig} {s : GameState} {r : CleanupResult}

theorem rescored_dated {memories scored : List Memory} {turn : Nat}
    (h : memories.mapM (rescore s) = .ok scored) (dated : ∀ m ∈ memories, m.Dated turn) :
    ∀ m ∈ scored, m.Dated turn := by
  induction mapM_eq_ok.mp h with
  | nil => exact fun m member => absurd member List.not_mem_nil
  | cons first _ ih =>
    obtain ⟨here, rest⟩ := List.forall_mem_cons.mp dated
    obtain ⟨x, -, rfl⟩ := rescore_eq_ok.mp first
    exact List.forall_mem_cons.mpr
      ⟨⟨here.created, here.accessed, here.related⟩, ih (mapM_eq_ok.mpr ‹_›) rest⟩

theorem choose_dated {scored : List Memory} {ch : Choice} (h : c.choose scored s = .ok ch)
    (known : s.knownEntities.length ≤ crowd) (dated : ∀ m ∈ scored, m.Dated s.turnCount) :
    ∀ m ∈ ch.active, m.Dated s.turnCount := by
  intro a member
  obtain ⟨-, chosen⟩ | ⟨-, active, -⟩ := choose_cases h
  · obtain ⟨m, listed, taken⟩ := partition_taken chosen a member
    cases taken with
    | pinned => exact dated a listed
    | loose loose high offer =>
      cases offer with
      | asIs complete => exact dated a listed
      | refreshed stale done => exact (dated m listed).enhanced known done
  · exact dated a (active ▸ member)

/-- After a pass the moments of all active memories lie behind, as they did before. -/
theorem Trace.dated (t : Trace c s r) (reach : s.InReach)
    (dated : ∀ m ∈ s.memories, m.Dated s.turnCount) :
    ∀ m ∈ (applyCleanup s r).memories, m.Dated s.turnCount := by
  obtain ⟨g, generated, made⟩ := exists_generated (c := c) reach
  obtain rfl := Except.ok.inj (generated.symm.trans t.generated)
  have scored : ∀ m ∈ t.scored, m.Dated s.turnCount :=
    rescored_dated t.rescored (List.forall_mem_append.mpr ⟨dated, fun m fresh => (made m fresh).dated⟩)
  have chosen := choose_dated t.selected reach.known scored
  intro m member
  rw [applyCleanup] at member
  split_ifs at member
  · rw [← congrArg CleanupResult.activeMemories t.result] at member
    exact chosen m member
  · exact dated m member

end CleanupConfig

end Gamebook
