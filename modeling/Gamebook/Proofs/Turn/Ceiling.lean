import Gamebook.Proofs.Cleanup.Bounds
import Gamebook.Proofs.Turn.Step

/-!
The ceiling on active memories over a whole campaign of turns, failures and rollbacks. The
coordinator remembers one turn only, the last one that it saw; a turn that is played again right
after it was completed gets no cleanup, and every other completed turn keeps to the ceiling.
-/

namespace Gamebook

open Coordinator (narrow crowded)
open Narrator (Message)

/-! ### Coordinators -/

namespace Coordinator

variable {k : Coordinator} {s : GameState} {r : CleanupResult}

/-- Whether a coordinator works within the given bounds and is not in the middle of a pass. -/
structure Ready (c : CleanupConfig) (k : Coordinator) : Prop where
  config : k.config = c
  idle : k.phase.isBusy = false

theorem pass_phase {c : CleanupConfig} (h : c.pass s = .ok r) : r.phase.isBusy = false := by
  obtain ⟨-, ⟨t⟩⟩ | ⟨-, rfl⟩ := CleanupConfig.pass_eq_ok.mp h
  · rw [← t.result]
    change (if _ then CleanupPhase.applied else .noop).isBusy = false
    split_ifs <;> rfl
  · rfl

theorem Ready.run {c : CleanupConfig} (h : k.Ready c) (s : GameState) : (k.run s).2.Ready c := by
  rw [Coordinator.run]
  split_ifs
  · exact h
  · cases passed : k.config.pass s with
    | ok r => exact ⟨h.config, pass_phase passed⟩
    | error e => exact ⟨h.config, rfl⟩

/-- A coordinator that is ready has seen the turn afterwards, whether it cleaned up or not. -/
theorem run_lastTurn (idle : k.phase.isBusy = false) (s : GameState) :
    (k.run s).2.lastTurn = some s.turnCount := by
  rw [run, idle, Bool.false_or]
  split_ifs with seen
  · exact of_decide_eq_true seen
  · cases k.config.pass s <;> rfl

/-- A turn that was seen already gets no cleanup. -/
theorem run_seen (seen : k.lastTurn = some s.turnCount) : (k.run s).1 = .ok (.unchanged s) := by
  rw [run, if_pos (by simp [seen])]

end Coordinator

/-! ### Campaigns -/

/-- A call of the pipeline: it gave a result, or it raised and left the coordinator with the turn
that this saw last. -/
inductive Call where
  | returned (r : TurnResult)
  | raised (seen : Option Nat)

/-- The turn that the coordinator saw last, after calls of which the latest stands first: the turn
completed last, unless a call has raised since. -/
def seenLast : List Call → Option Nat
  | [] => none
  | .raised seen :: _ => seen
  | .returned r :: earlier => if r.skipped then seenLast earlier else some r.turn

/-- Campaigns of a new pipeline with bounds for cleanup and a repository of snapshots: what the
pipeline is by now, the states that may be played on, and the calls so far, the latest first. The
narrator answers every conversation. The first call gets any state, and each later call the state
that the call before gave or one that was gone back to; after a call that raised, the states from
before are still there. -/
inductive Campaign (c : CleanupConfig) : Pipeline → List GameState → List Call → Prop
  | start {p : Pipeline} {k : Snapshots} (new : p.coordinator = { config := c })
    (kept : p.snapshots = some k) (s : GameState) : Campaign c p [s] []
  | returned {p p' : Pipeline} {states : List GameState} {calls : List Call} {s : GameState}
    {d d' : Draws} {r : TurnResult} (before : Campaign c p states calls) (present : s ∈ states)
    (reply : List Message → String) (now : Number) (action : String)
    (call : processTurn (fun messages => .ok (reply messages)) now s action (p, d) =
      (.ok r, (p', d'))) :
    Campaign c p' [r.state] (.returned r :: calls)
  | raised {p p' : Pipeline} {states : List GameState} {calls : List Call} {s : GameState}
    {d d' : Draws} {e : Failure} (before : Campaign c p states calls) (present : s ∈ states)
    (reply : List Message → String) (now : Number) (action : String)
    (call : processTurn (fun messages => .ok (reply messages)) now s action (p, d) =
      (.error e, (p', d'))) :
    Campaign c p' states (.raised p'.coordinator.lastTurn :: calls)
  | rolledBack {p : Pipeline} {states : List GameState} {calls : List Call} {k k' : Snapshots}
    {turn : Int} {s : GameState} (before : Campaign c p states calls) (kept : p.snapshots = some k)
    (back : k.rollback turn = .ok (s, k')) :
    Campaign c { p with snapshots := some k' } (s :: states) calls

variable {c : CleanupConfig} {p : Pipeline} {states : List GameState} {calls : List Call}

/-- In a campaign the coordinator is ready and has seen what the calls tell. -/
theorem Campaign.coordinator (run : Campaign c p states calls) :
    p.coordinator.Ready c ∧ p.coordinator.lastTurn = seenLast calls := by
  induction run with
  | start new kept s =>
    rw [new]
    exact ⟨⟨rfl, rfl⟩, rfl⟩
  | returned before present reply now action call ih =>
    rcases processTurn_eq_ok call with ⟨skipped, same⟩ | ⟨⟨turn⟩⟩
    · rw [same, seenLast, if_pos skipped]
      exact ih
    · rw [turn.coordinator, seenLast, if_neg (by rw [turn.taken]; decide), turn.turn]
      exact ⟨ih.1.run turn.recorded, Coordinator.run_lastTurn ih.1.idle turn.recorded⟩
  | @raised p p' states calls s d d' e before present reply now action call ih =>
    have ready : (processTurn (fun messages => .ok (reply messages)) now s action
        (p, d)).2.1.coordinator.Ready c :=
      processTurn_keeps (fun k s ready => ready.run s) (p, d) ih.1
    rw [call] at ready
    exact ⟨ready, rfl⟩
  | rolledBack before kept back ih => exact ih

/-- A completed turn keeps to the ceiling, unless the coordinator saw that very turn last. -/
theorem Completes.ceiling {p' : Pipeline} {r : TurnResult} (turn : Completes p r p')
    (ready : p.coordinator.Ready c) (new : p.coordinator.lastTurn ≠ some r.turn) :
    r.state.memories.length ≤ c.maxActiveMemories := by
  have passed := turn.ran
  rw [turn.turn] at new
  rw [Coordinator.run_fresh ready.idle new, ready.config] at passed
  rw [turn.state]
  obtain ⟨-, ⟨t⟩⟩ | ⟨⟨-, few⟩, same⟩ := CleanupConfig.pass_eq_ok.mp passed
  · exact t.memories_length_le
  · rw [← same, applyCleanup_unchanged]
    exact CleanupConfig.length_le_of_not_due few

/-- Over any campaign, a turn that was completed has no more memories than the ceiling allows,
unless the coordinator saw that very turn last before; then it gets no cleanup. -/
theorem campaign_keeps_ceiling (run : Campaign c p states calls) {later earlier : List Call}
    {r : TurnResult} (here : calls = later ++ .returned r :: earlier) (taken : r.skipped = false) :
    if seenLast earlier = some r.turn then ∃ cleanup, r.cleanup = some cleanup ∧
      cleanup.triggered = false
    else r.state.memories.length ≤ c.maxActiveMemories := by
  -- Each step adds one call at most, so only the latest call is new.
  induction run generalizing later with
  | start new kept s => exact absurd here.symm (by simp)
  | raised before present reply now action call ih =>
    cases later with
    | nil => exact nomatch here
    | cons _ later => exact ih (List.cons.inj here).2
  | rolledBack before kept back ih => exact ih here
  | returned before present reply now action call ih =>
    cases later with
    | cons _ later => exact ih (List.cons.inj here).2
    | nil =>
      obtain ⟨same, rfl⟩ := List.cons.inj here
      obtain rfl := Call.returned.inj same
      obtain ⟨skipped, -⟩ | ⟨⟨turn⟩⟩ := processTurn_eq_ok call
      · exact absurd skipped (by simp [taken])
      · obtain ⟨ready, seen⟩ := before.coordinator
        rw [← seen]
        split_ifs with replayed
        · rw [turn.turn] at replayed
          have ran := turn.ran
          rw [Coordinator.run_seen replayed] at ran
          exact ⟨turn.cleanup, turn.noted, (Except.ok.inj ran) ▸ rfl⟩
        · exact turn.ceiling ready replayed

/-! ### Turns played again -/

/-- A pipeline that keeps one memory and two entries of history, and generates nothing. -/
def forgetful : Pipeline where
  coordinator := narrow

/-- A turn in which the narrator tells a story. -/
def tell (story : String) (now : Number) (s : GameState) : Step TurnResult :=
  processTurn (fun _ => .ok story) now s "Wait"

theorem forgetful_starts (s : GameState) :
    Campaign forgetful.coordinator.config forgetful [s] [] :=
  .start rfl rfl s

theorem forgetful_keeps_ceiling : ∃ p r,
    Campaign forgetful.coordinator.config p [r.state] [.returned r] ∧ r.skipped = false ∧
      r.cleanup.any (·.triggered) = true ∧ r.state.memories.length ≤ 1 := by
  have told : Play.passes (tell "Night." (.int 0) crowded) (forgetful, {})
      (fun r _ => !r.skipped && r.cleanup.any (·.triggered)) = true := by
    decide +kernel
  obtain ⟨r, ⟨p, d⟩, call, cleaned⟩ := Play.exists_of_passes told
  rw [Bool.and_eq_true, Bool.not_eq_true'] at cleaned
  have run := (forgetful_starts crowded).returned List.mem_cons_self _ _ _ call
  have few := campaign_keeps_ceiling run (List.nil_append _).symm cleaned.1
  rw [seenLast, if_neg nofun] at few
  exact ⟨p, r, run, cleaned.1, cleaned.2, few⟩

/-- The pipeline completes two turns, goes back to the first and tells another second turn, which
adds a memory. -/
def retells : Bool :=
  Play.passes (tell "Night." (.int 0) crowded) (forgetful, {}) fun r (p, d) =>
    Play.passes (tell "Night." (.int 1) r.state) (p, d) fun _ (p, d) =>
      p.snapshots.any fun k => (k.rollback 3).toOption.any fun (s, k) =>
        Play.passes (tell "[CHRONICLE_TURN: text=Dawn]" (.int 2) s)
          ({ p with snapshots := some k }, d) fun r _ =>
            !r.skipped && decide (1 < r.state.memories.length)

/-- A turn that is played again after going back may exceed the ceiling. -/
theorem replay_exceeds_ceiling : ∃ p r earlier,
    Campaign forgetful.coordinator.config p [r.state] (.returned r :: earlier) ∧
      r.skipped = false ∧ 1 < r.state.memories.length := by
  have again : retells = true := by decide +kernel
  obtain ⟨r₁, ⟨p₁, d₁⟩, first, again⟩ := Play.exists_of_passes again
  obtain ⟨r₂, ⟨p₂, d₂⟩, second, again⟩ := Play.exists_of_passes again
  obtain ⟨k, kept, again⟩ := Option.any_eq_true _ _ |>.mp again
  obtain ⟨⟨s, k'⟩, back, again⟩ := Outcome.exists_ok again
  obtain ⟨r, ⟨p, d⟩, third, exceeds⟩ := Play.exists_of_passes again
  rw [Bool.and_eq_true, Bool.not_eq_true', decide_eq_true_iff] at exceeds
  have run := (forgetful_starts crowded).returned List.mem_cons_self _ _ _ first
  have run := (run.returned List.mem_cons_self _ _ _ second).rolledBack kept back
  exact ⟨p, r, _, run.returned List.mem_cons_self _ _ _ third, exceeds⟩

end Gamebook
