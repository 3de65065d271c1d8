import Mathlib
import Gamebook.Proofs.Cleanup.Dating
import Gamebook.Proofs.History.Turns
import Gamebook.Proofs.Turn.Ceiling

/-!
History over a whole game. Every turn writes down an action and a reply and runs cleanup once. The
segments stand for the entries that were folded, one run of them behind the other, and together with
the window they account for all that was told.

The turns of a segment are reckoned from sizes, which do not tell whether the window begins with a turn
or within one. For a segment whose entries begin and end within a turn the last turn comes out one too
low; the ranges of all others are right.
-/

namespace Gamebook

open Outcome

/-- A state with one turn more, of which an action and a reply are written down. -/
def GameState.record (s : GameState) (turn : Entry × Entry) : GameState :=
  { s with gameHistory := s.gameHistory ++ [turn.1, turn.2], turnCount := s.turnCount + 1 }

/-- A turn is written down, and cleanup runs. -/
def Coordinator.playTurn (game : Coordinator × GameState) (turn : Entry × Entry) :
    Outcome (Coordinator × GameState) := do
  let s := game.2.record turn
  let r ← (game.1.run s).1
  return ((game.1.run s).2, applyCleanup s r)

/-- A game of some turns, with a new coordinator and from the empty state. -/
def playTurns (c : CleanupConfig) (turns : List (Entry × Entry)) : Outcome (Coordinator × GameState) :=
  turns.foldlM Coordinator.playTurn ({ config := c }, {})

/-- All that was written down, in order. -/
def toldIn (turns : List (Entry × Entry)) : List Entry := turns.flatMap fun turn => [turn.1, turn.2]

variable {c : CleanupConfig} {turns : List (Entry × Entry)} {turn : Entry × Entry} {k : Coordinator}
  {s : GameState} {r : CleanupResult}

theorem toldIn_concat (turns : List (Entry × Entry)) (turn : Entry × Entry) :
    toldIn (turns ++ [turn]) = toldIn turns ++ [turn.1, turn.2] := by
  simp [toldIn]

theorem length_toldIn (turns : List (Entry × Entry)) : (toldIn turns).length = 2 * turns.length := by
  induction turns using List.reverseRecOn with
  | nil => rfl
  | append_singleton turns turn ih =>
    rw [toldIn_concat, List.length_append, ih, List.length_append]
    simp only [List.length_cons, List.length_nil]
    omega

theorem playTurns_concat_eq_ok {game : Coordinator × GameState} :
    playTurns c (turns ++ [turn]) = .ok game ↔ ∃ k s r, playTurns c turns = .ok (k, s) ∧
      (k.run (s.record turn)).1 = .ok r ∧
      game = ((k.run (s.record turn)).2, applyCleanup (s.record turn) r) := by
  simp only [playTurns, List.foldlM_append, List.foldlM_cons, List.foldlM_nil, bind_pure, bind_eq_ok,
    Coordinator.playTurn, pure_eq_ok]
  constructor
  · rintro ⟨⟨k, s⟩, begun, r, ran, rfl⟩
    exact ⟨k, s, r, begun, ran, rfl⟩
  · rintro ⟨k, s, r, begun, ran, rfl⟩
    exact ⟨(k, s), begun, r, ran, rfl⟩

/-! ### Folded history -/

/-- What a game has come to: the coordinator is ready for the next turn, and segments and window stand
for all that was told. -/
structure Tiled (c : CleanupConfig) (turns : List (Entry × Entry)) (k : Coordinator) (s : GameState) :
    Prop where
  ready : k.Ready c
  seen : ∀ t, k.lastTurn = some t → t ≤ s.turnCount
  turn : s.turnCount = turns.length
  folded : ∃ stop, s.gameHistory = (toldIn turns).drop stop ∧
    Tiles c.history (toldIn turns) stop s.compressedHistory

theorem tiled_start (c : CleanupConfig) : Tiled c [] { config := c } {} where
  ready := ⟨rfl, rfl⟩
  seen := nofun
  turn := rfl
  folded := ⟨0, rfl, .none⟩

theorem Tiled.fresh (h : Tiled c turns k s) (turn : Entry × Entry) :
    (k.run (s.record turn)).1 = c.pass (s.record turn) := by
  have new : k.lastTurn ≠ some (s.record turn).turnCount := by
    intro seen
    exact absurd (h.seen _ seen) (Nat.not_succ_le_self _)
  rw [Coordinator.run_fresh h.ready.idle new, h.ready.config]

theorem Tiled.step (h : Tiled c turns k s) (ran : (k.run (s.record turn)).1 = .ok r) :
    Tiled c (turns ++ [turn]) (k.run (s.record turn)).2 (applyCleanup (s.record turn) r) where
  ready := h.ready.run _
  seen t seen := by
    rw [Coordinator.run_lastTurn h.ready.idle] at seen
    rw [applyCleanup_turnCount, Option.some.inj seen]
  turn := by
    rw [applyCleanup_turnCount, List.length_append, ← h.turn]
    rfl
  folded := by
    obtain ⟨start, window, tiles⟩ := h.folded
    have whole : (toldIn (turns ++ [turn])).length = 2 * (s.record turn).turnCount := by
      rw [length_toldIn, List.length_append, ← h.turn]
      rfl
    have begun : (s.record turn).gameHistory = (toldIn (turns ++ [turn])).drop start := by
      rw [toldIn_concat, List.drop_append_of_le_length tiles.le_length, ← window]
      rfl
    have before : Tiles c.history (toldIn (turns ++ [turn])) start s.compressedHistory := by
      rw [toldIn_concat]
      exact tiles.append _
    rw [h.fresh] at ran
    obtain ⟨-, ⟨t⟩⟩ | ⟨-, rfl⟩ := CleanupConfig.pass_eq_ok.mp ran
    · have windowed := t.windowed
      rw [begun] at windowed
      obtain ⟨stop, active, after⟩ := before.manageHistory whole windowed
      exact ⟨stop, t.apply_gameHistory.trans active, t.apply_compressedHistory.symm ▸ after⟩
    · rw [applyCleanup_unchanged]
      exact ⟨start, begun, before⟩

theorem playTurns_tiled (played : playTurns c turns = .ok (k, s)) : Tiled c turns k s := by
  induction turns using List.reverseRecOn generalizing k s with
  | nil =>
    obtain ⟨rfl, rfl⟩ := Prod.mk.inj (Except.ok.inj played)
    exact tiled_start c
  | append_singleton turns turn ih =>
    obtain ⟨before, state, r, begun, ran, same⟩ := playTurns_concat_eq_ok.mp played
    obtain ⟨rfl, rfl⟩ := Prod.mk.inj same
    exact (ih begun).step ran

/-! ### Games go on -/

theorem record_inReach (h : Tiled c turns k s) (dated : ∀ m ∈ s.memories, m.Dated s.turnCount)
    (known : s.knownEntities = []) (reach : turns.length + 1 ≤ farthest)
    (readable : ∀ e ∈ toldIn (turns ++ [turn]), e.Readable) : (s.record turn).InReach where
  memories m member := by
    refine ((dated m member).mono (Nat.le_succ _)).inReach ?_
    change s.turnCount + 1 ≤ farthest
    rw [h.turn]
    exact reach
  known := by
    change s.knownEntities.length ≤ crowd
    rw [known]
    exact Nat.zero_le _
  readable e member := by
    obtain ⟨stop, window, -⟩ := h.folded
    refine readable e ?_
    rw [toldIn_concat, List.mem_append]
    rcases List.mem_append.mp member with before | here
    · rw [window] at before
      exact .inl (List.mem_of_mem_drop before)
    · exact .inr here

theorem applyCleanup_knownEntities (s : GameState) (r : CleanupResult) :
    (applyCleanup s r).knownEntities = s.knownEntities := by
  rw [applyCleanup]
  split_ifs <;> rfl

/-- A game of turns that can be read goes on. -/
theorem exists_playTurns (affordable : c.maxTokenBudget ≤ farthest) (reach : turns.length ≤ farthest)
    (readable : ∀ e ∈ toldIn turns, e.Readable) :
    ∃ k s, playTurns c turns = .ok (k, s) ∧ (∀ m ∈ s.memories, m.Dated s.turnCount) ∧
      s.knownEntities = [] := by
  induction turns using List.reverseRecOn with
  | nil => exact ⟨_, _, rfl, fun m member => absurd member List.not_mem_nil, rfl⟩
  | append_singleton turns turn ih =>
    rw [List.length_append, List.length_singleton] at reach
    have earlier : ∀ e ∈ toldIn turns, e.Readable := by
      intro e member
      refine readable e ?_
      rw [toldIn_concat]
      exact List.mem_append_left _ member
    obtain ⟨k, s, begun, dated, known⟩ := ih (Nat.le_of_succ_le reach) earlier
    have tiled := playTurns_tiled begun
    have within := record_inReach tiled dated known reach readable
    obtain ⟨r, passed⟩ := CleanupConfig.exists_pass affordable within
    refine ⟨_, _, playTurns_concat_eq_ok.mpr ⟨k, s, r, begun, (tiled.fresh turn).trans passed, rfl⟩,
      ?_, (applyCleanup_knownEntities _ r).trans known⟩
    rw [applyCleanup_turnCount]
    have before : ∀ m ∈ (s.record turn).memories, m.Dated (s.record turn).turnCount := by
      intro m member
      exact (dated m member).mono (Nat.le_succ _)
    obtain ⟨-, ⟨t⟩⟩ | ⟨-, rfl⟩ := CleanupConfig.pass_eq_ok.mp passed
    · exact t.dated within before
    · rw [applyCleanup_unchanged]
      exact before

/-! ### Games as a whole -/

/-- In a game from the empty state the segments stand for the entries that were folded, each with the
right range of turns if its entries begin or end with a turn; and if the folded entries end with a turn,
the statistics count two entries for every turn. The game gives a result whenever its entries can be
read, within the range of numbers. -/
theorem playTurns_tiles (c : CleanupConfig) (turns : List (Entry × Entry)) :
    (∀ k s, playTurns c turns = .ok (k, s) → ∃ stop,
      s.gameHistory = (toldIn turns).drop stop ∧
      Tiles c.history (toldIn turns) stop s.compressedHistory ∧
      (Even stop → 2 * turns.length ≤ farthest → ∃ stats,
        historyStats s.gameHistory s.compressedHistory = .ok stats ∧
        stats.totalOriginal = 2 * turns.length)) ∧
    (c.maxTokenBudget ≤ farthest → turns.length ≤ farthest → (∀ e ∈ toldIn turns, e.Readable) →
      ∃ k s, playTurns c turns = .ok (k, s)) := by
  constructor
  · intro k s played
    obtain ⟨stop, window, tiles⟩ := (playTurns_tiled played).folded
    refine ⟨stop, window, tiles, fun whole short => ?_⟩
    rw [← length_toldIn] at short
    obtain ⟨stats, counted, total⟩ := tiles.exists_historyStats whole short
    rw [window]
    refine ⟨stats, counted, ?_⟩
    rw [total, length_toldIn]
    push_cast
    rfl
  · intro affordable reach readable
    obtain ⟨k, s, played, -⟩ := exists_playTurns affordable reach readable
    exact ⟨k, s, played⟩

/-- The usual bound of memories is one that they can keep. -/
theorem one_le_usualMemories : 1 ≤ 120 := by decide

/-- Bounds of a window of some entries, that folds as soon as there are more. -/
def foldingAt (window : Nat) (fits : 2 ≤ window) : CleanupConfig where
  history := { maxActive := window, threshold := window, two_le_maxActive := fits
               maxActive_le_threshold := Nat.le_refl window }
  generatesMemories := false
  one_le_maxActiveMemories := one_le_usualMemories

/-- Three turns of a walk. -/
def walk : List (Entry × Entry) :=
  [(.ofUser "Go on", .ofReply { story := "Dawn." }), (.ofUser "Go on", .ofReply { story := "Noon." }),
    (.ofUser "Rest", .ofReply { story := "Night." })]

theorem walk_readable : ∀ e ∈ toldIn walk, e.Readable := by
  have read : ∀ e ∈ toldIn walk, e.payload?.toOption.isSome = true := by decide +kernel
  intro e member
  obtain ⟨v, payload, -⟩ := exists_ok (x := e.payload?) (p := fun _ => true)
    (by rw [Option.any_true]; exact read e member)
  exact ⟨v, payload⟩

theorem walk_tiles : (foldingAt 2 (by decide)).maxTokenBudget ≤ farthest ∧ walk.length ≤ farthest ∧
    (∀ e ∈ toldIn walk, e.Readable) ∧ Even 4 ∧ 2 * walk.length ≤ farthest ∧
    ∃ k s, playTurns (foldingAt 2 (by decide)) walk = .ok (k, s) ∧
      Tiles (foldingAt 2 (by decide)).history (toldIn walk) 4 s.compressedHistory ∧
      ∃ stats, historyStats s.gameHistory s.compressedHistory = .ok stats ∧
        stats.totalOriginal = 2 * walk.length := by
  have affordable : (foldingAt 2 (by decide)).maxTokenBudget ≤ farthest := by decide +kernel
  have reach : 2 * walk.length ≤ farthest := by decide +kernel
  have short : walk.length ≤ farthest := by decide +kernel
  obtain ⟨tiles, gives⟩ := playTurns_tiles (foldingAt 2 (by decide)) walk
  obtain ⟨k, s, played⟩ := gives affordable short walk_readable
  obtain ⟨stop, window, covered, counted⟩ := tiles k s played
  -- Two entries are left of six.
  have left : (playTurns (foldingAt 2 (by decide)) walk).toOption.any
      (fun game => game.2.gameHistory.length = 2) = true := by
    decide +kernel
  obtain ⟨game, same, two⟩ := exists_ok left
  obtain rfl := Except.ok.inj (played.symm.trans same)
  have length : (toldIn walk).length - stop = 2 := by
    rw [← List.length_drop, ← window]
    exact of_decide_eq_true two
  obtain rfl : stop = 4 := by
    rw [length_toldIn] at length
    change 2 * 3 - stop = 2 at length
    omega
  exact ⟨affordable, short, walk_readable, by decide, reach, k, s, played, covered,
    counted (by decide) reach⟩

/-- A window of three entries begins within the second turn and then within the third: the entries that
are folded then end within the second, but their range ends with the first. -/
theorem walk_slips :
    (∃ k s, playTurns (foldingAt 3 (by decide)) (walk.take 2) = .ok (k, s) ∧
      s.gameHistory = ((toldIn walk).take 4).drop 1) ∧
    ∃ k s, playTurns (foldingAt 3 (by decide)) walk = .ok (k, s) ∧
      s.gameHistory = (toldIn walk).drop 3 ∧ s.compressedHistory.map (·.turnRange) = ["1-1", "1-1"] ∧
      turnOf 2 = 1 ∧ turnOf 3 = 2 := by
  have before : (playTurns (foldingAt 3 (by decide)) (walk.take 2)).toOption.any
      (fun game => game.2.gameHistory = ((toldIn walk).take 4).drop 1) = true := by
    decide +kernel
  have after : (playTurns (foldingAt 3 (by decide)) walk).toOption.any
      (fun game => game.2.gameHistory = (toldIn walk).drop 3 ∧
        game.2.compressedHistory.map (·.turnRange) = ["1-1", "1-1"]) = true := by
    decide +kernel
  obtain ⟨⟨k, s⟩, begun, left⟩ := exists_ok before
  obtain ⟨⟨k', s'⟩, played, told⟩ := exists_ok after
  obtain ⟨window, ranges⟩ := of_decide_eq_true told
  exact ⟨⟨k, s, begun, of_decide_eq_true left⟩, k', s', played, window, ranges, rfl, rfl⟩

end Gamebook
