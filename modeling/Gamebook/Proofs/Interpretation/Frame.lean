import Gamebook.Proofs.Acting.Run

/-!
What interpretation leaves alone. History, archive, counters and the setting are untouched by any
narrative; the logs, the memories and the discoveries only grow; and time, statuses and quests change
only where the narrative has a tag of theirs.
-/

namespace Gamebook

open Play (Yields yields_pure yields_ofOutcome)
open TagKind (ofStatuses ofQuests)

variable {s t u : GameState} {told : TagKind → Prop} {kind : TagKind} {attrs : Fields}

/-- Whether a state has come from another by tags of the kinds that are told. -/
structure Framed (told : TagKind → Prop) (s t : GameState) : Prop where
  turnCount : t.turnCount = s.turnCount
  totalTokens : t.totalTokens = s.totalTokens
  gameHistory : t.gameHistory = s.gameHistory
  compressedHistory : t.compressedHistory = s.compressedHistory
  archivedMemories : t.archivedMemories = s.archivedMemories
  worldData : t.worldData = s.worldData
  chronicle : s.chronicle.Grows t.chronicle
  memories : s.memories <+: t.memories
  discovered : s.locationDiscoveryOrder <+: t.locationDiscoveryOrder
  discoveredOnce : s.locationDiscoveryOrder.Nodup → t.locationDiscoveryOrder.Nodup
  gameTime : t.gameTime ≠ s.gameTime → told .timeElapsed
  statuses : t.statuses ≠ s.statuses → ∃ kind ∈ ofStatuses, told kind
  quests : t.quests ≠ s.quests → ∃ kind ∈ ofQuests, told kind

namespace Framed

theorem refl (told : TagKind → Prop) (s : GameState) : Framed told s s where
  turnCount := rfl
  totalTokens := rfl
  gameHistory := rfl
  compressedHistory := rfl
  archivedMemories := rfl
  worldData := rfl
  chronicle := .refl s.chronicle
  memories := List.prefix_rfl
  discovered := List.prefix_rfl
  discoveredOnce := id
  gameTime changed := absurd rfl changed
  statuses changed := absurd rfl changed
  quests changed := absurd rfl changed

/-- What has changed in two steps has changed in one of them. -/
theorem changes {α : Type} {a b c : α} {P : Prop} (first : b ≠ a → P) (second : c ≠ b → P)
    (changed : c ≠ a) : P := by
  by_cases same : c = b
  · exact first (same ▸ changed)
  · exact second same

theorem trans (first : Framed told s t) (second : Framed told t u) : Framed told s u where
  turnCount := second.turnCount.trans first.turnCount
  totalTokens := second.totalTokens.trans first.totalTokens
  gameHistory := second.gameHistory.trans first.gameHistory
  compressedHistory := second.compressedHistory.trans first.compressedHistory
  archivedMemories := second.archivedMemories.trans first.archivedMemories
  worldData := second.worldData.trans first.worldData
  chronicle := first.chronicle.trans second.chronicle
  memories := first.memories.trans second.memories
  discovered := first.discovered.trans second.discovered
  discoveredOnce := second.discoveredOnce ∘ first.discoveredOnce
  gameTime := changes first.gameTime second.gameTime
  statuses := changes first.statuses second.statuses
  quests := changes first.quests second.quests

theorem of_castOnly (told : TagKind → Prop) (only : CastOnly s t) : Framed told s t := by
  obtain ⟨known, party, rfl⟩ := only
  exact { refl told s with }

/-- A place is discovered behind the others, and only if it is not among them. -/
theorem discover (told : TagKind → Prop) (s : GameState) (name : String) :
    Framed told s (Scene.discover s name) := by
  rw [Scene.discover]
  split_ifs with known
  · exact refl told s
  · have new : name ∉ s.locationDiscoveryOrder := by simpa using known
    exact { refl told s with
      discovered := List.prefix_append _ _
      discoveredOnce := fun once => List.concat_eq_append ▸ once.concat new }

theorem touches (step : Touches kind attrs s t) (tells : told kind) : Framed told s t := by
  cases step with
  | cast move => exact of_castOnly told move.castOnly
  | retype tag typed only => exact of_castOnly told only
  | time tag _ gameTime => exact { refl told s with gameTime := fun _ => tag ▸ tells }
  | log grown => exact { refl told s with chronicle := grown }
  | remember _ memory => exact { refl told s with memories := List.prefix_append _ _ }
  | statuses tag _ statuses => exact { refl told s with statuses := fun _ => ⟨kind, tag, tells⟩ }
  | quests tag _ quests => exact { refl told s with quests := fun _ => ⟨kind, tag, tells⟩ }
  | discover _ place => exact discover told s place

theorem touched (run : Touched kind attrs s t) (tells : told kind) : Framed told s t := by
  induction run with
  | refl => exact refl told s
  | tail _ step ih => exact ih.trans (touches step tells)

theorem leaves (left : Leaves kind attrs s t) (tells : told kind) : Framed told s t := by
  cases left with
  | plain run => exact touched run tells
  | advanced run only keyed =>
    exact (touched run tells).trans (of_castOnly told (only.trans (.progressRealm _)))

end Framed

/-! ### Synchronization -/

namespace Skill

variable {y next : Sync} {base held target holder : String}

theorem Sync.outrank_castOnly (given : Yields (y.outrank base held target) next) :
    CastOnly y.state next.state := by
  rw [Sync.outrank] at given
  split_ifs at given
  · obtain ⟨lower, -, given⟩ := given.bind
    obtain ⟨id, -, given⟩ := given.bind
    obtain rfl := yields_pure.mp given
    exact ⟨_, _, rfl⟩
  · obtain rfl := yields_pure.mp given
    exact ⟨_, _, rfl⟩

theorem Sync.resolve_castOnly (given : Yields (y.resolve holder held) next) :
    CastOnly y.state next.state := by
  rw [Sync.resolve] at given
  split_ifs at given
  · obtain rfl := yields_pure.mp given
    exact .refl y.state
  dsimp only at given
  split at given
  · obtain rfl := yields_pure.mp given
    exact .refl y.state
  · split_ifs at given
    · obtain rfl := yields_pure.mp given
      exact .refl y.state
    · exact outrank_castOnly given
    · obtain rfl := yields_pure.mp given
      exact .rewrite _ _ _ _

theorem Sync.resolveHolder_castOnly (given : Yields (y.resolveHolder holder) next) :
    CastOnly y.state next.state := by
  rw [Sync.resolveHolder] at given
  split at given
  · obtain rfl := yields_pure.mp given
    exact .refl y.state
  · exact Yields.foldlM (P := fun z => CastOnly y.state z.state)
      (fun _ _ _ run step => run.trans (resolve_castOnly step)) (.refl y.state) given

/-- Synchronization touches the cast only. -/
theorem synchronize_castOnly {done : GameState × List (String × String)}
    (given : Yields (synchronize s) done) : CastOnly s done.1 := by
  obtain ⟨last, resolved, given⟩ := given.bind
  obtain rfl := yields_pure.mp given
  exact Yields.foldlM (P := fun z => CastOnly s z.state)
    (fun _ _ _ run step => run.trans (Sync.resolveHolder_castOnly step)) (.refl s) resolved

end Skill

/-! ### Narratives -/

/-- Whether a narrative has a tag of a kind. -/
def TagKind.ToldIn (text : String) (kind : TagKind) : Prop := ∃ t ∈ Tag.find text, t.kind? = some kind

/-- Interpretation of a narrative changes nothing of a state but its cast, what its logs, memories
and discoveries gain, and what its tags of time, statuses and quests tell. -/
theorem interpret_framed {s : GameState} {rules : List Rule} {text : String} {d d' : Draws}
    {i : Interpretation} (ok : interpret rules text s d = (.ok i, d')) :
    Framed (TagKind.ToldIn text) s i.state := by
  refine interpret_keeps (P := fun t _ => Framed (TagKind.ToldIn text) s t)
    (fun stage member kind p known y applied before => ?_) (fun _ framed => framed)
    (fun t _ _ framed given => framed.trans (.of_castOnly _ (Skill.synchronize_castOnly given)))
    (.refl _ s) ok
  have acts := TagKind.play_acts (Keyed.nodup_ofPairs _) y
  exact before.trans (.leaves acts.left ⟨stage.1, Progress.stages_tag member, known⟩)

/-- A quiet evening: time passes, a quest is given and a place is found again. -/
def evening : String :=
  "[TIME_ELAPSED: hours=2][QUEST_ASSIGNED: title=Herbs][LORE_LOCATION: name=Inn]"

theorem evening_framed : ∃ i d', interpret [] evening { locationDiscoveryOrder := ["Inn"] } {} =
    (.ok i, d') ∧ Framed (TagKind.ToldIn evening) { locationDiscoveryOrder := ["Inn"] } i.state := by
  have told : Play.passes (interpret [] evening { locationDiscoveryOrder := ["Inn"] }) {}
      (fun i _ => i.state.gameTime.hour = 2) = true := by
    decide +kernel
  obtain ⟨i, d', ok, -⟩ := Play.exists_of_passes told
  exact ⟨i, d', ok, interpret_framed ok⟩

end Gamebook
