import Gamebook.Proofs.Interpretation.Frame
import Gamebook.Proofs.Interpretation.Report
import Gamebook.Proofs.Narrator.Decoding
import Gamebook.Proofs.Turn.Ceiling

/-!
Transcripts that are read back from the history. Every completed turn writes an action and a reply, and
cleanup folds the oldest entries only; so the replies that are still there are those of the last turns,
and what is shown for them again is what was shown then, unless a story asks for special items: that
request is shown when the turn is played, and not again.
-/

namespace Gamebook

open Narrator (Message)
open Outcome
open Play (Yields)

/-! ### Histories of replies -/

/-- Whether a history is one of actions and of the given replies. -/
inductive Recounts : List Entry → List Reply → Prop
  | nil : Recounts [] []
  | action {history : List Entry} {replies : List Reply} (text : String)
    (rest : Recounts history replies) : Recounts (.ofUser text :: history) replies
  | reply {history : List Entry} {replies : List Reply} (r : Reply)
    (rest : Recounts history replies) : Recounts (.ofReply r :: history) (r :: replies)

namespace Recounts

variable {history later : List Entry} {replies : List Reply}

theorem turn (h : Recounts history replies) (text : String) (r : Reply) :
    Recounts (history ++ [.ofUser text, .ofReply r]) (replies ++ [r]) := by
  induction h with
  | nil => exact .action text (.reply r .nil)
  | action other _ ih => exact .action other ih
  | reply other _ ih => exact .reply other ih

theorem of_suffix (h : Recounts history replies) (within : later <:+ history) :
    ∃ gone, Recounts later (replies.drop gone) := by
  induction h with
  | nil =>
    obtain rfl := List.suffix_nil.mp within
    exact ⟨0, .nil⟩
  | action text rest ih =>
    rcases List.suffix_cons_iff.mp within with rfl | within
    · exact ⟨0, .action text rest⟩
    · exact ih within
  | reply r rest ih =>
    rcases List.suffix_cons_iff.mp within with rfl | within
    · exact ⟨0, .reply r rest⟩
    · obtain ⟨gone, recounted⟩ := ih within
      exact ⟨gone + 1, recounted⟩

theorem models (h : Recounts history replies) :
    history.filter (·.role = .model) = replies.map .ofReply := by
  induction h with
  | nil => rfl
  | action text _ ih => exact ih
  | reply r _ ih => exact congrArg (Entry.ofReply r :: ·) ih

theorem stories (h : Recounts history replies) :
    ∃ told, history.mapM Entry.story? = .ok told ∧ told.filterMap id = replies.map (·.story) := by
  induction h with
  | nil => exact ⟨[], rfl, rfl⟩
  | action text _ ih =>
    obtain ⟨told, read, same⟩ := ih
    exact ⟨none :: told, mapM_eq_ok.mpr (.cons rfl (mapM_eq_ok.mp read)), same⟩
  | reply r _ ih =>
    obtain ⟨told, read, same⟩ := ih
    refine ⟨some r.story :: told,
      mapM_eq_ok.mpr (.cons (Entry.story?_ofReply r) (mapM_eq_ok.mp read)), ?_⟩
    exact congrArg (r.story :: ·) same

end Recounts

theorem rehydrate_of_recounts {s : GameState} {replies : List Reply}
    (h : Recounts s.gameHistory replies) :
    rehydrate s = .ok (replies.map fun r => shownStory s r.story) := by
  obtain ⟨told, read, same⟩ := h.stories
  refine bind_eq_ok.mpr ⟨told, read, ?_⟩
  rw [same, List.map_map]
  rfl

/-! ### Turns -/

theorem interpret_gameHistory {rules : List Rule} {text : String} {s : GameState}
    {i : Interpretation} (told : Yields (interpret rules text s) i) :
    i.state.gameHistory = s.gameHistory := by
  obtain ⟨d, d', ok⟩ := told
  refine interpret_keeps (P := fun t _ => t.gameHistory = s.gameHistory)
    (fun stage _ kind p _ y _ before => ?_) (fun _ same => same)
    (fun _ _ _ same given => ?_) rfl ok
  · have left := (TagKind.play_acts (Keyed.nodup_ofPairs _) y).left
    have framed : Framed (fun _ => True) stage.2 p.scene.state := .leaves left trivial
    exact framed.gameHistory.trans before
  · have framed := Framed.of_castOnly (fun _ => True) (Skill.synchronize_castOnly given)
    exact framed.gameHistory.trans same

theorem Skill.awardUsage_gameHistory {s : GameState} {action : String}
    {done : GameState × List Skill.Gain} (awarded : Skill.awardUsage s action = .ok done) :
    done.1.gameHistory = s.gameHistory := by
  refine foldlM_keeps (P := fun acc => acc.1.gameHistory = s.gameHistory)
    (fun acc e next same step => ?_) rfl awarded
  rw [awardOne] at step
  split_ifs at step
  · obtain ⟨gain, -, step⟩ := bind_eq_ok.mp step
    obtain rfl := pure_eq_ok.mp step
    exact same
  · obtain rfl := Except.ok.inj step
    exact same

theorem Tells.written {s : GameState} {p p' : Pipeline} {r : TurnResult} (turn : Tells s p r p') :
    turn.recorded.gameHistory =
      s.gameHistory ++ [.ofUser (frameAction turn.heard), .ofReply turn.reply] := by
  rw [turn.record, recordTurn]
  dsimp only
  rw [Skill.awardUsage_gameHistory turn.awarded, interpret_gameHistory turn.interpreted]

theorem Coordinator.run_suffix {k : Coordinator} {s : GameState} {r : CleanupResult}
    (ran : (k.run s).1 = .ok r) : (applyCleanup s r).gameHistory <:+ s.gameHistory ∧
      (applyCleanup s r).gameHistory.getLast? = s.gameHistory.getLast? := by
  obtain rfl | ⟨⟨t⟩⟩ := run_cases ran
  · exact ⟨List.suffix_rfl, rfl⟩
  · rw [t.apply_gameHistory]
    exact manageHistory_suffix t.windowed

/-! ### Sessions -/

/-- Sessions of a pipeline: what it is by now, the state by now, and the results of the turns that took
place, in order. The history is empty at the start, and each call is given the state that the call
before gave; a call that raised leaves the state as it was. -/
inductive Session : Pipeline → GameState → List TurnResult → Prop
  | start (p : Pipeline) {s : GameState} (empty : s.gameHistory = []) : Session p s []
  | returned {p p' : Pipeline} {s : GameState} {told : List TurnResult} {d d' : Draws} {r : TurnResult}
    (before : Session p s told) (ask : List Message → Except String String) (now : Number)
    (action : String) (call : processTurn ask now s action (p, d) = (.ok r, (p', d'))) :
    Session p' r.state (if r.skipped then told else told ++ [r])
  | raised {p p' : Pipeline} {s : GameState} {told : List TurnResult} {d d' : Draws} {e : Failure}
    (before : Session p s told) (ask : List Message → Except String String) (now : Number)
    (action : String) (call : processTurn ask now s action (p, d) = (.error e, (p', d'))) :
    Session p' s told

/-- The entry that a turn wrote for the narrator, the last one of the history that it gave. -/
def TurnResult.written? (r : TurnResult) : Option Entry := r.state.gameHistory.getLast?

/-- Whether a story asks for special items, which is shown when the story is told. -/
def asksForItems (story : String) : Bool :=
  (Tag.find story).any fun t =>
    t.kind? = some .specialItemGenerate && !(Attribute.parse t.body).isEmpty

/-- Whether a turn wrote down a reply and showed it, requests for special items apart, as it is shown
again. -/
structure Wrote (reply : Reply) (r : TurnResult) : Prop where
  written : r.written? = some (.ofReply reply)
  shown : asksForItems reply.story = false → ∀ s, r.displayText = shownStory s reply.story

theorem shownStory_eq (s t : GameState) (story : String) : shownStory s story = shownStory t story := by
  rw [shownStory, shownStory, preview_displayText, preview_displayText]

theorem Tells.wrote {s : GameState} {p p' : Pipeline} {r : TurnResult} (turn : Tells s p r p') :
    Wrote turn.reply r where
  written := by
    rw [TurnResult.written?, turn.state, (Coordinator.run_suffix turn.ran).2, turn.written]
    simp
  shown plain t := by
    have unasked : ∀ tag ∈ Tag.find turn.reply.story, tag.kind? = some .specialItemGenerate →
        Attribute.parse tag.body = [] := by
      intro tag member special
      have quiet := List.any_eq_false.mp plain tag member
      simpa [special] using quiet
    obtain ⟨d, d', ok⟩ := turn.interpreted
    rw [turn.shown, interpret_shown unasked ok]
    exact shownStory_eq s t turn.reply.story

theorem map_eq_of_forall₂ {α β γ : Type} {R : α → β → Prop} {f : α → γ} {g : β → γ} {xs : List α}
    {ys : List β} (related : List.Forall₂ R xs ys) (same : ∀ x y, R x y → f x = g y) :
    xs.map f = ys.map g := by
  rw [← List.forall₂_eq_eq_eq, List.forall₂_map_left_iff, List.forall₂_map_right_iff]
  exact related.imp same

/-- The replies that are still in the history are those of the last turns. -/
theorem Session.recounts {p : Pipeline} {s : GameState} {told : List TurnResult}
    (run : Session p s told) : ∃ kept replies, kept <:+ told ∧ Recounts s.gameHistory replies ∧
      List.Forall₂ Wrote replies kept := by
  -- A completed turn adds its reply behind the others, and cleanup drops some from the front.
  induction run with
  | start p empty => exact ⟨[], [], List.suffix_rfl, empty ▸ .nil, .nil⟩
  | raised before ask now action call ih => exact ih
  | @returned p p' s told d d' r before ask now action call ih =>
    obtain ⟨skipped, same, -⟩ | ⟨⟨turn⟩⟩ := processTurn_cases call
    · rw [if_pos skipped, same]
      exact ih
    · obtain ⟨kept, replies, last, recounted, wrote⟩ := ih
      have grown : Recounts turn.recorded.gameHistory (replies ++ [turn.reply]) :=
        turn.written ▸ recounted.turn _ _
      obtain ⟨gone, left⟩ := grown.of_suffix (Coordinator.run_suffix turn.ran).1
      rw [← turn.state] at left
      rw [if_neg (by rw [turn.taken]; decide)]
      have all := List.rel_append wrote (.cons turn.wrote .nil)
      refine ⟨(kept ++ [r]).drop gone, _, ?_, left, List.forall₂_drop gone all⟩
      obtain ⟨earlier, rfl⟩ := last
      exact (List.drop_suffix gone _).trans ⟨earlier, (List.append_assoc _ _ _).symm⟩

/-- What is shown again of a session is what the player saw in the turns that are still in the history,
the last ones, unless one of them asks for special items. -/
theorem session_rehydrates {p : Pipeline} {s : GameState} {told : List TurnResult}
    (run : Session p s told) (plain : ∀ e ∈ s.gameHistory, ∀ story, e.story? = .ok (some story) →
      asksForItems story = false) :
    ∃ kept, kept <:+ told ∧
      (s.gameHistory.filter (·.role = .model)).map some = kept.map (·.written?) ∧
      rehydrate s = .ok (kept.map (·.displayText)) := by
  obtain ⟨kept, replies, last, recounted, wrote⟩ := run.recounts
  have unasked : ∀ reply ∈ replies, asksForItems reply.story = false := by
    intro reply member
    refine plain (.ofReply reply) ?_ reply.story (Entry.story?_ofReply reply)
    have listed := List.mem_map_of_mem member (f := Entry.ofReply)
    rw [← recounted.models] at listed
    exact List.mem_of_mem_filter listed
  refine ⟨kept, last, ?_, ?_⟩
  · rw [recounted.models, List.map_map]
    exact map_eq_of_forall₂ wrote fun reply r wrote => wrote.written.symm
  · rw [rehydrate_of_recounts recounted]
    refine congrArg _ (map_eq_of_forall₂ ((List.forall₂_and_left _ _).mpr ⟨unasked, wrote⟩) ?_)
    exact fun reply r ⟨quiet, wrote⟩ => (wrote.shown quiet s).symm

def quietHistory (history : List Entry) : Bool :=
  history.all fun e =>
    match e.story? with
    | .ok (some story) => !asksForItems story
    | _ => true

theorem plain_of_quietHistory {history : List Entry} (quiet : quietHistory history = true) :
    ∀ e ∈ history, ∀ story, e.story? = .ok (some story) → asksForItems story = false := by
  intro e member story told
  have here := List.all_eq_true.mp quiet e member
  rw [told] at here
  exact Bool.not_eq_true' _ |>.mp here

theorem Session.turn {p p' : Pipeline} {s : GameState} {told : List TurnResult} {d d' : Draws}
    {r : TurnResult} (before : Session p s told) {story : String} {now : Number}
    (call : tell story now s (p, d) = (.ok r, (p', d'))) (taken : r.skipped = false) :
    Session p' r.state (told ++ [r]) := by
  have after := before.returned _ _ _ call
  rwa [taken] at after

/-- With a window of two entries, the narrator tells of a dawn and then of a night. -/
def tellsTwice : Bool :=
  Play.passes (tell "Dawn. [TIME_ELAPSED: hours=1]" (.int 0) {}) (forgetful, {}) fun r (p, d) =>
    !r.skipped && decide (r.displayText = "Dawn.") &&
      Play.passes (tell "Night [TIME_ELAPSED: hours=9]falls." (.int 100) r.state) (p, d) fun r' _ =>
        !r'.skipped && decide (r'.displayText = "Night falls.") &&
          decide (r'.state.gameHistory.length = 2) && quietHistory r'.state.gameHistory

theorem night_rehydrates : ∃ p s told, Session p s told ∧
    told.map (·.displayText) = ["Dawn.", "Night falls."] ∧ s.gameHistory.length = 2 ∧
    (∀ e ∈ s.gameHistory, ∀ story, e.story? = .ok (some story) → asksForItems story = false) ∧
    ∃ kept, kept <:+ told ∧
      (s.gameHistory.filter (·.role = .model)).map some = kept.map (·.written?) ∧
      rehydrate s = .ok (kept.map (·.displayText)) := by
  have twice : tellsTwice = true := by decide +kernel
  obtain ⟨r, ⟨p, d⟩, dawn, twice⟩ := Play.exists_of_passes twice
  simp only [Bool.and_eq_true, Bool.not_eq_true', decide_eq_true_iff] at twice
  obtain ⟨⟨taken, first⟩, twice⟩ := twice
  obtain ⟨r', ⟨p', d'⟩, night, twice⟩ := Play.exists_of_passes twice
  simp only [Bool.and_eq_true, Bool.not_eq_true', decide_eq_true_iff] at twice
  obtain ⟨⟨⟨taken', second⟩, window⟩, quiet⟩ := twice
  have run := ((Session.start forgetful rfl).turn dawn taken).turn night taken'
  have plain := plain_of_quietHistory quiet
  refine ⟨p', r'.state, _, run, ?_, window, plain, session_rehydrates run plain⟩
  rw [← first, ← second]
  rfl

/-- A request for special items is shown in its turn, and the turn is still in the history. -/
def asksOnce : Bool :=
  Play.passes (tell "[SPECIAL_ITEM_GENERATE: quantities=1]" (.int 0) {}) (forgetful, {}) fun r _ =>
    !r.skipped && decide (r.displayText ≠ "") &&
      decide ((r.state.gameHistory.filter (·.role = .model)).map some = [r.written?]) &&
      decide ((rehydrate r.state).toOption = some [""])

/-- What is shown again of a request for special items is not what the player saw. -/
theorem request_not_rehydrated : ∃ p r, Session p r.state [r] ∧
    (r.state.gameHistory.filter (·.role = .model)).map some = [r.written?] ∧
    rehydrate r.state ≠ .ok [r.displayText] := by
  have once : asksOnce = true := by decide +kernel
  obtain ⟨r, ⟨p, d⟩, call, once⟩ := Play.exists_of_passes once
  simp only [Bool.and_eq_true, Bool.not_eq_true', decide_eq_true_iff] at once
  obtain ⟨⟨⟨taken, seen⟩, still⟩, again⟩ := once
  refine ⟨p, r, (Session.start forgetful rfl).turn call taken, still, fun same => seen ?_⟩
  rw [same] at again
  exact (List.cons.inj (Option.some.inj again)).1

end Gamebook
