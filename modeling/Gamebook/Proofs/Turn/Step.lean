import Gamebook.Proofs.Cleanup.Pass
import Gamebook.Proofs.Play
import Gamebook.Turn.Pipeline

/-!
Steps of a pipeline taken apart: what a turn that was completed did. Cleanup is asked once, at the
end of the turn, and the coordinator is left alone before; so a turn that was skipped or failed
earlier leaves it as it was.
-/

namespace Gamebook

open Narrator (Message)
open Play (Yields bind_eq_ok pure_eq_ok)

namespace Step

variable {α β : Type} {a : α} {pd pd' : Pipeline × Draws}

theorem ofOutcome_eq_ok {x : Outcome α} :
    ofOutcome x pd = (.ok a, pd') ↔ x = .ok a ∧ pd = pd' :=
  Prod.ext_iff

theorem ofPlay_eq_ok {x : Play α} (h : ofPlay x pd = (.ok a, pd')) :
    ∃ d', x pd.2 = (.ok a, d') ∧ pd' = (pd.1, d') := by
  obtain ⟨p, d⟩ := pd
  obtain ⟨result, next⟩ := Prod.ext_iff.mp h
  exact ⟨(x d).2, Prod.ext result rfl, next.symm⟩

theorem pipeline_eq_ok {p : Pipeline} : pipeline pd = (.ok p, pd') ↔ pd.1 = p ∧ pd = pd' := by
  obtain ⟨q, d⟩ := pd
  constructor
  · intro h
    cases h
    exact ⟨rfl, rfl⟩
  · rintro ⟨rfl, rfl⟩
    rfl

theorem remember_eq_ok {f : Pipeline → Pipeline} {u : Unit}
    (h : remember f pd = (.ok u, pd')) : pd' = (f pd.1, pd.2) := by
  cases h
  rfl

theorem cleanUp_eq_ok {s : GameState} {r : CleanupResult} (h : cleanUp s pd = (.ok r, pd')) :
    (pd.1.coordinator.run s).1 = .ok r ∧
      pd' = ({ pd.1 with coordinator := (pd.1.coordinator.run s).2 }, pd.2) := by
  obtain ⟨result, next⟩ := Prod.ext_iff.mp h
  exact ⟨result, next.symm⟩

/-! ### What the coordinator keeps -/

/-- Whether a step keeps a property of the coordinator, even if it fails. -/
def Keeps (Q : Coordinator → Prop) (x : Step α) : Prop :=
  ∀ pd, Q pd.1.coordinator → Q (x pd).2.1.coordinator

variable {Q : Coordinator → Prop} {x : Step α} {f : α → Step β}

theorem keeps_pure (a : α) : Keeps Q (pure a) := fun _ h => h

theorem keeps_bind (first : Keeps Q x) (rest : ∀ a, Keeps Q (f a)) : Keeps Q (x >>= f) := by
  intro pd h
  have kept := first pd h
  simp only [bind, ExceptT.bind, ExceptT.mk, StateT.bind]
  rcases ran : x pd with ⟨e | a, next⟩ <;> rw [ran] at kept
  · exact kept
  · exact rest a next kept

theorem keeps_ofOutcome (x : Outcome α) : Keeps Q (ofOutcome x) := fun _ h => h

theorem keeps_ofPlay (x : Play α) : Keeps Q (ofPlay x) := fun _ h => h

theorem keeps_pipeline : Keeps Q pipeline := fun _ h => h

theorem keeps_remember {f : Pipeline → Pipeline} (same : ∀ p, (f p).coordinator = p.coordinator) :
    Keeps Q (remember f) := fun pd h => (same pd.1).symm ▸ h

theorem keeps_cleanUp (s : GameState) (run : ∀ k : Coordinator, Q k → Q (k.run s).2) :
    Keeps Q (cleanUp s) := fun pd h => run pd.1.coordinator h

end Step

/-! ### Turns -/

open Step

variable {ask : List Message → Except String String} {now : Number} {s : GameState}
  {action : String} {p p' : Pipeline} {d d' : Draws} {r : TurnResult}

/-- What a completed turn did: the coordinator ran once, on the state with the turn written into its
history, and the result is that state after cleanup. -/
structure Completes (p : Pipeline) (r : TurnResult) (p' : Pipeline) where
  recorded : GameState
  cleanup : CleanupResult
  ran : (p.coordinator.run recorded).1 = .ok cleanup
  coordinator : p'.coordinator = (p.coordinator.run recorded).2
  state : r.state = applyCleanup recorded cleanup
  turn : r.turn = recorded.turnCount
  noted : r.cleanup = some cleanup
  taken : r.skipped = false

/-- What a completed turn told: the narrator's reply was interpreted, the action earned experience, and
both were written into the history. -/
structure Tells (s : GameState) (p : Pipeline) (r : TurnResult) (p' : Pipeline) extends
    Completes p r p' where
  heard : String
  reply : Reply
  told : Interpretation
  practised : GameState × List Skill.Gain
  length : Nat
  interpreted : Yields (interpret p.rules reply.story s) told
  awarded : Skill.awardUsage told.state heard = .ok practised
  record : recorded = recordTurn practised.1 heard reply length
  shown : r.displayText = told.displayText

theorem applyCleanup_turnCount (s : GameState) (r : CleanupResult) :
    (applyCleanup s r).turnCount = s.turnCount := by
  rw [applyCleanup]
  split_ifs <;> rfl

theorem finishTurn_eq_ok {macros : MacroContext} {messages : List Message} {raw : String}
    (h : finishTurn s action macros messages raw (p, d) = (.ok r, (p', d'))) :
    Nonempty (Tells s p r p') := by
  obtain ⟨q, pd, same, h⟩ := bind_eq_ok.mp h
  obtain ⟨rfl, rfl⟩ := pipeline_eq_ok.mp same
  obtain ⟨decoded, pd, ok, h⟩ := bind_eq_ok.mp h
  obtain ⟨-, rfl⟩ := ofOutcome_eq_ok.mp ok
  obtain ⟨story, pd, ok, h⟩ := bind_eq_ok.mp h
  obtain ⟨-, rfl⟩ := ofOutcome_eq_ok.mp ok
  obtain ⟨told, pd, ok, h⟩ := bind_eq_ok.mp h
  obtain ⟨d₁, interpreted, rfl⟩ := ofPlay_eq_ok ok
  obtain ⟨⟨practised, gains⟩, pd, ok, h⟩ := bind_eq_ok.mp h
  obtain ⟨awarded, rfl⟩ := ofOutcome_eq_ok.mp ok
  obtain ⟨cleanup, pd, ok, h⟩ := bind_eq_ok.mp h
  obtain ⟨ran, rfl⟩ := cleanUp_eq_ok ok
  obtain ⟨u, pd, ok, h⟩ := bind_eq_ok.mp h
  obtain rfl := remember_eq_ok ok
  obtain ⟨rfl, same⟩ := pure_eq_ok.mp h
  obtain rfl := congrArg Prod.fst same
  exact ⟨{
    recorded := _
    cleanup
    ran
    coordinator := rfl
    state := rfl
    turn := applyCleanup_turnCount _ cleanup
    noted := rfl
    taken := rfl
    heard := action
    reply := { story, choices := decoded.choices }
    told
    practised := (practised, gains)
    length := _
    interpreted := ⟨_, d₁, interpreted⟩
    awarded
    record := rfl
    shown := rfl }⟩

/-- A turn is either skipped, and the state is as it was, or it told something. -/
theorem processTurn_cases (h : processTurn ask now s action (p, d) = (.ok r, (p', d'))) :
    r.skipped = true ∧ r.state = s ∧ p'.coordinator = p.coordinator ∨
      Nonempty (Tells s p r p') := by
  obtain ⟨q, pd, same, h⟩ := bind_eq_ok.mp h
  obtain ⟨rfl, rfl⟩ := pipeline_eq_ok.mp same
  obtain ⟨tooSoon, pd, ok, h⟩ := bind_eq_ok.mp h
  obtain ⟨-, rfl⟩ := ofOutcome_eq_ok.mp ok
  split_ifs at h
  · obtain ⟨rfl, same⟩ := pure_eq_ok.mp h
    obtain rfl := congrArg Prod.fst same
    exact .inl ⟨rfl, rfl, rfl⟩
  · obtain ⟨u, pd, ok, h⟩ := bind_eq_ok.mp h
    obtain rfl := remember_eq_ok ok
    obtain ⟨macros, pd, ok, h⟩ := bind_eq_ok.mp h
    obtain ⟨-, rfl⟩ := ofOutcome_eq_ok.mp ok
    obtain ⟨heard, pd, ok, h⟩ := bind_eq_ok.mp h
    obtain ⟨-, rfl⟩ := ofOutcome_eq_ok.mp ok
    dsimp only at h
    cases answered : ask (buildMessages p.config s heard) with
    | error reason =>
      rw [answered] at h
      obtain ⟨rfl, same⟩ := pure_eq_ok.mp h
      obtain rfl := congrArg Prod.fst same
      exact .inl ⟨rfl, rfl, rfl⟩
    | ok raw =>
      rw [answered] at h
      obtain ⟨turn⟩ := finishTurn_eq_ok h
      exact .inr ⟨{ turn with }⟩

/-- A turn is either skipped, or completed with one pass of cleanup. -/
theorem processTurn_eq_ok (h : processTurn ask now s action (p, d) = (.ok r, (p', d'))) :
    r.skipped = true ∧ p'.coordinator = p.coordinator ∨ Nonempty (Completes p r p') := by
  obtain ⟨skipped, -, same⟩ | ⟨⟨turn⟩⟩ := processTurn_cases h
  · exact .inl ⟨skipped, same⟩
  · exact .inr ⟨turn.toCompletes⟩

/-- A turn keeps of the coordinator what cleanup keeps. -/
theorem processTurn_keeps {Q : Coordinator → Prop} (run : ∀ k s, Q k → Q (Coordinator.run k s).2) :
    Keeps Q (processTurn ask now s action) := by
  refine keeps_bind keeps_pipeline fun p => keeps_bind (keeps_ofOutcome _) fun tooSoon => ?_
  split_ifs
  · exact keeps_pure _
  refine keeps_bind (keeps_remember fun _ => rfl) fun _ => ?_
  refine keeps_bind (keeps_ofOutcome _) fun macros => keeps_bind (keeps_ofOutcome _) fun heard => ?_
  dsimp only
  cases ask (buildMessages p.config s heard) with
  | error reason => exact keeps_pure _
  | ok raw =>
    refine keeps_bind keeps_pipeline fun p => keeps_bind (keeps_ofOutcome _) fun decoded => ?_
    refine keeps_bind (keeps_ofOutcome _) fun story => keeps_bind (keeps_ofPlay _) fun told => ?_
    refine keeps_bind (keeps_ofOutcome _) fun (practised, gains) => ?_
    refine keeps_bind (keeps_cleanUp _ fun k => run k _) fun cleanup => ?_
    exact keeps_bind (keeps_remember fun _ => rfl) fun _ => keeps_pure _

end Gamebook
