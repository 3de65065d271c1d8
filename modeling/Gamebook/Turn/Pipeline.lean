import Gamebook.Cleanup.Coordinator
import Gamebook.Narrator.Decoding
import Gamebook.Skill.Usage
import Gamebook.Snapshots
import Gamebook.Substitution.Run
import Gamebook.Turn.Transcript

/-!
The turn pipeline. A turn takes the player's action through the rules, asks the narrator, plays the
tags of the reply, writes the history, cleans up once and saves a snapshot. A turn that is refused
or gets no reply leaves the state as it was.
-/

namespace Gamebook

open Narrator (Message)

/-- A pipeline with what it remembers between turns. -/
structure Pipeline where
  config : TurnConfig := {}
  rules : List Rule := []
  coordinator : Coordinator := { config := {} }
  snapshots : Option Snapshots := some {}
  lastCall : Option Number := none

/-- What a turn has come to. -/
structure TurnResult where
  displayText : String := ""
  choices : List String := []
  state : GameState
  events : List String := []
  unprocessed : List String := []
  failed : List String := []
  reasoning : Option String := none
  cleanup : Option CleanupResult := none
  turn : Nat
  skipped : Bool := false
  error : Option String := none
  sent : Option (List Message) := none

namespace TurnResult

/-- The result of a turn that did not take place. -/
def refused (s : GameState) (error : String) (sent : Option (List Message) := none) :
    TurnResult :=
  { state := s, turn := s.turnCount, skipped := true, error := some error, sent }

end TurnResult

/-- A step of a pipeline, which may draw and may fail. What the pipeline remembers by then and what
was drawn stays. -/
abbrev Step := ExceptT Failure (StateM (Pipeline × Draws))

namespace Step

def ofPlay {α : Type} (x : Play α) : Step α := fun (p, d) =>
  let (r, d) := x d
  (r, (p, d))

def ofOutcome {α : Type} (x : Outcome α) : Step α := fun pd => (x, pd)

def pipeline : Step Pipeline := fun (p, d) => (.ok p, (p, d))

def remember (f : Pipeline → Pipeline) : Step Unit := fun (p, d) => (.ok (), (f p, d))

def cleanUp (s : GameState) : Step CleanupResult := fun (p, d) =>
  let (r, coordinator) := p.coordinator.run s
  (r, ({ p with coordinator }, d))

end Step

namespace Pipeline

/-- Whether a call comes too soon after the last one. -/
def coolingDown (p : Pipeline) (now : Number) : Outcome Bool :=
  match p.lastCall with
  | none => .ok false
  | some last => do
    let passed ← Outcome.ofArithmetic (now.sub? last)
    return passed.lt (.float p.config.cooldownSeconds)

/-- The occasion of texts in a turn. -/
def occasionOf (s : GameState) : Occasion := { depth := some s.turnCount }

end Pipeline

/-- The event of a skill that was used. -/
def usageEvent (gain : Skill.Gain) : String :=
  "Skill used: " ++ gain.skill.name ++ " +" ++ gain.expGained.text ++ " exp"

/-- The state with a turn written into its history. -/
def recordTurn (s : GameState) (action : String) (reply : Reply) (length : Nat) : GameState :=
  { s with
    gameHistory := s.gameHistory ++ [.ofUser (frameAction action), .ofReply reply]
    turnCount := s.turnCount + 1
    totalTokens := s.totalTokens + estimateTokens length }

/-- Saves a snapshot if the pipeline keeps any. -/
def saveSnapshot (s : GameState) : Step Unit :=
  Step.remember fun p => { p with snapshots := p.snapshots.map (·.save s) }

/-- Plays a reply and brings the turn to its end. -/
def finishTurn (s : GameState) (action : String) (macros : MacroContext)
    (messages : List Message) (raw : String) : Step TurnResult := do
  let p ← Step.pipeline
  let decoded ← Step.ofOutcome (Narrator.decode raw)
  let story ← Step.ofOutcome
    (processText macros (Pipeline.occasionOf s) .narratorOutput p.rules decoded.story)
  let told ← Step.ofPlay (interpret p.rules story s)
  let (practised, gains) ← Step.ofOutcome (Skill.awardUsage told.state action)
  let recorded := recordTurn practised action { story, choices := decoded.choices }
    (conversationLength messages + raw.length)
  let cleanup ← Step.cleanUp recorded
  let next := applyCleanup recorded cleanup
  saveSnapshot next
  return {
    displayText := told.displayText
    choices := decoded.choices
    state := next
    events := told.events ++ gains.map usageEvent
    unprocessed := told.unprocessed
    failed := told.failed
    reasoning := told.reasoning
    cleanup := some cleanup
    turn := next.turnCount
    sent := some messages }

/-- Processes a turn. `ask` is the narrator: it replies to a conversation or fails with a reason. -/
def processTurn (ask : List Message → Except String String) (now : Number) (s : GameState)
    (action : String) : Step TurnResult := do
  let p ← Step.pipeline
  let tooSoon ← Step.ofOutcome (p.coolingDown now)
  if tooSoon then return .refused s "Cooldown active"
  else
    Step.remember fun p => { p with lastCall := some now }
    let macros ← Step.ofOutcome (Outcome.ofChecked (MacroContext.ofState s (some action)))
    let action ← Step.ofOutcome
      (processText macros (Pipeline.occasionOf s) .playerInput p.rules action)
    let messages := buildMessages p.config s action
    match ask messages with
    | .error reason => return .refused s reason (some messages)
    | .ok raw => finishTurn s action macros messages raw

end Gamebook
