import Gamebook.History.Action
import Gamebook.Memory.Enhancement
import Gamebook.Narrator.Message
import Gamebook.Tag.Interpretation
import Gamebook.Turn.Config

/-!
Transcripts: the conversation that is sent to the narrator, and the stories that the player has
seen.
-/

namespace Gamebook

open Narrator (Message)

/-- The memories that the narrator is told: pinned ones first, then the most important. -/
def promptMemories (limit : Nat) (memories : List Memory) : List Memory :=
  (memories.filter (·.pinned) ++ byImportance (memories.filter (!·.pinned))).take limit

/-- A section with a heading and a line for each item; none without items. -/
def headedList (heading : String) (items : List String) : List String :=
  if items.isEmpty then []
  else [heading ++ "\n" ++ Text.join "\n" (items.map fun item => "- " ++ item)]

/-- What the narrator is told before the history. -/
def systemText (c : TurnConfig) (s : GameState) : String :=
  Text.join "\n\n"
    (c.systemInstruction ::
      (headedList "KÝ ỨC:" ((promptMemories c.maxPromptMemories s.memories).map (·.text)) ++
        headedList "TÓM TẮT LỊCH SỬ:" (s.compressedHistory.map (·.summary))))

/-- A history entry as a message. -/
def Entry.toMessage (e : Entry) : Message :=
  { role := match e.role with
      | .user => "user"
      | .model => "assistant"
    content := e.text }

/-- The conversation that asks for the next turn. -/
def buildMessages (c : TurnConfig) (s : GameState) (action : String) : List Message :=
  { role := "system", content := systemText c s } ::
    (s.gameHistory.map Entry.toMessage ++ [{ role := "user", content := frameAction action }])

/-- The number of characters of a conversation. -/
def conversationLength (messages : List Message) : Nat :=
  messages.foldr (fun m n => m.content.length + n) 0

/-- The text that is shown for a story whose tags have no effect. -/
def shownStory (s : GameState) (story : String) : String := (preview story s).displayText

/-- The texts of all stories in the history, as they are shown. -/
def rehydrate (s : GameState) : Outcome (List String) := do
  let stories ← s.gameHistory.mapM Entry.story?
  return (stories.filterMap id).map (shownStory s)

end Gamebook
