import Gamebook.Record.Field
import Gamebook.Record.Reading

/-!
Settings of the turn pipeline: what the narrator is asked for, how many memories it is told, and how
soon one turn may follow another.
-/

namespace Gamebook

/-- What the narrator is told to be when nothing else is set. -/
def defaultInstruction : String :=
  "Bạn là người dẫn truyện của một trò chơi nhập vai. " ++
    "Trả lời bằng JSON \x7b\"story\": \"...\", \"choices\": [\"...\"]\x7d và dùng các thẻ " ++
    "[TAG: key=value] để cập nhật trạng thái trò chơi."

/-- Settings of the turn pipeline. -/
structure TurnConfig where
  maxTokens : Int := 2048
  temperature : Double := .ofRatio 4 5
  systemInstruction : String := defaultInstruction
  maxPromptMemories : Nat := 30
  cooldownSeconds : Double := .ofInt 1
  deriving DecidableEq

instance : Inhabited TurnConfig := ⟨{}⟩

namespace TurnConfig

def ofFields (f : Fields) : Checked TurnConfig :=
  mk <$> f.get "max_tokens" (Read.intBetween 1 none) 2048
    <*> f.get "temperature" (Read.doubleBetween 0 (some 2)) (.ofRatio 4 5)
    <*> f.get "system_instruction" Read.text defaultInstruction
    <*> f.get "max_prompt_memories" (Read.natFrom 0) 30
    <*> f.get "cooldown_seconds" (Read.doubleBetween 0 none) (.ofInt 1)

def read (v : Value) : Checked TurnConfig := (Read.object v).andThen ofFields

def toValue (c : TurnConfig) : Value :=
  .object
    [("max_tokens", .int c.maxTokens), ("temperature", .float c.temperature),
      ("system_instruction", .text c.systemInstruction),
      ("max_prompt_memories", .int c.maxPromptMemories),
      ("cooldown_seconds", .float c.cooldownSeconds)]

end TurnConfig

end Gamebook
