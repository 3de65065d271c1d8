import Gamebook.History.Entry
import Gamebook.Narrator.Message
import Gamebook.Text.Basic

/-!
A narrator with canned replies. The first trigger that occurs in the player's latest message
decides; without one a quiet story is told.
-/

namespace Gamebook.Narrator

/-- A narrator with canned replies. -/
structure Canned where
  model : String := "mock"
  defaultStory : String := "Gió thổi qua khu rừng yên tĩnh."
  responses : Keyed String := []

namespace Canned

/-- Sets the reply to a trigger. -/
def setResponse (n : Canned) (trigger reply : String) : Canned :=
  { n with responses := n.responses.put trigger reply }

def latestOf (messages : List Message) : String :=
  ((messages.filter (·.role = "user")).getLast?.map (·.content)).getD ""

def reply (n : Canned) (messages : List Message) : String :=
  match n.responses.find? fun (trigger, _) => Text.occurs trigger (latestOf messages) with
  | some (_, canned) => canned
  | none => { story := n.defaultStory : Reply }.payload.json

end Canned

end Gamebook.Narrator
