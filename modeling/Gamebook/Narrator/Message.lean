import Gamebook.Value

/-!
Messages of the conversation with the narrator.
-/

namespace Gamebook.Narrator

/-- A message of a conversation. -/
structure Message where
  role : String
  content : String
  deriving DecidableEq, Inhabited

namespace Message

def toValue (m : Message) : Value := .object [("role", .text m.role), ("content", .text m.content)]

end Message

end Gamebook.Narrator
