import Gamebook.Text.Case
import Gamebook.Text.Basic

/-!
Player actions as the history and the narrator see them. An action is framed by a header and quotes,
and the frame is taken off again when history is compressed.
-/

namespace Gamebook

/-- The header over a player's action. -/
def actionHeader : String := "--- HÀNH ĐỘNG CỦA NGƯỜI CHƠI ---"

/-- A player's action in its frame. -/
def frameAction (action : String) : String := actionHeader ++ "\n\"" ++ action ++ "\""

/-- What stands in front of a framed action. -/
def frameOpening : List Char := (actionHeader ++ "\n\"").toList

/-- The quoted action at the front of a text; an empty one does not count. -/
def framedAt? (cs : List Char) : Option (List Char) :=
  match Text.afterOpening? frameOpening cs with
  | none => none
  | some rest =>
    let action := rest.takeWhile (· != '"')
    if action.isEmpty || action.length = rest.length then none else some action

/-- The first framed action in a list of characters. -/
def findFramed : List Char → Option (List Char)
  | [] => none
  | c :: rest => (framedAt? (c :: rest)).orElse fun _ => findFramed rest

/-- The first framed action in a text. -/
def framedAction? (text : String) : Option String := (findFramed text.toList).map String.ofList

/-- The action by which the rules of the game are changed; it is not the player's own. -/
def systemAction : String := "SYSTEM_RULE_UPDATE"

def actionKeywords : List String :=
  ["tấn công", "đánh", "chiến đấu", "giết", "chém", "đâm", "nói với", "hỏi", "thuyết phục",
    "giao dịch", "mua", "bán", "đi đến", "di chuyển", "rời khỏi", "về", "sử dụng", "học",
    "trang bị", "lấy", "quyết định", "chọn", "tìm kiếm", "khám phá"]

/-- Whether an action is worth remembering. -/
def isImportantAction (action : String) : Bool := Text.occursAny actionKeywords (Text.lower action)

/-- An action in at most fifty characters. -/
def summarizeAction (action : String) : String := Text.ellipsize 50 action

/-- The action of a framed text as it is remembered, if it is worth remembering. -/
def keyAction? (text : String) : Option String := do
  let action ← framedAction? text
  if action ≠ systemAction && isImportantAction action then some (summarizeAction action) else none

end Gamebook
