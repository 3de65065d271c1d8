import Gamebook.History.Entry
import Gamebook.Text.Basic

/-!
Decoding replies. The narrator should answer with structured text, which may stand in a fence of
backticks; whatever else comes is taken as the story.
-/

namespace Gamebook.Narrator

open Text

def fence : List Char := ['\x60', '\x60', '\x60']

/-- What stands in a text before a closing fence at its end. -/
def beforeFence? (cs : List Char) : Option (List Char) :=
  (afterOpening? fence cs.reverse).map List.reverse

/-- What a fence around a whole text encloses, without the blanks at either end. -/
def unfenced? (cs : List Char) : Option (List Char) := do
  let rest ← afterOpening? fence cs
  let body := (afterOpening? "json".toList rest).getD rest
  let inner ← beforeFence? (body.dropWhile isBlank)
  return trimEndChars inner

/-- The structured text of a reply. -/
def payloadText (raw : String) : String :=
  let cs := trimChars raw.toList
  String.ofList ((unfenced? cs).getD cs)

/-- The story and the choices of a reply. The only fault is a number too long to read. -/
def decode (raw : String) : Outcome Reply :=
  match Json.read (payloadText raw) with
  | .error (.tooLong digits) => .error (.numeralTooLong digits)
  | .error .malformed => .ok { story := raw }
  | .ok v =>
    match Reply.storyOf? v with
    | some story => .ok { story, choices := Reply.choicesOf v }
    | none => .ok { story := raw }

end Gamebook.Narrator
