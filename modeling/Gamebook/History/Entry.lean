import Gamebook.Failure
import Gamebook.Json.Reader
import Gamebook.Json.Writer
import Gamebook.Record.Field
import Gamebook.Record.Reading
import Gamebook.Value.Display

/-!
The raw history: what the player did and what the narrator replied, entry by entry. A reply is kept
as a structured text with a story and a list of choices, and both can be read back from it.
-/

namespace Gamebook

/-- The speaker of an entry. -/
inductive Role where
  | user
  | model
  deriving DecidableEq, Inhabited

namespace Role

def name : Role → String
  | .user => "user"
  | .model => "model"

def ofName? (s : String) : Option Role := [user, model].find? (·.name = s)

end Role

/-- One entry of the history; its text comes in parts. -/
structure Entry where
  role : Role
  parts : List String := []
  deriving DecidableEq, Inhabited

/-- The story and the choices of a narrator's reply. -/
structure Reply where
  story : String
  choices : List String := []
  deriving DecidableEq, Inhabited

namespace Reply

/-- The structured text that carries a reply. -/
def payload (r : Reply) : Value :=
  .object [("story", .text r.story), ("choices", .texts r.choices)]

/-- The story of a payload, if it is an object with one. -/
def storyOf? : Value → Option String
  | .object fields =>
    match Keyed.get? fields "story" with
    | some (.text s) => some s
    | _ => none
  | _ => none

/-- The choices of a payload; whatever is not a text is shown as one. -/
def choicesOf : Value → List String
  | .object fields =>
    match Keyed.get? fields "choices" with
    | some (.list items) => items.map Value.display
    | _ => []
  | _ => []

end Reply

namespace Entry

def text (e : Entry) : String := String.join e.parts

/-- The entry of a player's action. -/
def ofUser (s : String) : Entry := { role := .user, parts := [s] }

/-- The entry of a narrator's reply. -/
def ofReply (r : Reply) : Entry := { role := .model, parts := [r.payload.json] }

/-- The payload of a narrator's entry; none if the entry has no readable one. The only fault is a
number too long to read. -/
def payload? (e : Entry) : Outcome (Option Value) :=
  match e.role with
  | .user => .ok none
  | .model =>
    match Json.read e.text with
    | .ok v => .ok (some v)
    | .error .malformed => .ok none
    | .error (.tooLong digits) => .error (.numeralTooLong digits)

/-- The story of a narrator's entry, if it has one. -/
def story? (e : Entry) : Outcome (Option String) :=
  e.payload?.map fun v => v.bind Reply.storyOf?

/-- The choices of a narrator's entry. -/
def choices (e : Entry) : Outcome (List String) :=
  e.payload?.map fun v => (v.map Reply.choicesOf).getD []

def readRole (v : Value) : Checked Role :=
  (Read.text v).andThen fun s => .ofOption (Role.ofName? s)

def readPart (v : Value) : Checked String :=
  (Read.object v).andThen fun f => f.get "text" Read.text ""

/-- Reads an entry from its fields. -/
def ofFields (f : Fields) : Checked Entry :=
  mk <$> f.need "role" readRole <*> f.get "parts" (Read.list readPart) []

def read (v : Value) : Checked Entry := (Read.object v).andThen ofFields

/-- The fields of a part with their defaults. -/
def partSlots (s : String) : List Slot := [.text "text" s]

/-- The fields of an entry with their defaults, its parts written in full or briefly. -/
def slots (inner : List Slot → Fields) (e : Entry) : List Slot :=
  [⟨"role", .text e.role.name, false⟩,
    ⟨"parts", .list (e.parts.map fun s => .object (inner (partSlots s))), e.parts.isEmpty⟩]

def toValue (e : Entry) : Value := .object (Slot.full (e.slots Slot.full))

/-- The entry without the fields that have their defaults. -/
def brief (e : Entry) : Value := .object (Slot.brief (e.slots Slot.brief))

end Entry

end Gamebook
